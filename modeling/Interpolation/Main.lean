import Interpolation.CommandLine

/-!
# The program

Runs the command on the arguments of the process: reads the settings file, if one is asked for,
prints the outcome and ends with its code.
-/

namespace Interpolation

/-- The text of a file, or why it cannot be read. -/
def readSettingsFile (path : Text) : IO (Except Text Text) := do
  try
    let contents ← IO.FS.readFile (String.ofList path)
    pure (.ok contents.toList)
  catch e =>
    match e with
    | .noFileOrDirectory _ code _ =>
      pure (.error s!"No such file or directory (os error {code})".toList)
    | e => pure (.error e.toString.toList)

end Interpolation

open Interpolation in
/-- Runs the command on the arguments of the process. -/
def main (arguments : List String) : IO UInt32 := do
  let arguments := arguments.map String.toList
  let path := match Invocation.ofArguments arguments with
    | .ok i => i.settings
    | .error _ => none
  let contents : Except Text Text ← match path with
    | some path => readSettingsFile path
    | none => pure (.error [])
  let outcome := runCommand arguments fun _ => contents
  (← IO.getStdout).putStr (String.ofList outcome.output)
  (← IO.getStderr).putStr (String.ofList outcome.errors)
  pure outcome.exitCode.toUInt32
