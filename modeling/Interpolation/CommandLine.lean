import Interpolation.Settings

/-!
# The command line

The command expands the references in its arguments, one line of output for each.

* `Invocation` is what the arguments ask for, `Invocation.ofArguments` reads them;
* `Invocation.run` is what the command then does, given the files it may read.

Options are `--settings FILE`, `--define NAME=VALUE` or `-D NAME=VALUE`, which may be repeated,
and `--verbose`; their values may also be attached. Behind `--` everything is a text to expand.
-/

namespace Interpolation

/-- What the arguments ask for. -/
structure Invocation where
  settings : Option Text := none
  definitions : List (Text × Text) := []
  verbose : Bool := false
  texts : List Text := []

/-- What is wrong with the arguments. -/
inductive UsageError where
  /-- Help or the version is asked for: nothing is wrong. -/
  | informationWanted
  | unknownOption (option : Text)
  | missingValue (option : Text)
  | unexpectedValue (option : Text)
  | repeatedOption (option : Text)
  | badDefinition (definition : Text)
  | noText
  deriving DecidableEq, Repr

/-- What the command leaves behind. -/
structure Outcome where
  exitCode : Nat
  output : Text
  errors : Text
  deriving DecidableEq, Repr

namespace Invocation

/-- An option that takes a value. -/
inductive ValueOption where
  | settings
  | define
  deriving DecidableEq

/-- Gives an option its value. -/
def give (i : Invocation) (option value : Text) : ValueOption → Except UsageError Invocation
  | .settings =>
    if i.settings.isSome then .error (.repeatedOption option)
    else if value.isEmpty then .error (.missingValue option)
    else .ok { i with settings := some value }
  | .define =>
    match Text.splitOnce? ['='] value with
    | some d => .ok { i with definitions := i.definitions ++ [d] }
    | none => .error (.badDefinition value)

/-- Takes a text to expand. -/
def addText (i : Invocation) (t : Text) : Invocation :=
  { i with texts := i.texts ++ [t] }

/-- Whether an argument is an option or the sign that none follow. -/
def isOption (t : Text) : Bool :=
  t.head? = some '-' && t.length > 1

/-- Sets the switch for more messages. -/
def setVerbose (i : Invocation) (option : Text) : Except UsageError Invocation :=
  if i.verbose then .error (.repeatedOption option) else .ok { i with verbose := true }

/-- Reads arguments. -/
def readArguments (i : Invocation) : List Text → Except UsageError Invocation
  | [] => .ok i
  | t :: ts =>
    let separate (i : Invocation) (kind : ValueOption) : Except UsageError Invocation :=
      match ts with
      | [] => .error (.missingValue t)
      | value :: ts =>
        if isOption value then .error (.missingValue t)
        else do readArguments (← i.give t value kind) ts
    let attached (value : Text) (kind : ValueOption) : Except UsageError Invocation := do
      readArguments (← i.give t value kind) ts
    match t with
    | ['-', '-'] => .ok (ts.foldl addText i)
    | '-' :: '-' :: option =>
      let (name, value) := match Text.splitOnce? ['='] option with
        | some (name, value) => (name, some value)
        | none => (option, none)
      match String.ofList name, value with
      | "settings", none => separate i .settings
      | "settings", some value => attached value .settings
      | "define", none => separate i .define
      | "define", some value => attached value .define
      | "verbose", none => do readArguments (← i.setVerbose t) ts
      | "help", none | "version", none => .error .informationWanted
      | "help", some _ | "version", some _ | "verbose", some _ => .error (.unexpectedValue t)
      | _, _ => .error (.unknownOption t)
    | ['-', 'D'] => separate i .define
    | '-' :: 'D' :: '=' :: value => attached value .define
    | '-' :: 'D' :: value => attached value .define
    | '-' :: 'h' :: _ | '-' :: 'V' :: _ => .error .informationWanted
    | '-' :: _ :: _ => .error (.unknownOption t)
    | _ => readArguments (i.addText t) ts

/-- Reads the arguments of the command, of which one at least has to be a text. -/
def ofArguments (ts : List Text) : Except UsageError Invocation := do
  let i ← readArguments {} ts
  if i.texts.isEmpty then .error .noText else .ok i

/-- A text as a line. -/
def line (t : Text) : Text :=
  t ++ ['\n']

/-- Expands texts one after another, each in a session of its own, and stops at the first
error. -/
def expandAll (s : Store) (output : Text) : List Text → Outcome
  | [] => ⟨0, output, []⟩
  | t :: ts =>
    match s.expand t with
    | some (.ok u, s) => expandAll s (output ++ line u) ts
    | some (.error e, _) => ⟨1, output, line e.message⟩
    | none => ⟨1, output, line "the expansion does not end".toList⟩

/-- Runs the command. `readFile` gives the text of a file, or why it cannot be read. -/
def run (i : Invocation) (readFile : Text → Except Text Text) : Outcome :=
  let settings : Except Text Settings :=
    match i.settings with
    | none => .ok {}
    | some path =>
      match readFile path with
      | .error reason =>
        .error ("Cannot read ".toList ++ path ++ [':', ' '] ++ reason)
      | .ok json =>
        match Settings.read json with
        | .ok settings => .ok settings
        | .error fault => .error fault.message
  match settings with
  | .error message => ⟨1, [], line message⟩
  | .ok settings =>
    match settings.store with
    | .error e => ⟨1, [], line e.message⟩
    | .ok s =>
      expandAll (i.definitions.foldl (fun s (name, value) => s.setProperty name value) s) []
        i.texts

end Invocation

/-- What the command does with its arguments. Wrong ones end it with the code 2. -/
def runCommand (arguments : List Text) (readFile : Text → Except Text Text) : Outcome :=
  match Invocation.ofArguments arguments with
  | .ok i => i.run readFile
  | .error .informationWanted => ⟨0, [], []⟩
  | .error _ => ⟨2, [], []⟩

end Interpolation
