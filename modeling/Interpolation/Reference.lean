import Interpolation.Host
import Interpolation.Text.Position

/-!
# References in a text

A reference is a name between `${` and a closing brace; the name may itself hold references.

* `Reference.readName` reads the name of the reference at the position, leaving it to the host to
  consume the references inside;
* `Reference.expand` replaces every reference in a text by what the host makes of it; `$$` stands
  for a dollar sign.
-/

namespace Interpolation.Reference

/-- Reads the rest of a name, the part in front being given, up to the closing brace. There is no
name if the text ends first, or if the host leaves a position that is none. The fuel bounds the
number of characters and references. -/
def readNameFrom (host : Host) (input : Text) : Nat → Text → Scan (Option Text)
  | 0, _ => Scan.exhausted
  | fuel + 1, name => do
    match input.charAt? (← Scan.position) with
    | none => pure none
    | some c =>
      if c = '}' then do
        Scan.advance 1
        pure (some name)
      else
        match ← host.nextReference input with
        | some v => readNameFrom host input fuel (name ++ v.render)
        | none =>
          match input.charAt? (← Scan.position) with
          | none => pure none
          | some c => do
            Scan.advance c.utf8Size
            readNameFrom host input fuel (name ++ [c])

/-- Whether a reference can begin here: behind its opening sign something has to follow. -/
def opens : Text → Bool
  | '$' :: '{' :: _ :: _ => true
  | _ => false

/-- Reads the name of the reference at the position and moves behind its closing brace. The
position stays where it is if there is no reference. A host that only moves forward leaves no more
steps than the text has bytes. -/
def readName (host : Host) (input : Text) : Scan (Option Text) := do
  let start ← Scan.position
  if ((input.from? start).map opens).getD false then do
    Scan.moveTo (start + 2)
    match ← readNameFrom host input (input.byteLength + 1) [] with
    | some name => pure (some name)
    | none => do
      Scan.moveTo start
      pure none
  else pure none

/-- Expands the rest of a text from a position on. The fuel bounds the number of characters and
references. -/
def expandFrom (host : Host) (text : Text) : Nat → Nat → Eval Text
  | 0, _ => Eval.exhausted
  | fuel + 1, pos =>
    match text.from? pos with
    | none | some [] => pure []
    | some (c :: rest) =>
      if c = '$' ∧ rest.head? = some '$' then do
        let out ← expandFrom host text fuel (pos + 2)
        pure ('$' :: out)
      else do
        let (found, pos) ← Scan.runFrom pos (host.nextReference text)
        match found with
        | some v => do
          let out ← expandFrom host text fuel pos
          pure (v.render ++ out)
        | none => do
          let out ← expandFrom host text fuel (pos + c.utf8Size)
          pure (c :: out)

/-- Replaces every reference in a text. -/
def expand (host : Host) (text : Text) : Eval Text :=
  expandFrom host text (text.byteLength + 1) 0

end Interpolation.Reference
