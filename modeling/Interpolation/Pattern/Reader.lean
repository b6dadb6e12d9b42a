import Interpolation.Pattern.Reader.Class
import Interpolation.Pattern.Search

/-!
# The written form of patterns

`Pattern.read` reads a pattern from its written form. A sign is read after another, and the
groups that are still open stand on a stack:

* `Reader` is the state between two signs, `Level` what has been read of one group;
* `Reader.run` reads all signs;
* `Pattern.readNested` reads a pattern however deep it nests, and `Pattern.read` refuses what nests
  deeper than `maxDepth`.

Characters stand for themselves but for `\ . + * ? ( ) | [ { ^ $`; groups are numbered by their
opening parentheses. How deep a pattern nests is bounded, how large it is with its counted
repetitions written out is not.
-/

namespace Interpolation.Pattern

/-- What has been read of a group. -/
structure Level where
  /-- The alternatives that are complete. -/
  alternatives : Option (Nested Pattern) := none
  /-- The parts of the alternative being read, the latest first. A change of settings is a part
  without a pattern: it cannot be repeated. -/
  parts : List (Option (Nested Pattern)) := []

namespace Level

/-- Adds a part. -/
def push (l : Level) (p : Nested Pattern) : Level :=
  { l with parts := some p :: l.parts }

/-- The alternative being read. -/
def last (l : Level) : Nested Pattern :=
  let parts := l.parts.reverse
  ⟨seqs (parts.filterMap (Option.map Nested.value)),
    sideBySide (parts.map fun part => (part.map Nested.depth).getD 0)⟩

/-- All alternatives so far, side by side. -/
def joined (l : Level) : Nested Pattern :=
  match l.alternatives with
  | none => l.last
  | some p => ⟨.alt p.value l.last.value, max p.depth l.last.depth⟩

/-- The pattern of the group. -/
def nested (l : Level) : Nested Pattern :=
  if l.alternatives.isSome then l.joined.within id else l.joined

/-- Begins another alternative. -/
def next (l : Level) : Level :=
  { alternatives := some l.joined, parts := [] }

end Level

/-- A group that is still open: what stands around it, the settings to go back to, and its number
if it catches. -/
structure Opened where
  around : Level
  flags : Flags
  number : Option Nat

/-- The state between two signs. -/
structure Reader where
  level : Level := {}
  opened : List Opened := []
  flags : Flags := {}
  /-- The number of catching groups so far. -/
  groups : Nat := 0
  /-- The names of groups so far. -/
  names : List Text := []

namespace Reader

/-- Adds a part to the group being read. -/
def push (r : Reader) (p : Nested Pattern) : Reader :=
  { r with level := r.level.push p }

/-- Repeats the last part. -/
def repeatLast (r : Reader) (f : Pattern → Pattern) : Except Fault Reader :=
  match r.level.parts with
  | some p :: parts =>
    .ok { r with level := { r.level with parts := some (p.within f) :: parts } }
  | _ => .error .nothingToRepeat

/-- Opens a group. -/
def openGroup (r : Reader) (number : Option Nat) (flags : Flags) : Reader :=
  { r with level := {}, opened := ⟨r.level, r.flags, number⟩ :: r.opened, flags := flags }

/-- Opens a catching group. -/
def openNumbered (r : Reader) : Reader :=
  { r.openGroup (some (r.groups + 1)) r.flags with groups := r.groups + 1 }

/-- Closes the innermost group. -/
def closeGroup (r : Reader) : Except Fault Reader :=
  match r.opened with
  | [] => .error .unopenedGroup
  | ⟨around, flags, number⟩ :: opened =>
    let p := match number with
      | some n => r.level.nested.within (.group n)
      | none => r.level.nested.within id
    .ok { r with level := around.push p, opened := opened, flags := flags }

/-- The pattern, once the text has ended. -/
def finish (r : Reader) : Except Fault (Nested Pattern) :=
  if r.opened.isEmpty then .ok r.level.nested else .error .unclosedGroup

end Reader

/-- Reads the mark of the other preference behind a repetition. -/
def readGreed (f : Flags) (t : Text) : Greed × Text :=
  let usual := if f.swapped then Greed.reluctant else Greed.greedy
  match t with
  | '?' :: cs => (usual.swap, cs)
  | _ => (usual, t)

/-- Reads the name of a group, up to its closing angle bracket. -/
def readGroupName (taken : List Text) (t : Text) : Except Fault (Text × Text) :=
  let name := t.takeWhile (· != '>')
  let isNameChar (c : Char) : Bool :=
    c = '_' || c = '.' || c = '[' || c = ']' || Unicode.isAlphanumeric c
  match name, t.dropWhile (· != '>') with
  | first :: _, _ :: rest =>
    if (first = '_' || Unicode.isAlphabetic first) && name.all isNameChar && !taken.elem name then
      .ok (name, rest)
    else .error .badGroupName
  | _, _ => .error .badGroupName

/-- What a list of settings ends with: the settings hold for the rest of the group around it, or
for a group that they open. -/
inductive Setting where
  | here
  | group

/-- Reads a list of settings. No letter stands twice in it, and at most one hyphen, which is not
the last sign. -/
def readFlags (f : Flags) (on : Bool) (seen : Text) : Text → Except Fault (Flags × Setting × Text)
  | [] => .error .badFlags
  | c :: cs =>
    if c = ')' ∨ c = ':' then
      if seen.head? = some '-' then .error .badFlags
      else if c = ':' then .ok (f, .group, cs)
      else if seen.isEmpty then .error .nothingToRepeat
      else .ok (f, .here, cs)
    else if seen.elem c then .error .badFlags
    else if c = '-' then readFlags f false (c :: seen) cs
    else match f.switch? on c with
      | some f => readFlags f on (c :: seen) cs
      | none => .error .badFlags

/-- Reads what follows an opening parenthesis. -/
def readGroupStart (r : Reader) (t : Text) : Except Fault (Reader × Text) :=
  let named (cs : Text) : Except Fault (Reader × Text) := do
    let (name, rest) ← readGroupName r.names cs
    .ok ({ r.openNumbered with names := name :: r.names }, rest)
  match r.flags.skip t with
  | '?' :: '=' :: _ | '?' :: '!' :: _ | '?' :: '<' :: '=' :: _ | '?' :: '<' :: '!' :: _ =>
    .error .lookAround
  | '?' :: 'P' :: '<' :: cs => named cs
  | '?' :: '<' :: cs => named cs
  | '?' :: cs => do
    match ← readFlags r.flags true [] cs with
    | (flags, .group, rest) => .ok (r.openGroup none flags, rest)
    | (flags, .here, rest) =>
      .ok ({ r with flags := flags, level := { r.level with parts := none :: r.level.parts } },
        rest)
  | cs => .ok (r.openNumbered, cs)

/-- Reads the sign at the head of a text. -/
def readSign (r : Reader) (c : Char) (cs : Text) : Except Fault (Reader × Text) :=
  match c with
  | '(' => readGroupStart r cs
  | ')' => do
    let r ← r.closeGroup
    .ok (r, cs)
  | '|' => .ok ({ r with level := r.level.next }, cs)
  | '[' => do
    let (a, rest) ← readClass r.flags cs
    .ok (r.push (a.map .char), rest)
  | '?' => do
    let (greed, rest) := readGreed r.flags cs
    let r ← r.repeatLast (.opt greed)
    .ok (r, rest)
  | '*' => do
    let (greed, rest) := readGreed r.flags cs
    let r ← r.repeatLast (.star greed)
    .ok (r, rest)
  | '+' => do
    let (greed, rest) := readGreed r.flags cs
    let r ← r.repeatLast (.plus greed)
    .ok (r, rest)
  | '{' => do
    let _ ← r.repeatLast id
    let (count, rest) ← readCount r.flags cs
    let (greed, rest) := readGreed r.flags (r.flags.skip rest)
    let r ← r.repeatLast fun p => repeated greed p count
    .ok (r, rest)
  | '.' =>
    if r.flags.unicode then .ok (r.push (.leaf (.char r.flags.dotClass)), cs) else .error .notText
  | '^' => .ok (r.push (.leaf (.anchor r.flags.startAnchor)), cs)
  | '$' => .ok (r.push (.leaf (.anchor r.flags.endAnchor)), cs)
  | '\\' => do
    match ← readEscape r.flags cs with
    | (.char c, rest) => .ok (r.push (.leaf (.char (r.flags.classOf c))), rest)
    | (.set a, rest) => .ok (r.push (.leaf (.char a)), rest)
    | (.anchor a, rest) => .ok (r.push (.leaf (.anchor a)), rest)
  | c => .ok (r.push (.leaf (.char (r.flags.classOf c))), cs)

/-- Reads all signs of a text. Every sign takes a character at least, so the length of the text is
fuel enough. -/
def Reader.run : Nat → Reader → Text → Except Fault (Nested Pattern)
  | 0, r, _ => r.finish
  | fuel + 1, r, t =>
    match r.flags.skip t with
    | [] => r.finish
    | c :: cs => do
      let (r, rest) ← readSign r c cs
      Reader.run fuel r rest

/-- Reads a pattern from its written form, however deep it nests. -/
def readNested (t : Text) : Except Fault (Nested Pattern) :=
  Reader.run (t.length + 1) {} t

/-- How deep a pattern may nest. -/
def maxDepth : Nat := 250

/-- Reads a pattern from its written form. How large it is does not matter, only how deep it
nests. -/
def read (t : Text) : Except Fault Pattern := do
  let p ← readNested t
  if p.depth ≤ maxDepth then .ok p.value else .error .tooDeep

end Interpolation.Pattern
