import Interpolation.Guard
import Interpolation.TextMap
import Interpolation.Value

/-!
# Evaluations

An evaluation reads and changes a state and ends with an answer or an error; what it has changed
stays changed also when it ends with an error. It may also fail to end.

* `State` is what evaluations share: properties, references, how many objects there are, and the
  guard;
* `Moment` is what a state shows of its properties and its guard, `State.history` lists the moments
  up to the present one;
* `Eval` is an evaluation, `Eval.exhausted` the one that does not end;
* `Eval.within` runs an evaluation inside a frame of the guard;
* `Scan` is an evaluation that also moves a position in a text; the position stays where an error
  leaves it.
-/

namespace Interpolation

universe u

/-- The properties and the guard at one moment. -/
structure Moment where
  properties : TextMap Text
  guard : Guard

/-- What evaluations read and change. -/
structure State where
  /-- The texts of properties as they were given, references unexpanded. -/
  properties : TextMap Text
  references : TextMap Value
  /-- How many objects have been constructed. -/
  objects : Nat
  guard : Guard
  /-- The moments before the present one, the latest first. A record only: no evaluation reads
  it. -/
  past : List Moment

namespace State

/-- The state without properties, references and frames. -/
def empty : State := ⟨∅, ∅, 0, .empty, []⟩

/-- The present moment. -/
def now (s : State) : Moment := ⟨s.properties, s.guard⟩

/-- All moments up to the present one, the latest first. -/
def history (s : State) : List Moment := s.now :: s.past

/-- The next moment, with another guard. -/
def withGuard (s : State) (g : Guard) : State :=
  { s with guard := g, past := s.history }

/-- The next moment, with other properties. -/
def withProperties (s : State) (ps : TextMap Text) : State :=
  { s with properties := ps, past := s.history }

end State

/-- An evaluation. No outcome at all stands for an evaluation that did not end within its
depth. -/
abbrev Eval (α : Type) := ExceptT Error (StateT State Option) α

/-- How a chain returns the frame that it has entered. -/
inductive Balance where
  /-- The latest frame of the chain is released, wherever it is. -/
  | lenient
  /-- The frame has to be on top; anything else is an imbalance. -/
  | strict
  deriving DecidableEq, Inhabited, Repr

namespace Eval

variable {α : Type}

/-- What is known of the state. -/
def ask (f : State → α) : Eval α :=
  fun s => some (.ok (f s), s)

/-- Changes the state. -/
def change (f : State → State) : Eval Unit :=
  fun s => some (.ok (), f s)

/-- Ends with an answer or an error. -/
def ofExcept (r : Except Error α) : Eval α :=
  fun s => some (r, s)

/-- Ends with an error. -/
def fail (e : Error) : Eval α :=
  ofExcept (.error e)

/-- The evaluation that does not end. -/
def exhausted : Eval α :=
  fun _ => none

/-- Gives up: with an error, or without any outcome. -/
def giveUp (e : Option Error) : Eval α :=
  fun s => e.map fun e => (.error e, s)

/-- Runs an evaluation and gives its error as an answer. -/
def attempt (e : Eval α) : Eval (Except Error α) :=
  fun s => (e s).map fun (r, s) => (.ok r, s)

/-- Puts a frame on the guard. -/
def push (f : Frame) : Eval Unit :=
  change fun s => s.withGuard (s.guard.push f)

/-- Pops a frame from the guard. -/
def pop (f : Frame) : Eval Unit := fun s =>
  match s.guard.pop f with
  | .ok g => some (.ok (), s.withGuard g)
  | .error e => some (.error e, s)

/-- Releases the latest frame of an owner. -/
def release (owner : Scope) : Eval Unit :=
  change fun s => s.withGuard (s.guard.release owner)

/-- Returns a frame. -/
def leave (f : Frame) : Balance → Eval Unit
  | .strict => pop f
  | .lenient => release f.scope

/-- Runs an evaluation inside a frame. An imbalance on the way out takes the place of the
outcome. -/
def within (balance : Balance) (f : Frame) (e : Eval α) : Eval α := do
  push f
  let outcome ← attempt e
  leave f balance
  ofExcept outcome

/-- Constructs an object with a new identity. -/
def newObject (label : Text) (content : Content) : Eval Object := fun s =>
  some (.ok ⟨s.objects, label, content⟩, { s with objects := s.objects + 1 })

end Eval

/-- An evaluation that moves a position in a text. -/
abbrev Scan (α : Type) := ExceptT Error (StateT Nat (StateT State Option)) α

namespace Scan

variable {α : Type}

/-- The position. -/
def position : Scan Nat :=
  fun pos s => some ((.ok pos, pos), s)

/-- Moves to a position. -/
def moveTo (pos : Nat) : Scan Unit :=
  fun _ s => some ((.ok (), pos), s)

/-- Moves on by a number of bytes. -/
def advance (bytes : Nat) : Scan Unit :=
  fun pos s => some ((.ok (), pos + bytes), s)

/-- The scan that does not end. -/
def exhausted : Scan α :=
  fun _ _ => none

/-- Ends with an error. -/
def fail (e : Error) : Scan α :=
  fun pos s => some ((.error e, pos), s)

/-- An evaluation that leaves the position alone. -/
def ofEval (e : Eval α) : Scan α :=
  fun pos s => (e s).map fun (r, s) => ((r, pos), s)

/-- Runs a scan from a position and gives the position where it ends along with the answer. -/
def runFrom (pos : Nat) (scan : Scan α) : Eval (α × Nat) :=
  fun s => (scan pos s).map fun ((r, pos), s) => (r.map fun a => (a, pos), s)

end Scan

end Interpolation
