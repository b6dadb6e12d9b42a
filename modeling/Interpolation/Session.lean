import Interpolation.Store

/-!
# Calls in a session

* `Call` is something that a session can be asked for, `Answer` is what it answers;
* `Call.run` runs a call against a host, `Call.runAll` runs several calls one after another in the
  same session. A call that ends with an error does not keep the next one from running.
-/

namespace Interpolation

/-- Something that a session can be asked for. -/
inductive Call where
  /-- The answer of the chain to a token. -/
  | resolve (token : Text)
  /-- A text with its references replaced. -/
  | expand (text : Text)
  /-- The value of a property. -/
  | value (name : Text)
  /-- The text of a property. -/
  | lookup (name : Text)
  /-- The reference at a position of a text. -/
  | nested (input : Text) (pos : Nat)
  deriving DecidableEq, Repr

/-- What a session answers. -/
inductive Answer where
  | value (v : Option Value)
  | text (t : Text)
  | property (t : Option Text)
  /-- The value of the reference, if there is one, and the position behind it. -/
  | nested (v : Option Value) (pos : Nat)
  deriving DecidableEq, Repr

namespace Call

/-- Runs a call. -/
def run (r : Resolver) (host : Host) : Call → Eval Answer
  | .resolve token => .value <$> r.resolve host token
  | .expand text => .text <$> Reference.expand host text
  | .value name => .value <$> r.propertyValue host name
  | .lookup name => .property <$> r.lookup host name
  | .nested input pos =>
    (fun (v, stop) => .nested v stop) <$> Scan.runFrom pos (r.nextReference host input)

/-- Runs calls one after another. There is no outcome if one of them does not end. -/
def runAll (r : Resolver) (host : Host) :
    List Call → State → Option (List (Except Error Answer) × State)
  | [], s => some ([], s)
  | c :: cs, s => do
    let (answer, s) ← c.run r host s
    let (answers, s) ← runAll r host cs s
    some (answer :: answers, s)

end Call

end Interpolation
