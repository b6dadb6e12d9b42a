import Interpolation.Text

/-!
# Values

* `Value` is an answer of an evaluation: a text, a truth value or an object;
* `Value.render` is its text;
* `Object` is something that was constructed. Objects have an identity, and `Value.same` tells
  objects apart by it alone.
-/

namespace Interpolation

/-- What an object holds. -/
inductive Content where
  /-- An address in its normal form. -/
  | url (address : Text)
  /-- The path of a file. -/
  | path (path : Text)
  /-- A pattern that could be read. -/
  | pattern (source : Text)
  /-- Nothing that the library knows. -/
  | other
  deriving DecidableEq, Repr

/-- Something that was constructed. -/
structure Object where
  /-- The identity: no two constructions share it. -/
  id : Nat
  /-- The text of the object when it is put into a text. -/
  label : Text
  content : Content
  deriving DecidableEq, Repr

/-- An answer of an evaluation. -/
inductive Value where
  | text (t : Text)
  | flag (b : Bool)
  | object (o : Object)
  deriving DecidableEq, Repr

namespace Value

/-- The text of a value. -/
def render : Value → Text
  | .text t => t
  | .flag b => if b then "true".toList else "false".toList
  | .object o => o.label

/-- The text of a value that is no object: an object has no text to work on. -/
def text? : Value → Option Text
  | .object _ => none
  | v => some v.render

/-- Whether two values are the same: objects have to be one and the same. -/
def same : Value → Value → Bool
  | .text t, .text u => t = u
  | .flag a, .flag b => a = b
  | .object o, .object p => o.id = p.id
  | _, _ => false

end Value

end Interpolation
