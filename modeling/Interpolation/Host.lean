import Interpolation.Evaluation

/-!
# Hosts

A host is what strategies are evaluated against: it gives and takes properties, knows types,
conditions and references, and reads the references nested in a text.

* `Properties` is the part of a host that looks properties up;
* `ObjectType` constructs objects from a text, `ConditionKind` makes conditions that are
  configured by attributes;
* `Host` is a host, `Host.plain` one with nothing but properties.
-/

namespace Interpolation

/-- Access to properties. -/
structure Properties where
  /-- The value of a property; there is none if it is unset. -/
  lookup : Text → Eval (Option Text)
  /-- Whether a property is set but its own value is being expanded. Such a property is not
  applicable rather than unset. -/
  isInFlight : Text → Eval Bool

/-- What an object is constructed from: a text alone, or a text and the properties of the host.
Either gives the label and the content of the object. -/
inductive Maker where
  | ofText (make : Text → Except Error (Text × Content))
  | ofContext (make : Properties → Text → Eval (Text × Content))

/-- A named type whose objects are constructed from texts. -/
structure ObjectType where
  name : Text
  maker : Maker

/-- Constructs an object. -/
def ObjectType.construct (t : ObjectType) (ps : Properties) (arg : Text) : Eval Object := do
  let (label, content) ← match t.maker with
    | .ofText make => Eval.ofExcept (make arg)
    | .ofContext make => make ps arg
  Eval.newObject label content

/-- The attributes that a condition has been given, by name. -/
abbrev Attributes := TextMap Text

/-- A boolean test that is configured by attributes. -/
structure ConditionKind where
  /-- Sets an attribute, by name and value. -/
  assign : Text → Text → Attributes → Except Error Attributes
  /-- The test. -/
  holds : Properties → Attributes → Eval Bool

/-- What strategies are evaluated against. -/
structure Host extends Properties where
  /-- Gives a property a value. -/
  assign : Text → Text → Eval Unit
  objectType? : Text → Option ObjectType
  conditionKind? : Text → Option ConditionKind
  /-- The value registered under an id. -/
  reference? : Text → Eval (Option Value)
  register : Text → Value → Eval Unit
  /-- Consumes the reference that starts at the position in a text, if there is one. -/
  nextReference : Text → Scan (Option Value)

namespace Host

/-- The stored text of a property. -/
def storedProperty (name : Text) : Eval (Option Text) :=
  Eval.ask fun s => s.properties.get? name

/-- Stores the text of a property. -/
def storeProperty (name value : Text) : Eval Unit :=
  Eval.change fun s => s.withProperties (s.properties.insert name value)

/-- The stored value of a reference. -/
def storedReference (id : Text) : Eval (Option Value) :=
  Eval.ask fun s => s.references.get? id

/-- Stores the value of a reference. -/
def storeReference (id : Text) (value : Value) : Eval Unit :=
  Eval.change fun s => { s with references := s.references.insert id value }

/-- A host with nothing but properties, whose texts are their values. -/
def plain : Host where
  lookup := storedProperty
  isInFlight _ := pure false
  assign := storeProperty
  objectType? _ := none
  conditionKind? _ := none
  reference? _ := pure none
  register _ _ := pure ()
  nextReference _ := pure none

end Host

end Interpolation
