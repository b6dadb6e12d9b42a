import Interpolation.Host
import Interpolation.Pattern.Reader
import Interpolation.Unicode.Case

/-!
# Conditions

* `Condition` is a condition together with the attributes it has been given;
* `equals`, `isTrue`, `isFalse`, `isSet`, `contains` and `matchesPattern` are the conditions that
  every host can offer;
* `toBoolean` reads a truth value.

Attribute names may be written in any case.
-/

namespace Interpolation

/-- `on`, `true` and `yes` in any case are true, and everything else is false. -/
def toBoolean (t : Text) : Bool :=
  ["on".toList, "true".toList, "yes".toList].elem t.toAsciiLower

/-- A condition and the attributes it has been given. -/
structure Condition where
  kind : ConditionKind
  attributes : Attributes

namespace Condition

/-- A condition without attributes. -/
def ofKind (kind : ConditionKind) : Condition := ⟨kind, ∅⟩

/-- Gives a condition an attribute. -/
def set (c : Condition) (name value : Text) : Except Error Condition :=
  (c.kind.assign name value c.attributes).map fun a => { c with attributes := a }

/-- Gives a condition attributes one after another, up to the first one it refuses. -/
def setAll (c : Condition) : List (Text × Text) → Except Error Condition
  | [] => .ok c
  | (name, value) :: rest => do (← c.set name value).setAll rest

/-- Tests a condition. -/
def eval (c : Condition) (ps : Properties) : Eval Bool :=
  c.kind.holds ps c.attributes

/-! ## Attributes -/

/-- Takes the attributes of a list, under their names in lower case, and refuses others. -/
def assignKnown (condition : String) (known : List String) (name value : Text)
    (a : Attributes) : Except Error Attributes :=
  if (known.map String.toList).elem name.toAsciiLower then
    .ok (a.insert name.toAsciiLower value)
  else
    .error (.failure (condition.toList ++ " doesn't support the \"".toList ++ name
      ++ "\" attribute.".toList))

/-- The value of an attribute. -/
def attribute? (a : Attributes) (name : String) : Option Text :=
  a.get? name.toList

/-- The truth value of an attribute, and what it is without one. -/
def switch (a : Attributes) (name : String) (otherwise : Bool) : Bool :=
  (attribute? a name).elim otherwise toBoolean

/-- Ends with a failure. -/
def failWith (message : String) : Eval Bool :=
  Eval.fail (.failure message.toList)

/-! ## The conditions -/

/-- Two texts are equal, by default exactly. -/
def equals : ConditionKind where
  assign := assignKnown "equals" ["arg1", "arg2", "casesensitive", "trim"]
  holds _ a :=
    match attribute? a "arg1", attribute? a "arg2" with
    | some x, some y =>
      let trim (t : Text) : Text := if switch a "trim" false then Text.trim t else t
      let fold (t : Text) : Text :=
        if switch a "casesensitive" true then t else Unicode.lowercase t
      pure (fold (trim x) = fold (trim y))
    | _, _ => failWith "both arg1 and arg2 are required in equals"

/-- A text reads as true. -/
def isTrue : ConditionKind where
  assign := assignKnown "istrue" ["value"]
  holds _ a :=
    match attribute? a "value" with
    | some t => pure (toBoolean t)
    | none => failWith "Nothing to test for truth"

/-- A text does not read as true. -/
def isFalse : ConditionKind where
  assign := assignKnown "isfalse" ["value"]
  holds _ a :=
    match attribute? a "value" with
    | some t => pure !toBoolean t
    | none => failWith "Nothing to test for falsehood"

/-- A property is set, possibly in flight. -/
def isSet : ConditionKind where
  assign := assignKnown "isset" ["property"]
  holds ps a :=
    match attribute? a "property" with
    | some name => do
      if ← ps.isInFlight name then pure true
      else
        let value ← ps.lookup name
        pure value.isSome
    | none => failWith "No property specified for isset condition"

/-- A text stands inside another, by default exactly. -/
def contains : ConditionKind where
  assign := assignKnown "contains" ["string", "substring", "casesensitive"]
  holds _ a :=
    match attribute? a "string", attribute? a "substring" with
    | some t, some needle =>
      if switch a "casesensitive" true then pure (Text.occurs needle t)
      else pure (Text.occurs (Unicode.lowercase needle) (Unicode.lowercase t))
    | _, _ => failWith "both string and substring are required in contains"

/-- The setting that makes a pattern accept all cases of its letters. -/
def anyCaseMark : Text := ['(', '?', 'i', ')']

/-- A pattern has a match in a text, by default in exactly its case. -/
def matchesPattern : ConditionKind where
  assign := assignKnown "matches" ["string", "pattern", "casesensitive"]
  holds _ a :=
    match attribute? a "string", attribute? a "pattern" with
    | none, _ => failWith "Parameter string is required in matches."
    | some _, none => failWith "No regular expression specified."
    | some t, some source =>
      let source := if switch a "casesensitive" true then source else anyCaseMark ++ source
      match Pattern.read source with
      | .ok p => pure (p.accepts t)
      | .error fault => Eval.fail (.pattern fault)

end Condition

end Interpolation
