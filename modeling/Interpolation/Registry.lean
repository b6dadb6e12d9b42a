import Interpolation.Condition
import Interpolation.Text.Quoted
import Interpolation.Url

/-!
# Registries

* `TypeRegistry` and `ConditionRegistry` hold types and conditions by name; a later registration
  of a name replaces the earlier one;
* `TypeRegistry.standard` holds the types `url`, `path` and `regex`;
* `ConditionRegistry.standard` holds the conditions of `Interpolation.Condition`.
-/

namespace Interpolation

/-- Types by name. -/
structure TypeRegistry where
  types : TextMap ObjectType

/-- Conditions by name. -/
structure ConditionRegistry where
  kinds : TextMap ConditionKind

namespace ObjectType

/-- Addresses, in their normal form. -/
def url : ObjectType where
  name := "url".toList
  maker := .ofText fun arg =>
    match Url.normalize arg with
    | .ok address => .ok (address, .url address)
    | .error fault => .error (.failure
        ("invalid url ".toList ++ Error.cited arg ++ [':', ' '] ++ fault.message))

/-- Paths of files. -/
def path : ObjectType where
  name := "path".toList
  maker := .ofText fun arg => .ok (arg, .path arg)

/-- Patterns that can be read. -/
def regex : ObjectType where
  name := "regex".toList
  maker := .ofContext fun _ arg =>
    match Pattern.read arg with
    | .ok _ => pure (arg, .pattern arg)
    | .error fault => Eval.fail (.pattern fault)

/-- A description: the name of the type and what it constructs objects from. -/
def describe (t : ObjectType) : Text :=
  let factory := match t.maker with
    | .ofText _ => "string"
    | .ofContext _ => "context+string"
  "TypeDefinition \x7b name: ".toList ++ Text.quoted t.name ++ ", factory: ".toList
    ++ Text.quoted factory.toList ++ " \x7d".toList

end ObjectType

namespace TypeRegistry

/-- The registry without types. -/
def empty : TypeRegistry := ⟨∅⟩

/-- Registers a type under its name. -/
def register (r : TypeRegistry) (t : ObjectType) : TypeRegistry :=
  ⟨r.types.insert t.name t⟩

/-- The types that every host can offer. -/
def standard : TypeRegistry :=
  ((empty.register .url).register .path).register .regex

/-- The type of a name. -/
def get? (r : TypeRegistry) (name : Text) : Option ObjectType :=
  r.types.get? name

/-- The names in order. -/
def names (r : TypeRegistry) : List Text :=
  r.types.sortedKeys

/-- The names in order, quoted and in braces. -/
def describe (r : TypeRegistry) : Text :=
  Text.braced r.names

end TypeRegistry

namespace ConditionRegistry

/-- The registry without conditions. -/
def empty : ConditionRegistry := ⟨∅⟩

/-- Registers a condition under a name. -/
def register (r : ConditionRegistry) (name : Text) (kind : ConditionKind) : ConditionRegistry :=
  ⟨r.kinds.insert name kind⟩

/-- The conditions that every host can offer. -/
def standard : ConditionRegistry :=
  [("equals", Condition.equals), ("istrue", Condition.isTrue), ("isfalse", Condition.isFalse),
    ("isset", Condition.isSet), ("contains", Condition.contains),
    ("matches", Condition.matchesPattern)].foldl
    (fun r (name, kind) => r.register name.toList kind) empty

/-- The condition of a name. -/
def get? (r : ConditionRegistry) (name : Text) : Option ConditionKind :=
  r.kinds.get? name

/-- The names in order. -/
def names (r : ConditionRegistry) : List Text :=
  r.kinds.sortedKeys

/-- The names in order, quoted and in braces. -/
def describe (r : ConditionRegistry) : Text :=
  Text.braced r.names

end ConditionRegistry

end Interpolation
