import Interpolation.Json.Reader
import Interpolation.Store

/-!
# Settings

Settings say which properties a store begins with and which strategies its chain is made of.

* `StrategyKind` names the strategies that settings can choose, `ChainSettings` chooses them and
  their delimiters, `Settings` adds the properties;
* `ChainSettings.build` makes the chain, `Settings.store` the store;
* `Settings.write` writes settings as JSON and `Settings.read` reads them. Parts that are left out
  have their usual values; unknown parts, parts that stand twice and parts of the wrong form are
  refused. An object may also be written as the array of its parts.
-/

namespace Interpolation

/-- A strategy that settings can choose. -/
inductive StrategyKind where
  | references
  | encodeUrl
  | stringOperations
  | logical
  | conditions
  | componentTypes
  deriving DecidableEq, Repr

namespace StrategyKind

/-- All kinds, in the usual order. -/
def all : List StrategyKind :=
  [.references, .encodeUrl, .stringOperations, .logical, .conditions, .componentTypes]

/-- The name in settings. -/
def name : StrategyKind → Text
  | .references => "references".toList
  | .encodeUrl => "encode_url".toList
  | .stringOperations => "string_operations".toList
  | .logical => "logical".toList
  | .conditions => "conditions".toList
  | .componentTypes => "component_types".toList

/-- The kind of a name. -/
def ofName? (t : Text) : Option StrategyKind :=
  all.find? fun k => k.name = t

end StrategyKind

/-- Which strategies a chain is made of. -/
structure ChainSettings where
  evaluators : List StrategyKind := StrategyKind.all
  /-- The delimiter behind the prefixes of references and addresses. -/
  prefixDelimiter : Text := [':']
  /-- The delimiter between a type and its argument. -/
  componentDelimiter : Text := [':']
  deriving DecidableEq, Repr

namespace ChainSettings

/-- The strategy of a kind. The scope is that of the chain it may need. -/
def strategy (c : ChainSettings) (scope : Scope) : StrategyKind → Except Error Strategy
  | .references => (Delimiter.ofText c.prefixDelimiter).map .referencesBy
  | .encodeUrl => (Delimiter.ofText c.prefixDelimiter).map .encodeUrlBy
  | .stringOperations => .ok (.operators scope)
  | .logical => .ok .logical
  | .conditions => .ok .conditions
  | .componentTypes => (Delimiter.ofText c.componentDelimiter).map .componentTypes

/-- The strategies of several kinds, each with a scope of its own from a number on. -/
def strategies (c : ChainSettings) (first : Nat) :
    List StrategyKind → Except Error (List Strategy)
  | [] => .ok []
  | k :: ks => do
    let s ← c.strategy ⟨first⟩ k
    let rest ← c.strategies (first + 1) ks
    .ok (s :: rest)

/-- The chain, whose scopes are numbered from a number on. -/
def build (c : ChainSettings) (first : Nat) : Except Error Chain := do
  let delegates ← c.strategies (first + 1) c.evaluators
  .ok ⟨⟨first⟩, .lenient, delegates⟩

/-- The usual settings make the usual chain. -/
theorem build_usual (first : Nat) : build {} first = .ok (.standard first) := rfl

end ChainSettings

/-- What a store begins with. -/
structure Settings where
  properties : TextMap Text := ∅
  chain : ChainSettings := {}
  deriving DecidableEq

namespace Settings

/-- The store that settings describe. -/
def store (s : Settings) : Except Error Store := do
  let chain ← s.chain.build 1
  .ok (.ofChain chain .standard .standard s.properties)

/-! ## Writing -/

/-- The names of the parts. -/
def propertiesName : Text := "properties".toList

@[inherit_doc propertiesName]
def chainName : Text := "chain".toList

@[inherit_doc propertiesName]
def evaluatorsName : Text := "evaluators".toList

@[inherit_doc propertiesName]
def prefixDelimiterName : Text := "prefix_delimiter".toList

@[inherit_doc propertiesName]
def componentDelimiterName : Text := "component_delimiter".toList

/-- A chain as JSON. -/
def chainToJson (c : ChainSettings) : Json :=
  .object [(evaluatorsName, .array (c.evaluators.map fun k => .text k.name)),
    (prefixDelimiterName, .text c.prefixDelimiter),
    (componentDelimiterName, .text c.componentDelimiter)]

/-- Settings as JSON. -/
def toJson (s : Settings) : Json :=
  .object [(propertiesName, .object (s.properties.entries.map fun (name, t) => (name, .text t))),
    (chainName, chainToJson s.chain)]

/-- Writes settings. -/
def write (s : Settings) : Text :=
  s.toJson.render

/-! ## Reading -/

/-- Why a text is no settings. -/
inductive Fault where
  /-- The text is not JSON. -/
  | notJson
  /-- A part is unknown, stands twice or has the wrong form. -/
  | wrongForm
  deriving DecidableEq, Repr

/-- The wording of a fault. -/
def Fault.message : Fault → Text
  | .notJson => "invalid settings: not JSON".toList
  | .wrongForm => "invalid settings: a part is unknown, repeated or of the wrong form".toList

/-- A text in JSON. -/
def textOf? : Json → Option Text
  | .text t => some t
  | _ => none

/-- A kind of strategy in JSON: its name, or an object with its name and `null`. -/
def kindOf? : Json → Option StrategyKind
  | .text t => StrategyKind.ofName? t
  | .object [(name, .null)] => StrategyKind.ofName? name
  | _ => none

/-- Kinds of strategies in JSON. -/
def kindsOf? : Json → Option (List StrategyKind)
  | .array es => es.mapM kindOf?
  | _ => none

/-- Properties in JSON; the last of several values of one name counts. -/
def propertiesOf? : Json → Option (TextMap Text)
  | .object ms =>
    (ms.mapM fun m => (textOf? m.2).map fun t => (m.1, t)).map TextMap.ofList
  | _ => none

/-- The parts of a structure in JSON, in the order of their names: an object holds each at most
once and no other, an array holds the first ones. -/
def partsOf? (names : List Text) : Json → Option (List (Option Json))
  | .object ms =>
    if (ms.map Prod.fst).all names.elem ∧ (ms.map Prod.fst).Nodup then
      some (names.map fun name => ms.lookup name)
    else none
  | .array es =>
    if es.length ≤ names.length then
      some (es.map some ++ List.replicate (names.length - es.length) none)
    else none
  | _ => none

/-- A part, or its usual value if it is left out. -/
def part? {α : Type} (read : Json → Option α) (usual : α) : Option Json → Option α
  | none => some usual
  | some v => read v

/-- A chain in JSON. -/
def chainOf? (v : Json) : Option ChainSettings := do
  match ← partsOf? [evaluatorsName, prefixDelimiterName, componentDelimiterName] v with
  | [evaluators, before, behind] =>
    some ⟨← part? kindsOf? StrategyKind.all evaluators, ← part? textOf? [':'] before,
      ← part? textOf? [':'] behind⟩
  | _ => none

/-- Settings in JSON. -/
def ofJson? (v : Json) : Option Settings := do
  match ← partsOf? [propertiesName, chainName] v with
  | [properties, chain] =>
    some ⟨← part? propertiesOf? ∅ properties, ← part? chainOf? {} chain⟩
  | _ => none

/-- Reads settings. -/
def read (t : Text) : Except Fault Settings :=
  match Json.read t with
  | none => .error .notJson
  | some v =>
    match ofJson? v with
    | some s => .ok s
    | none => .error .wrongForm

end Settings

end Interpolation
