import Interpolation.Reference
import Interpolation.Registry
import Interpolation.Strategy

/-!
# Stores and sessions

A store holds properties and references and resolves tokens by a chain. A session is a run of
resolutions with a guard of its own; it is the host of the strategies in the chain.

* `Resolver` is what stays the same in a store: the chain, the registries, and the owner of the
  frames of properties;
* `Resolver.propertyValue` is the value of a property: the stored text with its references
  expanded, or else the answer of the chain;
* `Resolver.host` is the host of a session. A host asks another one for everything that needs a
  further resolution, down to a depth beyond which there is no answer and no error either.
  `Resolver.hostWith` may also cut a run off there, by an error;
* `Store` adds the properties and references, `Store.session` opens a session, and
  `Store.standard` is a store with the usual chain;
* `Store.resolve` and `Store.expand` work in a session of their own.
-/

namespace Interpolation

/-- What stays the same in a store. -/
structure Resolver where
  /-- The owner of the frames of properties that are being expanded. -/
  scope : Scope
  chain : Chain
  types : TypeRegistry
  conditions : ConditionRegistry

namespace Resolver

/-- Evaluates a token by the chain. -/
def resolve (r : Resolver) (host : Host) (token : Text) : Eval (Option Value) :=
  r.chain.evaluate host token

/-- The value of a property. A property that refers to itself has none. -/
def propertyValue (r : Resolver) (host : Host) (name : Text) : Eval (Option Value) := do
  match ← Host.storedProperty name with
  | none => r.resolve host name
  | some raw =>
    if ← Eval.ask fun s => s.guard.contains ⟨r.scope, name⟩ then pure none
    else do
      let t ← Eval.within .strict ⟨r.scope, name⟩ (Reference.expand host raw)
      pure (some (.text t))

/-- The text of a property, if its value has one to work on. -/
def lookup (r : Resolver) (host : Host) (name : Text) : Eval (Option Text) := do
  let v ← r.propertyValue host name
  pure (v.bind Value.text?)

/-- Whether a property is stored and being expanded. -/
def isInFlight (r : Resolver) (name : Text) : Eval Bool :=
  Eval.ask fun s => s.guard.contains ⟨r.scope, name⟩ && s.properties.contains name

/-- Consumes the reference at the position in a text, if there is one. Where the property it names
has no value, the reference stands for its own text. -/
def nextReference (r : Resolver) (host : Host) (input : Text) : Scan (Option Value) := do
  let start ← Scan.position
  match ← Reference.readName host input with
  | none => pure none
  | some name =>
    match ← Scan.ofEval (r.propertyValue host name) with
    | some v => pure (some v)
    | none => do
      let stop ← Scan.position
      pure (some (.text (input.between start stop)))

/-- The host of a session, whose resolutions may go down to a depth. What lies beyond ends with
the given error, or does not end. -/
def hostWith (r : Resolver) (beyond : Option Error) : Nat → Host
  | 0 =>
    { lookup := fun _ => Eval.giveUp beyond
      isInFlight := r.isInFlight
      assign := Host.storeProperty
      objectType? := r.types.get?
      conditionKind? := r.conditions.get?
      reference? := Host.storedReference
      register := Host.storeReference
      nextReference := fun _ => Scan.ofEval (Eval.giveUp beyond) }
  | depth + 1 =>
    { lookup := fun name s => r.lookup (r.hostWith beyond depth) name s
      isInFlight := r.isInFlight
      assign := Host.storeProperty
      objectType? := r.types.get?
      conditionKind? := r.conditions.get?
      reference? := Host.storedReference
      register := Host.storeReference
      nextReference := fun input pos s => r.nextReference (r.hostWith beyond depth) input pos s }

/-- The host of a session, whose resolutions may go down to a depth and do not end beyond it. -/
def host (r : Resolver) (depth : Nat) : Host := r.hostWith none depth

/-- Evaluates a token in a session, down to a depth. -/
def resolveAt (r : Resolver) (depth : Nat) (token : Text) : Eval (Option Value) :=
  r.resolve (r.host depth) token

/-- Replaces every reference in a text in a session, down to a depth. -/
def expandAt (r : Resolver) (depth : Nat) (text : Text) : Eval Text :=
  Reference.expand (r.host depth) text

end Resolver

/-- The depth that resolutions go down to unless they are told otherwise. -/
def usualDepth : Nat := 1000000

/-- Properties and references, and what resolves tokens over them. -/
structure Store where
  resolver : Resolver
  properties : TextMap Text
  references : TextMap Value
  /-- How many objects have been constructed. -/
  objects : Nat

namespace Store

/-- The store of a chain, with the given properties and without references. The number 0 is the
scope of the properties, so the chain has to have others. -/
def ofChain (chain : Chain) (types : TypeRegistry) (conditions : ConditionRegistry)
    (properties : TextMap Text) : Store :=
  ⟨⟨⟨0⟩, chain, types, conditions⟩, properties, ∅, 0⟩

/-- The store of the usual chain, types and conditions, with the given properties. -/
def standard (properties : TextMap Text) : Store :=
  ofChain (.standard 1) .standard .standard properties

/-- Stores the text of a property. -/
def setProperty (s : Store) (name value : Text) : Store :=
  { s with properties := s.properties.insert name value }

/-- The stored text of a property. -/
def property? (s : Store) (name : Text) : Option Text :=
  s.properties.get? name

/-- Registers a value under an id. -/
def addReference (s : Store) (id : Text) (value : Value) : Store :=
  { s with references := s.references.insert id value }

/-- The value registered under an id. -/
def reference? (s : Store) (id : Text) : Option Value :=
  s.references.get? id

/-- The state that an evaluation in a session with a guard begins with. -/
def state (s : Store) (g : Guard) : State :=
  ⟨s.properties, s.references, s.objects, g, []⟩

/-- The store after an evaluation. -/
def after (s : Store) (t : State) : Store :=
  { s with properties := t.properties, references := t.references, objects := t.objects }

/-- Runs an evaluation in a session of its own. There is no outcome if it does not end. -/
def session {α : Type} (s : Store) (e : Eval α) : Option (Except Error α × Store) :=
  (e (s.state .empty)).map fun (r, t) => (r, s.after t)

/-- Evaluates a token in a session of its own. -/
def resolve (s : Store) (token : Text) : Option (Except Error (Option Value) × Store) :=
  s.session (s.resolver.resolveAt usualDepth token)

/-- Replaces every reference in a text in a session of its own. -/
def expand (s : Store) (text : Text) : Option (Except Error Text × Store) :=
  s.session (s.resolver.expandAt usualDepth text)

end Store

end Interpolation
