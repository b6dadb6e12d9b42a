import Interpolation.Condition
import Interpolation.Logical
import Interpolation.Operator
import Interpolation.Prefixed
import Interpolation.Url

/-!
# Strategies and chains

A strategy recognises tokens of one form and resolves them. A chain offers a token to its
strategies in order and gives the first answer.

* `Strategy` lists the strategies, a chain among them; `Strategy.custom` is any other one;
* `Strategy.evaluate` evaluates a token: no answer means that the strategy does not apply;
* `Chain` is a chain on its own, `Chain.evaluate` evaluates a token by it.

A token that a chain is already resolving gets no answer from it, so that no token leads back to
itself for ever.
-/

namespace Interpolation

/-- A way to resolve tokens. -/
inductive Strategy where
  /-- An operator on the value of a property. -/
  | operator (op : Operator)
  /-- A logical expression. -/
  | logical
  /-- `name(attribute=value,...)`, possibly negated by `!`: a condition. -/
  | conditions
  /-- A prefix and an id: the value registered under the id. -/
  | references (key : PrefixKey)
  /-- A prefix and an address: the address in its normal form. -/
  | encodeUrl (key : PrefixKey)
  /-- A type, the delimiter and an argument: a new object, which is registered under the token. -/
  | componentTypes (delimiter : Delimiter)
  /-- The strategies of a chain in order. -/
  | chain (scope : Scope) (balance : Balance) (delegates : List Strategy)
  /-- Anything that depends on the host and the token. -/
  | custom (evaluate : Host → Text → Eval (Option Value))

instance : Inhabited Strategy := ⟨.logical⟩

/-- Strategies that are tried in order. -/
structure Chain where
  /-- The owner of the frames of the chain; no other chain has the same. -/
  scope : Scope
  balance : Balance
  delegates : List Strategy
  deriving Inhabited

/-! ## Conditions -/

namespace ConditionToken

/-- The pattern of an attribute. -/
def assignment : Pattern :=
  .seqs [Grammar.someShortest, Grammar.sign '=', Grammar.someShortest]

/-- The pattern of a condition: a mark of negation, a name, and attributes in parentheses. -/
def grammar : Pattern :=
  .seqs [.opt .greedy (.group 1 (Grammar.sign '!')), .group 2 Grammar.someShortest,
    Grammar.sign '(',
    .group 3 (.seq assignment (.star .greedy (.seq (Grammar.sign ',') assignment))),
    Grammar.sign ')']

/-- The name and the value of an attribute, without white space around them. -/
def readAttribute (condition t : Text) : Except Error (Text × Text) :=
  match Text.splitOnce? ['='] t with
  | some (name, value) => .ok (Text.trim name, Text.trim value)
  | none => .error (.failure
      ("malformed attribute ".toList ++ Error.cited t ++ " for ".toList ++ condition))

/-- Gives a condition the attributes of a list, up to the first fault. -/
def configure (name : Text) (c : Condition) : List Text → Except Error Condition
  | [] => .ok c
  | t :: ts => do
    let (key, value) ← readAttribute name t
    configure name (← c.set key value) ts

/-- Evaluates a token, if it is a condition that the host knows. -/
def evaluate (host : Host) (token : Text) : Eval (Option Value) :=
  match recognize? grammar token with
  | none => pure none
  | some g =>
    match host.conditionKind? (g.text 2) with
    | none => pure none
    | some kind => do
      let c ← Eval.ofExcept
        (configure (g.text 2) (.ofKind kind) (Text.splitOn ',' (g.text 3)))
      let holds ← c.eval host.toProperties
      pure (some (.flag (holds ^^ (g.get? 1).isSome)))

end ConditionToken

/-! ## Component types -/

/-- Constructs the object that a token asks for, and registers it under the token. A construction
that fails gives no answer. -/
def constructComponent (delimiter : Delimiter) (host : Host) (token : Text) :
    Eval (Option Value) :=
  match Text.splitOnce? delimiter.text token with
  | none => pure none
  | some (name, arg) =>
    match host.objectType? name with
    | none => pure none
    | some type => do
      match ← Eval.attempt (type.construct host.toProperties arg) with
      | .error _ => pure none
      | .ok o => do
        host.register token (.object o)
        pure (some (.object o))

/-! ## Evaluation -/

/-- Evaluates a token by a chain whose strategies are given as one evaluation. A token that the
chain is already resolving gets no answer. -/
def resolveOnce (scope : Scope) (balance : Balance) (token : Text)
    (delegates : Eval (Option Value)) : Eval (Option Value) := do
  if ← Eval.ask fun s => s.guard.contains ⟨scope, token⟩ then pure none
  else Eval.within balance ⟨scope, token⟩ delegates

namespace Strategy

mutual

/-- Evaluates a token. There is no answer if the strategy does not apply. -/
def evaluate : Strategy → Host → Text → Eval (Option Value)
  | .operator op, host, token => op.evaluate host token
  | .logical, _, token => pure ((Logical.evaluate? token).map .flag)
  | .conditions, host, token => ConditionToken.evaluate host token
  | .references key, host, token => do
    match ← Eval.ofExcept (key.split? token) with
    | none => pure none
    | some (_, id) => host.reference? id
  | .encodeUrl key, _, token => do
    match ← Eval.ofExcept (key.split? token) with
    | none => pure none
    | some (_, address) => pure ((Url.normalize address).toOption.map .text)
  | .componentTypes delimiter, host, token => constructComponent delimiter host token
  | .chain scope balance delegates, host, token =>
    resolveOnce scope balance token (firstAnswer delegates host token)
  | .custom act, host, token => act host token

/-- The first answer of strategies that are tried in order. -/
def firstAnswer : List Strategy → Host → Text → Eval (Option Value)
  | [], _, _ => pure none
  | s :: rest, host, token => do
    match ← evaluate s host token with
    | some v => pure (some v)
    | none => firstAnswer rest host token

end

/-- The references to the values registered under ids. -/
def referencesBy (d : Delimiter) : Strategy := .references ⟨some "ref".toList, d⟩

/-- The normal forms of addresses. -/
def encodeUrlBy (d : Delimiter) : Strategy := .encodeUrl ⟨some "encodeURL".toList, d⟩

/-- The operators in their order, in a strict chain. -/
def operators (scope : Scope) : Strategy :=
  .chain scope .strict (Operator.all.map .operator)

end Strategy

namespace Chain

/-- The chain as a strategy. -/
def toStrategy (c : Chain) : Strategy :=
  .chain c.scope c.balance c.delegates

/-- The usual chain. Its scopes are numbered from a number on, that of a strategy by its place. -/
def standard (first : Nat) : Chain :=
  ⟨⟨first⟩, .lenient, [.referencesBy .colon, .encodeUrlBy .colon, .operators ⟨first + 3⟩,
    .logical, .conditions, .componentTypes .colon]⟩

/-- Adds a strategy at the end. -/
def push (c : Chain) (s : Strategy) : Chain :=
  { c with delegates := c.delegates ++ [s] }

/-- Evaluates a token. -/
def evaluate (c : Chain) (host : Host) (token : Text) : Eval (Option Value) :=
  c.toStrategy.evaluate host token

end Chain

end Interpolation
