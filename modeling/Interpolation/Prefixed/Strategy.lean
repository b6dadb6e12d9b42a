import Interpolation.Evaluation
import Interpolation.Prefixed
import Interpolation.TokenPattern.Compiled

/-!
# Strategies that are keyed on a prefix

Such a strategy is given a prefix and a delimiter, also between two evaluations. The pattern of its tokens
is made from the delimiter and compiled when it is first needed.

* `PrefixStrategy` is the key and the pattern that is kept with it;
* `PrefixStrategy.setPrefix` and `PrefixStrategy.setDelimiter` change the key;
* `PrefixStrategy.split?` takes a token apart, and `PrefixStrategy.evaluate` hands the parts on;
* `PrefixStrategy.Request` is one of these, and `PrefixStrategy.run` is what several of them, one after
  another, make of a strategy.
-/

namespace Interpolation

/-- A strategy that is keyed on a prefix, with the pattern of its tokens. -/
structure PrefixStrategy where
  key : PrefixKey
  tokens : CompiledPattern
  deriving DecidableEq

namespace PrefixStrategy

/-- A new strategy. Nothing has been compiled. -/
def ofKey (key : PrefixKey) : PrefixStrategy := ⟨key, .ofSource key.source⟩

/-- Sets the prefix. -/
def setPrefix (s : PrefixStrategy) (t : Text) : PrefixStrategy :=
  { s with key := s.key.setPrefix t }

/-- Sets the delimiter and the pattern made from it. An empty delimiter is refused. -/
def setDelimiter (s : PrefixStrategy) (t : Text) : Except Error Unit × PrefixStrategy :=
  match s.key.setDelimiter t with
  | .error e => (.error e, s)
  | .ok key => (.ok (), ⟨key, s.tokens.setSource key.source⟩)

/-- The prefix and the property of a token, if it has the right prefix. -/
def split? (s : PrefixStrategy) (token : Text) :
    Except Error (Option (Text × Text)) × PrefixStrategy :=
  let (found, tokens) := s.tokens.groups? token
  (do
    match ← found with
    | none => .ok none
    | some g =>
      if ← s.key.canInterpret (g.text 1) then .ok (some (g.text 1, g.text 2)) else .ok none,
    { s with tokens })

/-- Evaluates a token: a property behind the right prefix is resolved by what is particular to the
strategy. -/
def evaluate (s : PrefixStrategy) (resolve : Text → Text → Eval (Option Value)) (token : Text) :
    Eval (Option Value) × PrefixStrategy :=
  let (parts, s) := s.split? token
  (do
    match ← Eval.ofExcept parts with
    | none => pure none
    | some (before, property) => resolve property before,
    s)

/-- What can be asked of a strategy. -/
inductive Request where
  | setPrefix (t : Text)
  | setDelimiter (t : Text)
  | evaluate (token : Text)
  deriving DecidableEq, Repr

/-- What a request makes of a strategy. -/
def after (s : PrefixStrategy) : Request → PrefixStrategy
  | .setPrefix t => s.setPrefix t
  | .setDelimiter t => (s.setDelimiter t).2
  | .evaluate token => (s.split? token).2

/-- What requests make of a strategy, one after another. -/
def run (s : PrefixStrategy) (requests : List Request) : PrefixStrategy :=
  requests.foldl after s

end PrefixStrategy

end Interpolation
