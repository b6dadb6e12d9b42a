import Interpolation.Operator.Delete
import Interpolation.Operator.Replace
import Interpolation.Operator.Transliterate

/-!
# Operators on the values of properties

A token with an operator names a property and says what to do with its value.

* `Operator` lists the operators, `Operator.all` in the order in which they are tried;
* `Operator.grammar` is the pattern of the tokens of an operator;
* `Operator.apply` is what an operator does once its token has been recognised;
* `Operator.evaluate` does both.

| token                  | answer                                           |
|------------------------|--------------------------------------------------|
| `name:start[:stop]`    | the characters from `start` up to `stop`         |
| `name:-text`           | the value, or the text if unset                  |
| `name:=text`           | the value, or the text, which is stored if unset |
| `name:tr/from/to`      | the value with its characters exchanged          |
| `name:?message`        | the value, or a failure if unset                 |
| `name#glob`, `##`      | the value without its beginning                  |
| `name%glob`, `%%`      | the value without its end                        |
| `name/glob/text`, `//` | the value with parts replaced                    |
-/

namespace Interpolation

/-- An operator on the value of a property. -/
inductive Operator where
  | substring
  | defaultValue
  | setDefault
  | transliterate
  | require
  | delete (d : Deletion)
  | replace
  deriving DecidableEq, Repr

namespace Operator

/-- The operators in the order in which they are tried. -/
def all : List Operator :=
  [.substring, .defaultValue, .setDefault, .transliterate, .require]
    ++ Deletion.all.map .delete ++ [.replace]

/-- The pattern of a name in front of `:` and another sign, with a text behind them. -/
def textGrammar (c : Char) : Pattern :=
  .seqs [.group 1 Grammar.name, Grammar.sign ':', Grammar.sign c, .group 2 Grammar.longest]

/-- The pattern of a name and one index or two. -/
def substringGrammar : Pattern :=
  .seqs [.group 1 Grammar.shortest, Grammar.sign ':', .group 2 digits,
    .opt .greedy (.seq (Grammar.sign ':') (.group 3 digits))]
where
  digits : Pattern := .plus .greedy (.char .digit)

/-- The pattern of a name and two sets of characters. -/
def transliterateGrammar : Pattern :=
  .seqs [.group 1 Grammar.shortest, .literal [':', 't', 'r', '/'],
    .group 2 (.plus .greedy Grammar.slashed), Grammar.sign '/',
    .group 3 (.star .greedy Grammar.slashed)]

/-- The pattern of the tokens of an operator. -/
def grammar : Operator → Pattern
  | .substring => substringGrammar
  | .defaultValue => textGrammar '-'
  | .setDefault => textGrammar '='
  | .transliterate => transliterateGrammar
  | .require => textGrammar '?'
  | .delete d => d.grammar
  | .replace => Replacement.grammar

/-- The greatest index. -/
def maxIndex : Nat := 18446744073709551615

/-- The index that digits denote. Greater indices count as the greatest one, and so do digits
that are not ASCII. -/
def readIndex (digits : Text) : Nat :=
  match Text.toNat? digits with
  | some n => min n maxIndex
  | none => maxIndex

/-- The characters of a value from one index up to another. -/
def slice (property value : Text) (start stop : Nat) : Except Error Text :=
  if start > stop ∨ stop > value.length then
    .error (.outOfRange property start stop value.length)
  else .ok ((value.drop start).take (stop - start))

/-- What is reported when a required property is unset and the token gives no message. -/
def missing (property : Text) : Text :=
  "Missing required property ".toList ++ property

/-- The answer of an operator that works on the value of a property: none if it has none to work
on. -/
def onValue (host : Host) (name : Text) (f : Text → Except Error Text) : Eval (Option Value) := do
  match (← Operand.lookup host.toProperties name).value? with
  | none => pure none
  | some value => do
    let result ← Eval.ofExcept (f value)
    pure (some (.text result))

/-- The answer of an operator that gives the value of a property, or does something else if the
property is unset. -/
def orElse (host : Host) (name : Text) (unset : Eval (Option Value)) : Eval (Option Value) := do
  match ← Operand.lookup host.toProperties name with
  | .set value => pure (some (.text value))
  | .inFlight => pure none
  | .unset => unset

/-- What an operator does with the groups of its token. -/
def apply (op : Operator) (host : Host) (g : Groups) : Eval (Option Value) :=
  let name := g.text 1
  match op with
  | .substring =>
    onValue host name fun value =>
      slice name value (readIndex (g.text 2)) (((g.get? 3).map readIndex).getD value.length)
  | .defaultValue => orElse host name (pure (some (.text (g.text 2))))
  | .setDefault =>
    orElse host name do
      host.assign name (g.text 2)
      pure (some (.text (g.text 2)))
  | .transliterate =>
    onValue host name fun value =>
      .ok (Transliteration.apply (Transliteration.expandSet (g.text 2))
        (Transliteration.expandSet (g.text 3)) value)
  | .require =>
    orElse host name
      (Eval.fail (.failure (if (g.text 2).isEmpty then missing name else g.text 2)))
  | .delete d => onValue host name (d.apply (g.text 2))
  | .replace =>
    onValue host name (Replacement.apply (g.text 2 = ['/', '/']) (g.text 3) (g.text 4))

/-- Evaluates a token, if it is one of the operator. -/
def evaluate (op : Operator) (host : Host) (token : Text) : Eval (Option Value) :=
  match recognize? op.grammar token with
  | none => pure none
  | some g => op.apply host g

end Operator

end Interpolation
