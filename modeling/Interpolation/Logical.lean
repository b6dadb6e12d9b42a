import Interpolation.Operator.Basic

/-!
# Logical expressions

An expression combines the literals `true` and `false`, each possibly negated by `!`. `&` and `+`
bind tightest, then `^` (one of both, not both), then `|`; there are no parentheses.

* `Logical.grammar` is the pattern of expressions with an operator or a negation;
* `Logical.fold` computes the value of an expression. It is defined on every text: what is not
  `true` counts as false.
-/

namespace Interpolation.Logical

/-- White space around operators. -/
def blanks : Pattern := .star .greedy (.char .blank)

/-- An operator with the white space around it. -/
def infixed (p : Pattern) : Pattern := .seqs [blanks, p, blanks]

/-- And. -/
def andSign : Pattern := infixed (.alt (Grammar.sign '&') (Grammar.sign '+'))

/-- Exclusive or. -/
def xorSign : Pattern := infixed (Grammar.sign '^')

/-- Or. -/
def orSign : Pattern := infixed (Grammar.sign '|')

/-- A literal. -/
def literal : Pattern :=
  .alt (.literal ['t', 'r', 'u', 'e']) (.literal ['f', 'a', 'l', 's', 'e'])

/-- A negated literal. -/
def negated : Pattern := .seq (Grammar.sign '!') literal

/-- A literal, possibly negated. -/
def operand : Pattern := .alt literal negated

/-- The pattern of an expression: two operands or more, or a negated literal alone. -/
def grammar : Pattern :=
  .alt (.seq operand (.plus .greedy (.seq (.alt (.alt andSign xorSign) orSign) operand))) negated

/-- The value of an operand. -/
def operandValue (t : Text) : Bool :=
  match t with
  | '!' :: rest => Text.trim rest != ['t', 'r', 'u', 'e']
  | _ => Text.trim t == ['t', 'r', 'u', 'e']

/-- The value of operands joined by and. -/
def conjunction (t : Text) : Bool :=
  (andSign.split t).all operandValue

/-- The value of operands joined by and and exclusive or. -/
def exclusion (t : Text) : Bool :=
  (xorSign.split t).foldl (fun acc u => acc ^^ conjunction u) false

/-- The value of an expression. -/
def fold (t : Text) : Bool :=
  (orSign.split t).any exclusion

/-- The value of a token, if it is an expression. -/
def evaluate? (token : Text) : Option Bool :=
  (recognize? grammar token).map fun g => fold (g.text 0)

end Interpolation.Logical
