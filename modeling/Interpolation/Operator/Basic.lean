import Interpolation.Host
import Interpolation.TokenPattern

/-!
# Operators: what they have in common

* `Operand` is a property as an operator sees it: set, unset, or set but in flight;
* `Grammar` holds the parts that the patterns of operators are made of.
-/

namespace Interpolation

/-- A property as an operator sees it. -/
inductive Operand where
  | set (value : Text)
  | unset
  /-- Set, but its own value is being expanded. -/
  | inFlight
  deriving DecidableEq, Repr

namespace Operand

/-- Looks a property up. One that is in flight is not asked for its value. -/
def lookup (ps : Properties) (name : Text) : Eval Operand := do
  if ← ps.isInFlight name then pure .inFlight
  else
    match ← ps.lookup name with
    | some value => pure (.set value)
    | none => pure .unset

/-- The value, if there is one to work on. -/
def value? : Operand → Option Text
  | .set value => some value
  | .unset | .inFlight => none

end Operand

namespace Grammar

/-- A character that stands for itself. -/
def sign (c : Char) : Pattern := .char (.one c)

/-- Any character but a line feed. -/
def dot : Pattern := .char .notNewline

/-- A text without line feeds, as short as possible. -/
def shortest : Pattern := .star .reluctant dot

/-- A text without line feeds, as long as possible. -/
def longest : Pattern := .star .greedy dot

/-- A non-empty text without line feeds, as short as possible. -/
def someShortest : Pattern := .plus .reluctant dot

/-- The name of a property in front of `:-`, `:=` or `:?`. It may hold colons, but none that
starts one of these operators. -/
def name : Pattern :=
  .star .reluctant <| .alt (.char (.compl (.one ':')))
    (.seq (sign ':') (.char (.compl (.ofList [.one '-', .one '=', .one '?']))))

/-- A character of a part between slashes, where a slash stands behind a backslash. -/
def slashed : Pattern :=
  .alt (.literal ['\\', '/']) (.char (.compl (.one '/')))

end Grammar

end Interpolation
