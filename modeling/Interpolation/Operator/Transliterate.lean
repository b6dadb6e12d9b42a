import Interpolation.Text.Escape

/-!
# Transliteration

* `Transliteration.expandSet` writes a set of characters out: `a-z` stands for all characters
  from `a` to `z`;
* `Transliteration.apply` puts characters of one set in place of those of another, by their
  places in the sets.
-/

namespace Interpolation.Transliteration

/-- The characters from one to another, both included. -/
def between (first last : Char) : Text :=
  (List.range' first.toNat (last.toNat + 1 - first.toNat)).filterMap fun n =>
    if n.isValidChar then some (Char.ofNat n) else none

/-- The characters that the written form of a set stands for, from the left: a hyphen between two
characters in ascending order makes a range of them. -/
def ranges : Text → Text
  | a :: '-' :: b :: cs =>
    if a ≤ b then between a b ++ ranges cs else a :: ranges ('-' :: b :: cs)
  | a :: cs => a :: ranges cs
  | [] => []

/-- The characters that the written form of a set stands for, slashes in it being escaped. -/
def expandSet (raw : Text) : Text :=
  ranges (Text.unescape '/' raw)

/-- What becomes of a character: that of the second set in the place that the character first has
in the first set, or the last one of the second set where it has no such place. Where the second
set is empty the character goes. A character outside the first set stays. -/
def applyChar (source target : Text) (c : Char) : Option Char :=
  match source.idxOf? c with
  | some i => (target[i]?).or target.getLast?
  | none => some c

/-- Puts characters of the second set in place of those of the first. -/
def apply (source target value : Text) : Text :=
  value.filterMap (applyChar source target)

end Interpolation.Transliteration
