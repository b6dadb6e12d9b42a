import Interpolation.Text

/-!
# Backslash escapes of one character

Where a text is closed by some character, that character stands for itself behind a backslash.

* `Text.escape` puts a backslash in front of every occurrence of the character;
* `Text.unescape` takes away one backslash in front of each occurrence, reading from the left.
-/

namespace Interpolation.Text

/-- Puts a backslash in front of every occurrence of a character. -/
def escape (mark : Char) : Text → Text
  | [] => []
  | c :: cs => if c = mark then '\\' :: c :: escape mark cs else c :: escape mark cs

/-- Takes away the backslash of every occurrence of a character behind a backslash. Characters
are read from the left and none is read twice, so of two backslashes in front of the character
the second one goes, unless the character is the backslash itself. -/
def unescape (mark : Char) : Text → Text
  | [] => []
  | [c] => [c]
  | c :: d :: cs =>
    if c = '\\' ∧ d = mark then mark :: unescape mark cs else c :: unescape mark (d :: cs)

end Interpolation.Text
