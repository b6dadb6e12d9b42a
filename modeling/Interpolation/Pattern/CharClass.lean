import Interpolation.Unicode.Case
import Interpolation.Unicode.Script

/-!
# Classes of characters

What a single place of a pattern accepts, and what it asks of the characters around it.

* `CharClass` is a set of characters built from characters, ranges and named properties by the
  operations of sets; `CharClass.contains` is membership;
* `Anchor` is a condition on a place between two characters; `Anchor.holds` tests it.
-/

namespace Interpolation

open Unicode (Category Script)

/-- A set of characters. -/
inductive CharClass where
  /-- No character. -/
  | none
  /-- Every character. -/
  | any
  | one (c : Char)
  /-- The characters from the first to the last. -/
  | range (first last : Char)
  /-- Decimal digits of any script. -/
  | digit
  /-- White space. -/
  | blank
  /-- Characters of words. -/
  | word
  | category (k : Category)
  | script (s : Script)
  /-- The characters with the code points of a table. -/
  | listed (r : Unicode.Ranges)
  | alphabetic
  | lowercase
  | uppercase
  | union (a b : CharClass)
  | inter (a b : CharClass)
  /-- The characters outside a class. -/
  | compl (a : CharClass)
  /-- The characters that differ from one of a class at most by case. -/
  | anyCase (a : CharClass)
  deriving DecidableEq, Repr

namespace CharClass

/-- Whether a class holds a character. -/
def contains : CharClass → Char → Bool
  | .none, _ => false
  | .any, _ => true
  | .one a, c => c = a
  | .range first last, c => first ≤ c && c ≤ last
  | .digit, c => Unicode.isDecimalDigit c
  | .blank, c => Unicode.isBlank c
  | .word, c => Unicode.isWord c
  | .category k, c => k.contains c
  | .script s, c => s.contains c
  | .listed r, c => r.contains c.toNat
  | .alphabetic, c => Unicode.isAlphabetic c
  | .lowercase, c => Unicode.isLowercase c
  | .uppercase, c => Unicode.isUppercase c
  | .union a b, c => a.contains c || b.contains c
  | .inter a b, c => a.contains c && b.contains c
  | .compl a, c => !a.contains c
  | .anyCase a, c => (Unicode.foldsOf c).any a.contains

/-- Every character but the line feed. -/
def notNewline : CharClass := .compl (.one '\n')

/-- The characters of the first class that are not in the second. -/
def diff (a b : CharClass) : CharClass := .inter a (.compl b)

/-- The characters that are in one of two classes only. -/
def symmDiff (a b : CharClass) : CharClass := .union (diff a b) (diff b a)

/-- The characters in one of several classes. -/
def ofList : List CharClass → CharClass
  | [] => .none
  | a :: as => as.foldl .union a

/-- The ASCII letters, digits and the underscore. -/
def asciiWord : CharClass :=
  ofList [.range 'a' 'z', .range 'A' 'Z', .range '0' '9', .one '_']

end CharClass

/-- A condition on a place in a text. -/
inductive Anchor where
  | textStart
  | textEnd
  /-- At the start of the text or behind a line feed. -/
  | lineStart
  /-- At the end of the text or in front of a line feed. -/
  | lineEnd
  /-- At the start of a line, where a carriage return, a line feed or both in this order end a
  line. -/
  | anyLineStart
  /-- At the end of such a line. -/
  | anyLineEnd
  /-- Where a word starts or ends. -/
  | wordBoundary (inWord : CharClass)
  /-- Where no word starts or ends. -/
  | noWordBoundary (inWord : CharClass)
  | wordStart (inWord : CharClass)
  | wordEnd (inWord : CharClass)
  /-- No character of a word stands in front. -/
  | noWordBefore (inWord : CharClass)
  /-- No character of a word follows. -/
  | noWordAfter (inWord : CharClass)
  deriving DecidableEq, Repr

namespace Anchor

/-- Whether the condition holds between the character in front, if any, and the rest of the
text. -/
def holds (a : Anchor) (before : Option Char) (rest : List Char) : Bool :=
  let next := rest.head?
  match a with
  | .textStart => before.isNone
  | .textEnd => rest.isEmpty
  | .lineStart => before.isNone || before = some '\n'
  | .lineEnd => rest.isEmpty || next = some '\n'
  | .anyLineStart =>
    before.isNone || before = some '\n' || (before = some '\r' && next != some '\n')
  | .anyLineEnd =>
    rest.isEmpty || next = some '\r' || (next = some '\n' && before != some '\r')
  | .wordBoundary w => before.any w.contains != next.any w.contains
  | .noWordBoundary w => before.any w.contains == next.any w.contains
  | .wordStart w => !before.any w.contains && next.any w.contains
  | .wordEnd w => before.any w.contains && !next.any w.contains
  | .noWordBefore w => !before.any w.contains
  | .noWordAfter w => !next.any w.contains

end Anchor

end Interpolation
