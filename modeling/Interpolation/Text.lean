import Interpolation.Unicode.Properties

/-!
# Texts

A text is the list of its characters. This module cuts texts, trims them and reads and writes
decimal numbers.

* `Text.behind?` takes a given beginning off;
* `Text.splitOnce?` cuts at the first occurrence of a separator, `Text.splitOn` at every
  occurrence of a character;
* `Text.occurs` tells whether one text stands inside another;
* `Text.trim` takes white space off both ends;
* `Text.ofNat` and `Text.toNat?` write and read decimal numbers.
-/

namespace Interpolation

/-- A text is the list of its characters. -/
abbrev Text := List Char

namespace Text

/-- What follows a given beginning, if a text has it. -/
def behind? : Text → Text → Option Text
  | [], t => some t
  | _ :: _, [] => none
  | a :: as, c :: cs => if a = c then behind? as cs else none

/-- The texts before and after the first occurrence of a separator. -/
def splitOnce? (separator : Text) : Text → Option (Text × Text)
  | [] => if separator.isEmpty then some ([], []) else none
  | c :: cs =>
    match behind? separator (c :: cs) with
    | some rest => some ([], rest)
    | none => (splitOnce? separator cs).map fun (before, rest) => (c :: before, rest)

/-- The texts between the occurrences of a character: one more than there are occurrences. -/
def splitOn (separator : Char) : Text → List Text
  | [] => [[]]
  | c :: cs =>
    if c = separator then [] :: splitOn separator cs
    else match splitOn separator cs with
      | [] => [[c]]
      | first :: others => (c :: first) :: others

/-- Whether one text stands somewhere inside another. -/
def occurs (needle : Text) : Text → Bool
  | [] => needle.isEmpty
  | c :: cs => needle.isPrefixOf (c :: cs) || occurs needle cs

/-- A text without the white space in front. -/
def trimStart (t : Text) : Text :=
  t.dropWhile Unicode.isBlank

/-- A text without the white space at its end. -/
def trimEnd (t : Text) : Text :=
  (trimStart t.reverse).reverse

/-- A text without the white space at either end. -/
def trim (t : Text) : Text :=
  trimEnd (trimStart t)

/-- A text with its ASCII capitals in lower case. -/
def toAsciiLower (t : Text) : Text :=
  t.map Char.toLower

/-- A number in decimal. -/
def ofNat (n : Nat) : Text :=
  Nat.toDigits 10 n

/-- The value of a digit. -/
def digitValue (c : Char) : Nat :=
  c.toNat - 48

/-- The value of a sequence of digits. -/
def digitsValue (t : Text) : Nat :=
  t.foldl (fun n c => 10 * n + digitValue c) 0

/-- Reads a decimal number: one or more ASCII digits and nothing else. -/
def toNat? (t : Text) : Option Nat :=
  if !t.isEmpty && t.all Char.isDigit then some (digitsValue t) else none

/-- Texts in the order of their first different characters, a shorter one before its
extensions. -/
def le : Text → Text → Bool
  | [], _ => true
  | _ :: _, [] => false
  | a :: as, b :: bs => a < b || (a = b && le as bs)

end Text

end Interpolation
