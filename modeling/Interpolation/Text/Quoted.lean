import Interpolation.Text

/-!
# Quoted texts

A quoted text stands between double quotes. Inside, the quote, the backslash and the characters
that show no glyph are written as escapes.

* `Text.quoted` writes a text in quotes;
* `Text.braced` writes a sequence of quoted texts in braces.
-/

namespace Interpolation.Text

/-- A character as it stands inside quotes. -/
def quotedChar (c : Char) : Text :=
  if c = '"' || c = '\\' then ['\\', c]
  else if c = '\t' then ['\\', 't']
  else if c = '\n' then ['\\', 'n']
  else if c = '\r' then ['\\', 'r']
  else if c.toNat = 0 then ['\\', '0']
  else if Unicode.isPrintable c then [c]
  else ['\\', 'u', '{'] ++ Nat.toDigits 16 c.toNat ++ ['}']

/-- A text in quotes. -/
def quoted (t : Text) : Text :=
  '"' :: t.flatMap quotedChar ++ ['"']

/-- Quoted texts in braces, a comma and a space between them. -/
def braced (ts : List Text) : Text :=
  '{' :: [',', ' '].intercalate (ts.map quoted) ++ ['}']

end Interpolation.Text
