import Interpolation.Text

/-!
# Percent encoding

Inside an address, a byte that may not stand for itself is written as a percent sign and two
hexadecimal digits.

* `EncodeSet` says which ASCII characters are written so in a part of an address; bytes of other
  characters always are;
* `percentEncode` writes a text, `percentDecode` gives the bytes of what was written.
-/

namespace Interpolation.Url

/-- A part of an address, by the characters that are encoded in it. -/
inductive EncodeSet where
  /-- Opaque paths and hosts: control characters only. -/
  | controls
  | fragment
  | query
  /-- The query of an address with a special scheme. -/
  | specialQuery
  | path
  | userInfo
  deriving DecidableEq, Repr

/-- Whether an ASCII character is encoded in a part of an address. -/
def EncodeSet.encodes (set : EncodeSet) (c : Char) : Bool :=
  c.toNat < 32 || c.toNat = 127 ||
    match set with
    | .controls => false
    | .fragment => inFragment
    | .query => inQuery
    | .specialQuery => inQuery || c.toNat = 39
    | .path => inPath
    | .userInfo => inPath || ['/', ':', ';', '=', '@', '[', '\\', ']', '^', '|'].elem c
where
  inFragment : Bool := [' ', '"', '<', '>', Char.ofNat 96].elem c
  inQuery : Bool := [' ', '"', '#', '<', '>'].elem c
  inPath : Bool := inFragment || ['#', '?', '{', '}'].elem c

/-- The bytes of a character in UTF-8. -/
def utf8Bytes (c : Char) : List Nat :=
  let n := c.toNat
  if n < 0x80 then [n]
  else if n < 0x800 then [0xC0 + n / 64, 0x80 + n % 64]
  else if n < 0x10000 then [0xE0 + n / 4096, 0x80 + n / 64 % 64, 0x80 + n % 64]
  else [0xF0 + n / 262144, 0x80 + n / 4096 % 64, 0x80 + n / 64 % 64, 0x80 + n % 64]

/-- The value of a hexadecimal digit. -/
def hexDigit? (c : Char) : Option Nat :=
  if c.isDigit then some (c.toNat - 48)
  else if 'a' ≤ c ∧ c ≤ 'f' then some (c.toNat - 87)
  else if 'A' ≤ c ∧ c ≤ 'F' then some (c.toNat - 55)
  else none

/-- A byte as a percent sign and two capital hexadecimal digits. -/
def percentByte (n : Nat) : Text :=
  ['%', (Nat.digitChar (n / 16)).toUpper, (Nat.digitChar (n % 16)).toUpper]

/-- Writes a text into a part of an address. -/
def percentEncode (set : EncodeSet) (t : Text) : Text :=
  t.flatMap fun c =>
    if c.toNat ≥ 128 || set.encodes c then (utf8Bytes c).flatMap percentByte else [c]

/-- The bytes that a text denotes. A percent sign without two digits is itself. -/
def percentDecode : Text → List Nat
  | [] => []
  | '%' :: a :: b :: cs =>
    match hexDigit? a, hexDigit? b with
    | some x, some y => (16 * x + y) :: percentDecode cs
    | _, _ => utf8Bytes '%' ++ percentDecode (a :: b :: cs)
  | c :: cs => utf8Bytes c ++ percentDecode cs

end Interpolation.Url
