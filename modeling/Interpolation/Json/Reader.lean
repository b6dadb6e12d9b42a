import Interpolation.Json

/-!
# Reading JSON

`Json.read` reads a value from its written form. Blanks may stand around every part; nothing else
may follow the value.

Each reader gives what it has read and the text behind it, or nothing if the text is not of its
form.
-/

namespace Interpolation.Json

/-- White space of JSON. -/
def isBlank (c : Char) : Bool :=
  c = ' ' || c = '\n' || c = '\t' || c = '\r'

/-- Passes over white space. -/
def skipBlanks (t : Text) : Text :=
  t.dropWhile isBlank

/-- The value of a hexadecimal digit. -/
def hexValue? (c : Char) : Option Nat :=
  if c.isDigit then some (c.toNat - 48)
  else if 'a' ≤ c ∧ c ≤ 'f' then some (c.toNat - 87)
  else if 'A' ≤ c ∧ c ≤ 'F' then some (c.toNat - 55)
  else none

/-- Reads four hexadecimal digits. -/
def readUnit : Text → Option (Nat × Text)
  | a :: b :: c :: d :: cs => do
    let a ← hexValue? a
    let b ← hexValue? b
    let c ← hexValue? c
    let d ← hexValue? d
    some (4096 * a + 256 * b + 16 * c + d, cs)
  | _ => none

/-- Reads the character that `\u` calls for. A character beyond 16 bits is written as two units,
the first one from 0xD800 on, the second one from 0xDC00 on; neither stands alone. -/
def readCodePoint (t : Text) : Option (Char × Text) := do
  let (high, rest) ← readUnit t
  if high < 0xD800 ∨ high > 0xDFFF then some (Char.ofNat high, rest)
  else if high > 0xDBFF then none
  else match rest with
    | '\\' :: 'u' :: rest => do
      let (low, rest) ← readUnit rest
      if low < 0xDC00 ∨ low > 0xDFFF then none
      else some (Char.ofNat (0x10000 + 1024 * (high - 0xD800) + (low - 0xDC00)), rest)
    | _ => none

/-- Reads the rest of a text behind its opening quote. The fuel bounds the number of
characters. -/
def readQuoted : Nat → Text → Option (Text × Text)
  | 0, _ => none
  | fuel + 1, t =>
    let push (c : Char) (rest : Text) : Option (Text × Text) :=
      (readQuoted fuel rest).map fun (u, rest) => (c :: u, rest)
    match t with
    | [] => none
    | '"' :: cs => some ([], cs)
    | '\\' :: c :: cs =>
      match c with
      | '"' | '\\' | '/' => push c cs
      | 'b' => push (Char.ofNat 8) cs
      | 'f' => push (Char.ofNat 12) cs
      | 'n' => push '\n' cs
      | 'r' => push '\r' cs
      | 't' => push '\t' cs
      | 'u' =>
        match readCodePoint cs with
        | some (c, rest) => push c rest
        | none => none
      | _ => none
    | c :: cs => if c = '\\' ∨ c.toNat < 32 then none else push c cs

/-- Reads a text behind its opening quote. -/
def readText (t : Text) : Option (Text × Text) :=
  readQuoted (t.length + 1) t

/-- Reads one digit or more. -/
def readDigits (t : Text) : Option (Text × Text) :=
  match t.takeWhile Char.isDigit with
  | [] => none
  | digits => some (digits, t.dropWhile Char.isDigit)

/-- Reads the fraction of a number, if there is one. -/
def readFraction : Text → Option (Text × Text)
  | '.' :: cs => (readDigits cs).map fun (digits, rest) => ('.' :: digits, rest)
  | t => some ([], t)

/-- Reads the exponent of a number, if there is one. -/
def readExponent : Text → Option (Text × Text)
  | c :: cs =>
    if c = 'e' ∨ c = 'E' then
      match cs with
      | '+' :: ds => (readDigits ds).map fun (digits, rest) => (c :: '+' :: digits, rest)
      | '-' :: ds => (readDigits ds).map fun (digits, rest) => (c :: '-' :: digits, rest)
      | ds => (readDigits ds).map fun (digits, rest) => (c :: digits, rest)
    else some ([], c :: cs)
  | [] => some ([], [])

/-- Reads a number: no zero stands in front of another digit. -/
def readNumber (t : Text) : Option (Text × Text) := do
  let (sign, t) := match t with
    | '-' :: cs => (['-'], cs)
    | _ => ([], t)
  let (whole, rest) ← match t with
    | '0' :: cs => some (['0'], cs)
    | _ => readDigits t
  let (fraction, rest) ← readFraction rest
  let (exponent, rest) ← readExponent rest
  some (sign ++ whole ++ fraction ++ exponent, rest)

mutual

/-- Reads a value. The fuel bounds the number of parts. -/
def readValue : Nat → Text → Option (Json × Text)
  | 0, _ => none
  | fuel + 1, t =>
    match skipBlanks t with
    | 'n' :: 'u' :: 'l' :: 'l' :: cs => some (.null, cs)
    | 't' :: 'r' :: 'u' :: 'e' :: cs => some (.bool true, cs)
    | 'f' :: 'a' :: 'l' :: 's' :: 'e' :: cs => some (.bool false, cs)
    | '"' :: cs => (readText cs).map fun (u, rest) => (.text u, rest)
    | '[' :: cs =>
      match skipBlanks cs with
      | ']' :: rest => some (.array [], rest)
      | rest => (readElements fuel rest).map fun (es, rest) => (.array es, rest)
    | '{' :: cs =>
      match skipBlanks cs with
      | '}' :: rest => some (.object [], rest)
      | rest => (readMembers fuel rest).map fun (ms, rest) => (.object ms, rest)
    | cs => (readNumber cs).map fun (n, rest) => (.number n, rest)

/-- Reads the elements of an array up to its closing bracket. -/
def readElements : Nat → Text → Option (List Json × Text)
  | 0, _ => none
  | fuel + 1, t =>
    match readValue fuel t with
    | none => none
    | some (e, rest) =>
      match skipBlanks rest with
      | ']' :: rest => some ([e], rest)
      | ',' :: rest => (readElements fuel rest).map fun (es, rest) => (e :: es, rest)
      | _ => none

/-- Reads the members of an object up to its closing brace. -/
def readMembers : Nat → Text → Option (List (Text × Json) × Text)
  | 0, _ => none
  | fuel + 1, t =>
    match skipBlanks t with
    | '"' :: cs =>
      match readText cs with
      | none => none
      | some (name, rest) =>
        match skipBlanks rest with
        | ':' :: rest =>
          match readValue fuel rest with
          | none => none
          | some (v, rest) =>
            match skipBlanks rest with
            | '}' :: rest => some ([(name, v)], rest)
            | ',' :: rest =>
              (readMembers fuel rest).map fun (ms, rest) => ((name, v) :: ms, rest)
            | _ => none
        | _ => none
    | _ => none

end

/-- Reads a value that makes up a whole text. -/
def read (t : Text) : Option Json :=
  match readValue (2 * t.length + 2) t with
  | some (v, rest) => if (skipBlanks rest).isEmpty then some v else none
  | none => none

end Interpolation.Json
