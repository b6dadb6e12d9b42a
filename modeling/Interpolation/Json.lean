import Interpolation.Text

/-!
# JSON values

* `Json` is a value; the members of an object stand in their order, and a name may stand twice;
* `Json.render` writes a value without blanks.
-/

namespace Interpolation

/-- A JSON value. -/
inductive Json where
  | null
  | bool (b : Bool)
  /-- A number, as it is written. -/
  | number (written : Text)
  | text (t : Text)
  | array (elements : List Json)
  | object (members : List (Text × Json))

namespace Json

/-- A number below 16 as a hexadecimal digit. -/
def hexChar (n : Nat) : Char :=
  Nat.digitChar n

/-- A character as it stands inside quotes. -/
def escapeChar (c : Char) : Text :=
  if c = '"' || c = '\\' then ['\\', c]
  else if c = '\n' then ['\\', 'n']
  else if c = '\r' then ['\\', 'r']
  else if c = '\t' then ['\\', 't']
  else if c.toNat = 8 then ['\\', 'b']
  else if c.toNat = 12 then ['\\', 'f']
  else if c.toNat < 32 then
    ['\\', 'u', '0', '0', hexChar (c.toNat / 16), hexChar (c.toNat % 16)]
  else [c]

/-- Writes a text in quotes. -/
def renderText (t : Text) : Text :=
  '"' :: t.flatMap escapeChar ++ ['"']

mutual

/-- Writes a value. -/
def render : Json → Text
  | .null => ['n', 'u', 'l', 'l']
  | .bool b => if b then ['t', 'r', 'u', 'e'] else ['f', 'a', 'l', 's', 'e']
  | .number written => written
  | .text t => renderText t
  | .array [] => ['[', ']']
  | .array (e :: es) => '[' :: render e ++ renderElements es
  | .object [] => ['{', '}']
  | .object ((name, v) :: ms) => '{' :: renderText name ++ ':' :: render v ++ renderMembers ms

/-- Writes the elements of an array behind the first one. -/
def renderElements : List Json → Text
  | [] => [']']
  | e :: es => ',' :: render e ++ renderElements es

/-- Writes the members of an object behind the first one. -/
def renderMembers : List (Text × Json) → Text
  | [] => ['}']
  | (name, v) :: ms => ',' :: renderText name ++ ':' :: render v ++ renderMembers ms

end

end Json

end Interpolation
