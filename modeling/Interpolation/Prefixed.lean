import Interpolation.Guard
import Interpolation.TokenPattern

/-!
# Tokens that begin with a prefix

A strategy may be keyed on a prefix: it resolves the tokens that consist of the prefix, a
delimiter and a property.

* `Delimiter` is a text that is not empty;
* `PrefixKey` holds the prefix, once it is set, and the delimiter;
* `PrefixKey.split?` cuts a token at the first delimiter, if the prefix in front is the right
  one.
-/

namespace Interpolation

/-- A text that separates parts of a token. -/
structure Delimiter where
  text : Text
  text_ne_nil : text ≠ []
  deriving DecidableEq

namespace Delimiter

/-- The delimiter of a text, which must not be empty. -/
def ofText (t : Text) : Except Error Delimiter :=
  if h : t = [] then .error (.configuration .emptyDelimiter) else .ok ⟨t, h⟩

/-- The usual delimiter. -/
def colon : Delimiter := ⟨[':'], by simp⟩

end Delimiter

/-- What a strategy that is keyed on a prefix asks of its tokens. -/
structure PrefixKey where
  /-- The prefix, once it is set. -/
  wanted : Option Text := none
  delimiter : Delimiter := .colon
  deriving DecidableEq

namespace PrefixKey

/-- Sets the prefix. -/
def setPrefix (k : PrefixKey) (t : Text) : PrefixKey :=
  { k with wanted := some t }

/-- Sets the delimiter, which must not be empty. -/
def setDelimiter (k : PrefixKey) (t : Text) : Except Error PrefixKey :=
  (Delimiter.ofText t).map fun d => { k with delimiter := d }

/-- The written form of the pattern of tokens: the shortest text, the delimiter and the rest. -/
def source (k : PrefixKey) : Text :=
  "^(.*?)".toList ++ Pattern.quote k.delimiter.text ++ "(.*)$".toList

/-- The pattern of tokens. -/
def pattern (k : PrefixKey) : TokenPattern :=
  ⟨some k.source⟩

/-- Whether a prefix is the right one. -/
def canInterpret (k : PrefixKey) (t : Text) : Except Error Bool :=
  match k.wanted with
  | none => .error (.configuration .prefixUnset)
  | some wanted => .ok (wanted = t)

/-- The prefix and the property of a token, if it has the right prefix. -/
def split? (k : PrefixKey) (token : Text) : Except Error (Option (Text × Text)) := do
  match ← k.pattern.groups? token with
  | none => .ok none
  | some g =>
    if ← k.canInterpret (g.text 1) then .ok (some (g.text 1, g.text 2)) else .ok none

end PrefixKey

end Interpolation
