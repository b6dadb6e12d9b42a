import Interpolation.Pattern.Search

/-!
# Replacement templates

A template is a text in which a dollar sign calls for the text of a group.

* `Template.expand` puts the groups in place: `$$` is a dollar, `${1}` and `$1` are the text of
  group 1, and a dollar in front of anything else is itself.

Groups are called by number; any other name calls for nothing.
-/

namespace Interpolation.Template

/-- A character of a name that stands without braces. -/
def isNameChar (c : Char) : Bool :=
  c.isAlphanum || c = '_'

/-- The text that a name calls for. -/
def called (group : Nat → Text) (name : Text) : Text :=
  match name.toNat? with
  | some n => group n
  | none => []

/-- Expands a template, the fuel being at least its length. -/
def expandWith (group : Nat → Text) : Nat → Text → Text
  | 0, _ => []
  | _ + 1, [] => []
  | fuel + 1, '$' :: '$' :: cs => '$' :: expandWith group fuel cs
  | fuel + 1, '$' :: '{' :: cs =>
    match cs.dropWhile (· != '}') with
    | [] => '$' :: expandWith group fuel ('{' :: cs)
    | _ :: rest => called group (cs.takeWhile (· != '}')) ++ expandWith group fuel rest
  | fuel + 1, '$' :: cs =>
    match cs.takeWhile isNameChar with
    | [] => '$' :: expandWith group fuel cs
    | name => called group name ++ expandWith group fuel (cs.dropWhile isNameChar)
  | fuel + 1, c :: cs => c :: expandWith group fuel cs

/-- Expands a template. -/
def expand (group : Nat → Text) (template : Text) : Text :=
  expandWith group template.length template

end Interpolation.Template
