import Interpolation.Glob
import Interpolation.Operator.Basic
import Interpolation.Pattern.Template
import Interpolation.Text.Escape

/-!
# Replacing parts of a value

* `Replacement.grammar` is the pattern of the tokens;
* `Replacement.template` writes a replacement as a template: a backslash and a digit call for a
  group, and a backslash in front of any other character leaves that character;
* `Replacement.apply` replaces the first part of a value that a glob matches, or every one.
-/

namespace Interpolation.Replacement

/-- The pattern of the tokens: a name, one slash or two, a glob, a slash and a replacement.
Slashes in them are escaped. -/
def grammar : Pattern :=
  .seqs [.group 1 part, .group 2 (.seq (Grammar.sign '/') (.opt .greedy (Grammar.sign '/'))),
    .group 3 part, Grammar.sign '/', .group 4 part]
where
  part : Pattern := .star .greedy Grammar.slashed

/-- Writes a replacement as a template. -/
def template : Text → Text
  | [] => []
  | ['\\'] => ['\\']
  | '\\' :: c :: cs =>
    if c.isDigit then '$' :: '{' :: c :: '}' :: template cs
    else if c = '$' then '$' :: '$' :: template cs
    else c :: template cs
  | c :: cs => if c = '$' then '$' :: '$' :: template cs else c :: template cs

/-- Replaces the first part of a value that a glob matches, or every one. -/
def apply (every : Bool) (glob replacement value : Text) : Except Error Text :=
  match Pattern.read (Glob.translate true (Text.unescape '/' glob)) with
  | .error fault => .error (.pattern fault)
  | .ok p =>
    let put (g : Groups) : Text := Template.expand g.text (template replacement)
    .ok (if every then p.replaceAll value put else p.replaceFirst value put)

end Interpolation.Replacement
