import Interpolation.Error
import Interpolation.Pattern.Reader

/-!
# Patterns of whole tokens

A strategy recognises its tokens by a pattern that has to match the whole token. One token is
reserved: it names the property that chooses a host's engine for patterns, and no strategy
resolves it.

* `recognize?` matches a token with a pattern that has been read;
* `TokenPattern` holds the written form of a pattern, or none yet; `TokenPattern.groups?` matches
  a token with it.
-/

namespace Interpolation

/-- The property that chooses a host's engine for patterns. -/
def engineProperty : Text := "ant.regexp.regexpimpl".toList

/-- A pattern for whole texts. -/
def Pattern.whole (p : Pattern) : Pattern :=
  .seqs [.anchor .textStart, p, .anchor .textEnd]

/-- The groups of a whole token. -/
def recognize? (p : Pattern) (token : Text) : Option Groups :=
  if token = engineProperty then none else p.whole.captures? token

/-- The written form of a pattern for whole tokens, once it is set. -/
structure TokenPattern where
  source : Option Text
  deriving DecidableEq, Repr

namespace TokenPattern

/-- The written form of the pattern for whole texts. -/
def anchored (source : Text) : Text :=
  ['^', '(', '?', ':'] ++ source ++ [')', '$']

/-- Matches a whole token. The reserved token matches no pattern, not even one that cannot be
read. -/
def groups? (p : TokenPattern) (token : Text) : Except Error (Option Groups) :=
  if token = engineProperty then .ok none
  else match p.source with
    | none => .error (.configuration .patternUnset)
    | some source =>
      match Pattern.read (anchored source) with
      | .ok p => .ok (p.captures? token)
      | .error fault => .error (.pattern fault)

end TokenPattern

end Interpolation
