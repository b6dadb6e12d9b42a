import Interpolation.Glob
import Interpolation.Operator.Basic

/-!
# Deleting a part of a value

* `Side` is the end of a value from which a part is deleted;
* `Deletion.sign` and `Deletion.source` are the operator and the written form of its tokens,
  `Deletion.grammar` is the pattern that recognises them;
* `Deletion.apply` deletes what a glob matches from a value.
-/

namespace Interpolation

/-- An end of a value. -/
inductive Side where
  | front
  | back
  deriving DecidableEq, Repr

/-- An operator that deletes the longest or the shortest part at one end of a value. -/
structure Deletion where
  side : Side
  greed : Greed
  deriving DecidableEq, Repr

namespace Deletion

/-- The four operators, in the order in which they are tried. -/
def all : List Deletion :=
  [⟨.front, .greedy⟩, ⟨.front, .reluctant⟩, ⟨.back, .greedy⟩, ⟨.back, .reluctant⟩]

/-- The operator in a token. -/
def sign (d : Deletion) : Text :=
  let c := match d.side with
    | .front => '#'
    | .back => '%'
  match d.greed with
  | .greedy => [c, c]
  | .reluctant => [c]

/-- The written form of the pattern of its tokens: a name, the operator and a glob. -/
def source (d : Deletion) : Text :=
  "^(.*?)".toList ++ d.sign ++ "(.*)$".toList

/-- The pattern of its tokens. -/
def grammar (d : Deletion) : Pattern :=
  .seqs [.group 1 Grammar.shortest, .literal d.sign, .group 2 Grammar.longest]

/-- The written form of a pattern for a whole value, whose group 1 is what stays when the part that
a fragment matches is deleted. To delete as much as possible at the back, as little as possible
has to stay. -/
def specialize (d : Deletion) (fragment : Text) : Text :=
  match d.side, d.greed with
  | .front, _ => "(?s)^(?:".toList ++ fragment ++ ")(.*)$".toList
  | .back, .greedy => "(?s)^(.*?)(?:".toList ++ fragment ++ ")$".toList
  | .back, .reluctant => "(?s)^(.*)(?:".toList ++ fragment ++ ")$".toList

/-- Deletes what a glob matches at one end of a value; the value stays as it is if the glob does
not match. -/
def apply (d : Deletion) (glob value : Text) : Except Error Text :=
  match Pattern.read (d.specialize (Glob.translate (d.greed = .greedy) glob)) with
  | .error fault => .error (.pattern fault)
  | .ok p => .ok (((p.captures? value).bind (·.get? 1)).getD value)

end Deletion

end Interpolation
