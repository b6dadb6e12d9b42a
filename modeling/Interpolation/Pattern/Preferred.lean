import Interpolation.Pattern

/-!
# The preferred way from every place

A text may have very many ways through a pattern. The preferred one is found without listing them:
the text is gone through from its end, and for every class of characters in the pattern it is kept
how a match would best go on behind such a character. Each place then takes time in proportion to
the pattern alone.

* `Prospects` keeps the preferred way on from behind each class of a pattern;
* `Pattern.preferred` is the preferred way on from the front of a pattern, `Pattern.prospects`
  are the prospects one character earlier;
* `Pattern.survey` gives the preferred way of a match from every place of a text.
-/

namespace Interpolation

/-- The preferred ways on from behind each class of characters in a pattern, in the shape of the
pattern. -/
inductive Prospects where
  /-- There is none, or none is known. -/
  | nowhere
  | behindChar (way : Option Way)
  | both (p q : Prospects)

namespace Prospects

/-- The way on from behind a single class. -/
def way : Prospects → Option Way
  | .behindChar w => w
  | _ => none

/-- The prospects in the first of two parts. -/
def first : Prospects → Prospects
  | .both p _ => p
  | _ => .nowhere

/-- The prospects in the second of two parts. -/
def second : Prospects → Prospects
  | .both _ q => q
  | _ => .nowhere

end Prospects

namespace Pattern

/-- The preferred way on from a place in front of a pattern. Given are the prospects behind the
next character, and the way on from here behind the pattern. -/
def preferred (s : Place) : Pattern → Prospects → Option Way → Option Way
  | .empty, _, onwards => onwards
  | .char accepted, next, _ =>
    match s.rest with
    | [] => none
    | c :: _ => if accepted.contains c then next.way else none
  | .anchor a, _, onwards => if a.holds s.before s.rest then onwards else none
  | .group number p, next, onwards =>
    (p.preferred s next (onwards.map (.behind ⟨number, .closing, s.index⟩))).map
      (.behind ⟨number, .opening, s.index⟩)
  | .seq p q, next, onwards => p.preferred s next.first (q.preferred s next.second onwards)
  | .alt p q, next, onwards =>
    (p.preferred s next.first onwards).or (q.preferred s next.second onwards)
  | .opt .greedy p, next, onwards => (p.preferred s next onwards).or onwards
  | .opt .reluctant p, next, onwards => onwards.or (p.preferred s next onwards)
  | .plus _ p, next, onwards => p.preferred s next onwards

/-- The preferred way on from the end of a round that consumed something. -/
def afterRound (s : Place) (greed : Greed) (p : Pattern) (next : Prospects)
    (onwards : Option Way) : Option Way :=
  match greed with
  | .greedy => (p.preferred s next none).or onwards
  | .reluctant => onwards.or (p.preferred s next none)

/-- The prospects at a place. Given are those behind the next character, and the way on from here
behind the pattern. -/
def prospects (s : Place) : Pattern → Prospects → Option Way → Prospects
  | .empty, _, _ | .anchor _, _, _ => .nowhere
  | .char _, _, onwards => .behindChar onwards
  | .group number p, next, onwards =>
    p.prospects s next (onwards.map (.behind ⟨number, .closing, s.index⟩))
  | .seq p q, next, onwards =>
    .both (p.prospects s next.first (q.preferred s next.second onwards))
      (q.prospects s next.second onwards)
  | .alt p q, next, onwards =>
    .both (p.prospects s next.first onwards) (q.prospects s next.second onwards)
  | .opt _ p, next, onwards => p.prospects s next onwards
  | .plus greed p, next, onwards => p.prospects s next (afterRound s greed p next onwards)

/-- The preferred ways from every place of a text, whose first place is described by its index
and the character in front, and the prospects at the first place. -/
def surveyFrom (p : Pattern) (index : Nat) (before : Option Char) :
    Text → Prospects × List (Option Way)
  | [] => add ⟨index, before, []⟩ (.nowhere, [])
  | c :: cs => add ⟨index, before, c :: cs⟩ (p.surveyFrom (index + 1) (some c) cs)
where
  /-- Adds a place in front. -/
  add (s : Place) (later : Prospects × List (Option Way)) : Prospects × List (Option Way) :=
    let stop : Option Way := some (.stay s)
    (p.prospects s later.1 stop, p.preferred s later.1 stop :: later.2)

/-- The preferred ways from every place of a text, its end included. -/
def survey (p : Pattern) (t : Text) : List (Option Way) :=
  (p.surveyFrom 0 none t).2

end Pattern

end Interpolation
