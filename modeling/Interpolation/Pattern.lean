import Interpolation.Pattern.CharClass
import Interpolation.Text

/-!
# Patterns

A pattern describes texts and, among the ways in which a text fits, which one is preferred.

* `Pattern` is the tree of a pattern, `Greed` says whether a repetition prefers more or fewer
  rounds;
* `Place` is a place in a text, and `Way` is a way on from a place, with the marks of the groups
  that it passes;
* `Pattern.ways` lists the ways along which a pattern leads, the preferred one first.

The preference is that of trying alternatives in order: the first alternative before the second,
another round before leaving a greedy repetition, leaving a reluctant one before another round.
The first round of a repetition may consume nothing, and is the only one then.
-/

namespace Interpolation

/-- Whether a repetition prefers more rounds or fewer. -/
inductive Greed where
  | greedy
  | reluctant
  deriving DecidableEq, Repr

/-- The other preference. -/
def Greed.swap : Greed → Greed
  | .greedy => .reluctant
  | .reluctant => .greedy

/-- A pattern of texts. -/
inductive Pattern where
  /-- The empty text. -/
  | empty
  /-- One character of a class. -/
  | char (accepted : CharClass)
  /-- A condition on the place; consumes nothing. -/
  | anchor (a : Anchor)
  /-- The same texts as the pattern inside, remembered under a number. -/
  | group (number : Nat) (p : Pattern)
  /-- One pattern after another. -/
  | seq (p q : Pattern)
  /-- One of two patterns, the first one preferred. -/
  | alt (p q : Pattern)
  /-- The pattern or nothing. -/
  | opt (greed : Greed) (p : Pattern)
  /-- One round of the pattern or more. -/
  | plus (greed : Greed) (p : Pattern)
  deriving DecidableEq, Repr

/-- A place in a text. -/
structure Place where
  /-- How many characters come before. -/
  index : Nat
  /-- The character in front, if there is one. -/
  before : Option Char
  /-- The characters from here on. -/
  rest : Text
  deriving DecidableEq, Repr

namespace Place

/-- The start of a text. -/
def start (t : Text) : Place := ⟨0, none, t⟩

/-- The place behind the next character, the rest being given. -/
def advance (s : Place) (c : Char) (rest : Text) : Place :=
  ⟨s.index + 1, some c, rest⟩

end Place

/-- An end of the text that a group catches. -/
inductive Edge where
  | opening
  | closing
  deriving DecidableEq, Repr

/-- Tells where the text that a group catches begins or ends. -/
structure Mark where
  /-- The number of the group. -/
  number : Nat
  edge : Edge
  /-- The index of the place. -/
  index : Nat
  deriving DecidableEq, Repr

/-- A way on from a place. -/
structure Way where
  /-- Where the way ends. -/
  stop : Place
  /-- The marks of the groups on the way, in the order in which they are passed. -/
  marks : List Mark
  deriving DecidableEq, Repr

namespace Way

/-- The way that stays at a place. -/
def stay (s : Place) : Way := ⟨s, []⟩

/-- A way with a mark in front. -/
def behind (m : Mark) (w : Way) : Way :=
  { w with marks := m :: w.marks }

/-- A way continued by another one. -/
def andThen (w v : Way) : Way :=
  ⟨v.stop, w.marks ++ v.marks⟩

/-- A way that a group catches. -/
def caughtBy (w : Way) (number : Nat) (s : Place) : Way :=
  ⟨w.stop, ⟨number, .opening, s.index⟩ :: w.marks ++ [⟨number, .closing, w.stop.index⟩]⟩

end Way

namespace Pattern

/-- Any number of rounds of a pattern. -/
def star (greed : Greed) (p : Pattern) : Pattern :=
  .opt greed (.plus greed p)

/-- Several patterns one after another. -/
def seqs : List Pattern → Pattern
  | [] => .empty
  | p :: ps => ps.foldl .seq p

/-- The characters of a text one after another. -/
def literal (t : Text) : Pattern :=
  seqs (t.map fun c => .char (.one c))

/-- A number of rounds of a pattern. -/
def times (p : Pattern) (n : Nat) : Pattern :=
  seqs (List.replicate n p)

/-- At most a number of rounds of a pattern. -/
def upTo (greed : Greed) (p : Pattern) : Nat → Pattern
  | 0 => .empty
  | 1 => .opt greed p
  | n + 1 => .opt greed (.seq p (upTo greed p n))

/-- The numbers of groups in a pattern. -/
def groupNumbers : Pattern → List Nat
  | .empty | .char _ | .anchor _ => []
  | .group number p => number :: p.groupNumbers
  | .seq p q | .alt p q => p.groupNumbers ++ q.groupNumbers
  | .opt _ p | .plus _ p => p.groupNumbers

/-- The highest number of a group in a pattern, or zero. -/
def lastGroup (p : Pattern) : Nat :=
  p.groupNumbers.foldl max 0

/-- The ways on from the end of a round that consumed something: further rounds, none of which
consumes nothing, or leaving the repetition. The fuel bounds the number of rounds. -/
def onward (round : Place → List Way) (greed : Greed) : Nat → Place → List Way
  | 0, s => [.stay s]
  | fuel + 1, s =>
    let more := (round s).flatMap fun w =>
      if w.stop.index = s.index then [] else (onward round greed fuel w.stop).map w.andThen
    match greed with
    | .greedy => more ++ [.stay s]
    | .reluctant => .stay s :: more

/-- The ways of one round or more. A first round that consumes nothing is the only one; any other
starts further on than the one before, so there are no more of them than characters left. -/
def rounds (round : Place → List Way) (greed : Greed) (s : Place) : List Way :=
  (round s).flatMap fun w =>
    if w.stop.index = s.index then [w]
    else (onward round greed s.rest.length w.stop).map w.andThen

/-- The ways along which a pattern leads from a place, the preferred one first. -/
def ways : Pattern → Place → List Way
  | .empty => fun s => [.stay s]
  | .char accepted => fun s =>
    match s.rest with
    | [] => []
    | c :: cs => if accepted.contains c then [.stay (s.advance c cs)] else []
  | .anchor a => fun s => if a.holds s.before s.rest then [.stay s] else []
  | .group number p => fun s => (p.ways s).map fun w => w.caughtBy number s
  | .seq p q => fun s => (p.ways s).flatMap fun w => (q.ways w.stop).map w.andThen
  | .alt p q => fun s => p.ways s ++ q.ways s
  | .opt .greedy p => fun s => p.ways s ++ [.stay s]
  | .opt .reluctant p => fun s => .stay s :: p.ways s
  | .plus greed p => rounds p.ways greed

end Pattern

end Interpolation
