import Interpolation.Pattern.Preferred

/-!
# Searching with a pattern

A search goes through the places of a text from the left; the first place from which the pattern
leads on starts the match, and the preferred way ends it.

* `Groups` are the texts that the groups of a match have caught;
* `Pattern.pieces` cuts a text into matches that do not overlap, of which no empty one directly
  follows another, and the characters between them;
* `Pattern.captures?` gives the groups of the first match, `Pattern.accepts` tells whether there
  is one;
* `Pattern.replaceFirst`, `Pattern.replaceAll` and `Pattern.split` put something else in place of
  the matches, or cut the text at them.
-/

namespace Interpolation

/-- The texts that the groups of a match have caught; group 0 is the match. A group that took no
part has none. -/
structure Groups where
  texts : List (Option Text)
  deriving DecidableEq, Repr

namespace Groups

/-- The text of a group, if it took part. -/
def get? (g : Groups) (number : Nat) : Option Text :=
  g.texts[number]?.join

/-- The text of a group, empty if it took no part. -/
def text (g : Groups) (number : Nat) : Text :=
  (g.get? number).getD []

end Groups

namespace Way

/-- The indices between which a group has caught a text, the last time that it did. -/
def span? (w : Way) (number : Nat) : Option (Nat × Nat) :=
  (w.marks.foldl (fun (opened, caught) m =>
    if m.number = number then
      match m.edge with
      | .opening => (m.index, caught)
      | .closing => (opened, some (opened, m.index))
    else (opened, caught)) (0, none)).2

end Way

/-- A part of a text that has been searched. -/
inductive Piece where
  /-- A character outside the matches. -/
  | plain (c : Char)
  /-- A match, the index at which it starts and its way. -/
  | hit (start : Nat) (way : Way)

/-- The match, if a piece is one. -/
def Piece.hit? : Piece → Option (Nat × Way)
  | .plain _ => none
  | .hit start w => some (start, w)

namespace Pattern

/-- Cuts the rest of a text into pieces, by the preferred ways from its places. The first
characters may still belong to a match; where a match has just ended, an empty one is passed
over. -/
def cut (index : Nat) (inMatch : Nat) (ended : Bool) : Text → List (Option Way) → List Piece
  | _, [] => []
  | [], found :: _ =>
    match found with
    | some w => if ended then [] else [.hit index w]
    | none => []
  | c :: cs, found :: later =>
    match inMatch with
    | left + 1 => cut (index + 1) left (left = 0) cs later
    | 0 =>
      match found with
      | none => .plain c :: cut (index + 1) 0 false cs later
      | some w =>
        match w.stop.index - index with
        | 0 =>
          if ended then .plain c :: cut (index + 1) 0 false cs later
          else .hit index w :: .plain c :: cut (index + 1) 0 false cs later
        | left + 1 => .hit index w :: cut (index + 1) left (left = 0) cs later

/-- Cuts a text into matches and the characters between them. -/
def pieces (p : Pattern) (t : Text) : List Piece :=
  cut 0 0 false t (p.survey t)

/-- The text between two indices. -/
def slice (t : Text) (start stop : Nat) : Text :=
  (t.drop start).take (stop - start)

/-- The groups of a match in a text: the match, then the groups from number 1 on. -/
def groupsOf (p : Pattern) (t : Text) (start : Nat) (w : Way) : Groups :=
  ⟨some (slice t start w.stop.index) :: (List.range p.lastGroup).map fun i =>
    (w.span? (i + 1)).map fun (start, stop) => slice t start stop⟩

/-- The first match in a text: where it starts, and its way. -/
def find? (p : Pattern) (t : Text) : Option (Nat × Way) :=
  (p.pieces t).findSome? Piece.hit?

/-- The groups of the first match in a text. -/
def captures? (p : Pattern) (t : Text) : Option Groups :=
  (p.find? t).map fun (start, w) => p.groupsOf t start w

/-- Whether a text has a match. -/
def accepts (p : Pattern) (t : Text) : Bool :=
  (p.find? t).isSome

/-- Replaces the first match in a text. -/
def replaceFirst (p : Pattern) (t : Text) (replacement : Groups → Text) : Text :=
  match p.find? t with
  | none => t
  | some (start, w) => t.take start ++ replacement (p.groupsOf t start w) ++ w.stop.rest

/-- Replaces every match in a text. -/
def replaceAll (p : Pattern) (t : Text) (replacement : Groups → Text) : Text :=
  (p.pieces t).flatMap fun piece =>
    match piece with
    | .plain c => [c]
    | .hit start w => replacement (p.groupsOf t start w)

/-- The texts between the matches. -/
def between : List Piece → List Text
  | [] => [[]]
  | .hit _ _ :: ps => [] :: between ps
  | .plain c :: ps =>
    match between ps with
    | [] => [[c]]
    | first :: others => (c :: first) :: others

/-- Cuts a text at every match. -/
def split (p : Pattern) (t : Text) : List Text :=
  between (p.pieces t)

end Pattern

end Interpolation
