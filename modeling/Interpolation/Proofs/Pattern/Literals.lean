import Interpolation.Proofs.Pattern.Splitting
import Interpolation.Proofs.Text.Cutting

/-!
# Literals as patterns

A pattern that takes one text only finds the occurrences of this text.

* `Pattern.ways_literal`: there is one way over the text where it stands, and none elsewhere;
* `Pattern.replaceFirst_literal` and `Pattern.replaceAll_literal`: to replace the matches is to replace
  the occurrences.
-/

namespace Interpolation.Pattern

variable {lit t : Text} {s : Place} {put : Groups → Text} {other : Text}

/-- The way over a text, where it stands. -/
theorem ways_literal (lit : Text) (s : Place) : (Pattern.literal lit).ways s =
    match Text.behind? lit s.rest with
    | some r => [.stay (s.past lit r)]
    | none => [] := by
  induction lit generalizing s with
  | nil =>
    show [Way.stay s] = [Way.stay (s.past [] s.rest)]
    rw [Place.past_nil rfl]
  | cons a lit ih =>
    have hcons : (Pattern.literal (a :: lit)).ways s = ((Pattern.char (.one a)).ways s).flatMap fun w =>
        ((Pattern.literal lit).ways w.stop).map w.andThen := by
      rw [literal, List.map_cons, ways_seqs_cons]
      rfl
    rw [hcons]
    cases hs : s.rest with
    | nil => simp only [ways, hs, List.flatMap_nil, Text.behind?]
    | cons c cs =>
      by_cases hc : a = c
      · subst hc
        have hone : (Pattern.char (.one a)).ways s = [.stay (s.past [a] cs)] := by
          simp only [ways, hs, CharClass.contains, decide_true, if_true]
          rfl
        rw [hone, List.flatMap_singleton, Text.behind?, if_pos rfl, show
          (Way.stay (s.past [a] cs)).stop = s.past [a] cs from rfl, ih, Place.past_rest]
        cases Text.behind? lit cs with
        | none => rfl
        | some r =>
          rw [List.map_singleton, Way.stay_andThen, Place.past_past]
          rfl
      · have hnone : (Pattern.char (.one a)).ways s = [] := by
          simp [ways, hs, CharClass.contains, Ne.symm hc]
        rw [hnone, Text.behind?, if_neg hc]
        rfl

theorem idle_literal (h : ¬lit <+: t) : (Pattern.literal lit).Idle t := by
  intro index before
  rw [ways_literal, Text.behind?_eq_none_iff.2 h]

theorem head?_ways_literal (lit r : Text) (index : Nat) (before : Option Char) :
    ((Pattern.literal lit).ways ⟨index, before, lit ++ r⟩).head? =
      some (.stay (Place.past ⟨index, before, lit ++ r⟩ lit r)) := by
  rw [ways_literal, Text.behind?_append]
  rfl

/-! ## Replacing the matches -/

/-- What becomes of a piece of a text when a text is put in place of every match. -/
def pieceText (other : Text) : Piece → Text
  | .plain c => [c]
  | .hit _ _ => other

theorem flatMap_piecesFrom_literal (hlit : lit ≠ []) (other t : Text) :
    ∀ (index : Nat) (before : Option Char) (ended : Bool),
      ((Pattern.literal lit).piecesFrom index before ended t).flatMap (pieceText other) =
        Text.replaceAll lit other hlit t := by
  generalize hn : t.length = n
  induction n using Nat.strongRecOn generalizing t with
  | ind n ih =>
    intro index before ended
    by_cases hat : lit <+: t
    · obtain ⟨r, rfl⟩ := hat
      have hpieces := piecesFrom_hit hlit (head?_ways_literal lit r index before) rfl ended
      have := List.length_pos_iff.2 hlit
      rw [hpieces, List.flatMap_cons, ih r.length (by rw [← hn, List.length_append]; omega) r rfl,
        Text.replaceAll_append]
      rfl
    · cases t with
      | nil =>
        rw [piecesFrom_nil (idle_literal hat), Text.replaceAll_nil]
        rfl
      | cons c cs =>
        rw [piecesFrom_plain (idle_literal hat), List.flatMap_cons,
          ih cs.length (by rw [← hn]; exact Nat.lt_succ_self _) cs rfl, Text.replaceAll_cons hlit hat]
        rfl

/-- To replace every match is to replace every occurrence. -/
theorem replaceAll_literal (hlit : lit ≠ []) (other t : Text) :
    (Pattern.literal lit).replaceAll t (fun _ => other) = Text.replaceAll lit other hlit t := by
  rw [replaceAll, pieces_eq, ← flatMap_piecesFrom_literal hlit other t 0 none false]
  refine congrArg (List.flatMap · _) (funext fun piece => ?_)
  cases piece <;> rfl

/-- The first match is at the first occurrence. -/
theorem findSome?_piecesFrom_literal (hlit : lit ≠ []) (t : Text) (index : Nat) (before : Option Char)
    (ended : Bool) :
    (((Pattern.literal lit).piecesFrom index before ended t).findSome? Piece.hit?).map
        (fun (start, w) => (start, w.stop.rest)) =
      (Text.splitOnce? lit t).map fun (front, rest) => (index + front.length, rest) := by
  induction t generalizing index before ended with
  | nil =>
    have hat : ¬lit <+: [] := fun h => hlit (List.prefix_nil.1 h)
    rw [piecesFrom_nil (idle_literal hat), Text.splitOnce?, if_neg (by simpa using hlit)]
    rfl
  | cons c cs ih =>
    rw [Text.splitOnce?]
    by_cases hat : lit <+: c :: cs
    · obtain ⟨r, hr⟩ := hat
      have hhead := head?_ways_literal lit r index before
      have hpieces := piecesFrom_hit hlit hhead rfl ended
      rw [← hr, hpieces, Text.behind?_append]
      rfl
    · rw [piecesFrom_plain (idle_literal hat), List.findSome?_cons, Piece.hit?, ih,
        Text.behind?_eq_none_iff.2 hat, Option.map_map]
      refine congrArg (Option.map · _) (funext fun x => ?_)
      simp only [Function.comp_apply, List.length_cons]
      rw [Nat.add_assoc, Nat.add_comm 1]

/-- To replace the first match is to replace the first occurrence. -/
theorem replaceFirst_literal (hlit : lit ≠ []) (other t : Text) :
    (Pattern.literal lit).replaceFirst t (fun _ => other) = Text.replaceFirst lit other t := by
  have hfind := findSome?_piecesFrom_literal hlit t 0 none false
  rw [← pieces_eq, ← find?] at hfind
  rw [replaceFirst, Text.replaceFirst]
  cases hs : Text.splitOnce? lit t with
  | none =>
    rw [hs, Option.map_none, Option.map_eq_none_iff] at hfind
    rw [hfind]
  | some cut =>
    obtain ⟨front, rest⟩ := cut
    rw [hs, Option.map_some, Option.map_eq_some_iff] at hfind
    obtain ⟨⟨start, w⟩, hw, hcut⟩ := hfind
    obtain ⟨rfl, rfl⟩ := Prod.mk.inj hcut
    have htake : t.take (0 + front.length) = front := by
      rw [Text.splitOnce?_eq_some hs, Nat.zero_add, List.take_left]
    simp only [hw, htake, List.append_assoc]

end Interpolation.Pattern
