import Interpolation.Text.Escape

/-!
# Escapes and what is left of them

A text in which every occurrence of a character has been given a backslash is read back as it was. In any
other text the backslashes that go are those that stand in front of the character, each in front of an
occurrence of its own: in a row of backslashes that are the character themselves, every second one stays.

* `Text.unescape_escape`: nothing is lost;
* `Text.isEscaping` tells the backslashes that go from those that stay, and `Text.isEscaping_iff` says which
  they are without reading the text from the left;
* `Text.strike` takes characters out of a text by their places, and `Text.unescape_eq_strike` takes out those;
* `Text.unescape_undoes` puts these together.
-/

namespace Interpolation.Text

variable {mark c d : Char} {t : Text}

/-! ## Reading back -/

/-- A character stays unless it is a backslash in front of the character that is escaped. -/
theorem unescape_cons (h : ¬(c = '\\' ∧ t.head? = some mark)) :
    unescape mark (c :: t) = c :: unescape mark t := by
  cases t with
  | nil => rfl
  | cons d t => rw [unescape, if_neg (by simpa using h)]

/-- An escaped text begins with the character only if this is the backslash. -/
theorem eq_backslash_of_head?_escape (h : (escape mark t).head? = some mark) : mark = '\\' := by
  cases t with
  | nil => cases h
  | cons c t =>
    rw [escape] at h
    split at h
    · exact (Option.some.inj h).symm
    · rename_i hc
      exact absurd (Option.some.inj h) hc

/-- What has been escaped is read back. -/
theorem unescape_escape (mark : Char) (t : Text) : unescape mark (escape mark t) = t := by
  induction t with
  | nil => rfl
  | cons c t ih =>
    by_cases hc : c = mark
    · subst hc
      rw [escape, if_pos rfl, unescape, if_pos ⟨rfl, rfl⟩, ih]
    · have hstays : ¬(c = '\\' ∧ (escape mark t).head? = some mark) := fun h =>
        hc (h.1.trans (eq_backslash_of_head?_escape h.2).symm)
      rw [escape, if_neg hc, unescape_cons hstays, ih]

theorem escape_injective (mark : Char) : Function.Injective (escape mark) :=
  Function.LeftInverse.injective (unescape_escape mark)

/-! ## The backslashes that go -/

/-- Whether the character at a place is a backslash that goes. -/
def isEscaping (mark : Char) : Text → Nat → Bool
  | c :: d :: cs, i =>
    if c = '\\' ∧ d = mark then
      match i with
      | 0 => true
      | 1 => false
      | i + 2 => isEscaping mark cs i
    else
      match i with
      | 0 => false
      | i + 1 => isEscaping mark (d :: cs) i
  | _, _ => false

/-- The backslashes that go are those in front of the character that are not kept for the sake of one in front
of them. -/
theorem isEscaping_iff (mark : Char) (t : Text) (i : Nat) :
    isEscaping mark t i = true ↔
      t[i]? = some '\\' ∧ t[i + 1]? = some mark ∧ ∀ j, j + 1 = i → isEscaping mark t j = false := by
  induction t using unescape.induct mark generalizing i with
  | case1 => simp [isEscaping]
  | case2 c => simp [isEscaping]
  | case3 c d cs h ih =>
    obtain ⟨rfl, rfl⟩ := h
    match i with
    | 0 => simp [isEscaping]
    | 1 => simp [isEscaping]
    | 2 => simp [isEscaping, ih]
    | i + 3 => simp [isEscaping, ih]
  | case4 c d cs h ih =>
    match i with
    | 0 => simp [isEscaping, h]
    | 1 => simp [isEscaping, h, ih]
    | i + 2 => simp [isEscaping, h, ih]

/-- A text without the characters at some places. -/
def strike (gone : Nat → Bool) (t : Text) : Text :=
  (t.zipIdx.filter fun x => !gone x.2).map Prod.fst

theorem strike_cons (gone : Nat → Bool) (c : Char) (t : Text) :
    strike gone (c :: t) =
      (if gone 0 then [] else [c]) ++ strike (fun i => gone (i + 1)) t := by
  rw [strike, strike, List.zipIdx_cons, List.zipIdx_succ, List.filter_cons, List.filter_map]
  cases gone 0 <;> simp [Function.comp_def]

theorem unescape_eq_strike (mark : Char) (t : Text) :
    unescape mark t = strike (isEscaping mark t) t := by
  induction t using unescape.induct mark with
  | case1 => rfl
  | case2 c => rfl
  | case3 c d cs h ih => simp [unescape, strike_cons, isEscaping, h, ih]
  | case4 c d cs h ih =>
    rw [unescape, if_neg h, strike_cons, ih]
    simp [isEscaping, h]

/-- Whatever is escaped is read back, so different texts are different when escaped. From any text nothing
goes but some of its backslashes. Each of them stands directly in front of the character, which stays, so that
no two of them stand in front of the same one. A backslash in front of the character stays only if it is
itself the character behind one that goes. -/
theorem unescape_undoes (mark : Char) :
    (∀ t, unescape mark (escape mark t) = t) ∧ Function.Injective (escape mark) ∧
      ∀ t, ∃ gone : Nat → Bool, unescape mark t = strike gone t ∧
        (∀ i, gone i = true → t[i]? = some '\\' ∧ t[i + 1]? = some mark ∧ gone (i + 1) = false) ∧
        ∀ i, t[i]? = some '\\' → t[i + 1]? = some mark →
          gone i = true ∨ ∃ j, j + 1 = i ∧ gone j = true := by
  refine ⟨unescape_escape mark, escape_injective mark, fun t => ?_⟩
  refine ⟨isEscaping mark t, unescape_eq_strike mark t, fun i hi => ?_, fun i hslash hmark => ?_⟩
  · obtain ⟨hslash, hmark, -⟩ := (isEscaping_iff mark t i).1 hi
    refine ⟨hslash, hmark, Bool.eq_false_iff.2 fun hnext => ?_⟩
    have hkept : isEscaping mark t i = false := ((isEscaping_iff mark t (i + 1)).1 hnext).2.2 i rfl
    exact Bool.false_ne_true (hkept.symm.trans hi)
  · by_cases hbefore : ∃ j, j + 1 = i ∧ isEscaping mark t j = true
    · exact .inr hbefore
    · refine .inl ((isEscaping_iff mark t i).2 ⟨hslash, hmark, fun j hj => ?_⟩)
      exact Bool.eq_false_iff.2 fun h => hbefore ⟨j, hj, h⟩

end Interpolation.Text
