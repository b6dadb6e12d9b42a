import Interpolation.Text

/-!
# Cutting texts at other texts

* `Text.behind?_append` and `Text.behind?_eq_some`: what stands behind a given beginning;
* `Text.splitOnce?_eq_some`, `Text.splitOnce?_eq_none_iff` and `Text.length_le_of_splitOnce?`: a text is
  cut at the first occurrence of a separator, if there is one; `Text.splitOnce?_append`: at a character;
* `Text.splitOn_intercalate`: texts that a character joins are cut apart again at its occurrences;
* `Text.replaceFirst` and `Text.replaceAll` put something else in place of the first occurrence, or of
  every one that does not overlap with those in front of it. What they do at the beginning of a text
  (`Text.replaceAll_append`, `Text.replaceAll_cons`) decides what they do.
-/

namespace Interpolation.Text

variable {needle other t u r before rest : Text} {c : Char}

/-! ## Beginnings -/

theorem behind?_append (u r : Text) : behind? u (u ++ r) = some r := by
  induction u with
  | nil => rfl
  | cons c u ih => rw [List.cons_append, behind?, if_pos rfl, ih]

theorem behind?_eq_some (h : behind? u t = some r) : t = u ++ r := by
  induction u generalizing t with
  | nil => exact Option.some.inj h
  | cons a as ih =>
    cases t with
    | nil => simp [behind?] at h
    | cons c cs =>
      rw [behind?] at h
      split at h
      · rename_i hac
        rw [hac, ih h, List.cons_append]
      · simp at h

theorem behind?_eq_none_iff : behind? u t = none ↔ ¬u <+: t := by
  refine ⟨?_, fun h => ?_⟩
  · rintro h ⟨r, rfl⟩
    cases (behind?_append u r).symm.trans h
  · cases hr : behind? u t with
    | none => rfl
    | some r => exact absurd ⟨r, (behind?_eq_some hr).symm⟩ h

/-! ## First occurrences -/

/-- The two parts and the separator between them make up the text. -/
theorem splitOnce?_eq_some {separator : Text} (h : splitOnce? separator t = some (before, rest)) :
    t = before ++ (separator ++ rest) := by
  induction t generalizing before with
  | nil =>
    rw [splitOnce?] at h
    split at h
    · rename_i hs
      obtain ⟨rfl, rfl⟩ := Prod.mk.inj (Option.some.inj h)
      rw [List.isEmpty_iff.1 hs, List.nil_append, List.nil_append]
    · simp at h
  | cons c cs ih =>
    rw [splitOnce?] at h
    split at h
    · rename_i rest' hb
      obtain ⟨rfl, rfl⟩ := Prod.mk.inj (Option.some.inj h)
      rw [List.nil_append, behind?_eq_some hb]
    · obtain ⟨⟨before', rest'⟩, hs, he⟩ := Option.map_eq_some_iff.1 h
      obtain ⟨rfl, rfl⟩ := Prod.mk.inj he
      rw [ih hs, List.cons_append]

/-- A text is cut unless the separator does not occur in it. -/
theorem splitOnce?_eq_none_iff : splitOnce? needle t = none ↔ ¬needle <:+: t := by
  induction t with
  | nil => simp [splitOnce?]
  | cons c cs ih =>
    rw [splitOnce?, List.infix_cons_iff, not_or, ← behind?_eq_none_iff, ← ih]
    cases behind? needle (c :: cs) <;> simp

/-- No occurrence of the separator stands in front of the one at which a text is cut. -/
theorem length_le_of_splitOnce? (h : splitOnce? needle t = some (before, rest)) {before' rest' : Text}
    (ht : t = before' ++ (needle ++ rest')) : before.length ≤ before'.length := by
  induction t generalizing before before' with
  | nil =>
    have := congrArg List.length (splitOnce?_eq_some h)
    simp only [List.length_append, List.length_nil] at this
    omega
  | cons c cs ih =>
    rw [splitOnce?] at h
    split at h
    · obtain ⟨rfl, -⟩ := Prod.mk.inj (Option.some.inj h)
      exact Nat.zero_le _
    · rename_i hnone
      obtain ⟨⟨x, y⟩, hs, he⟩ := Option.map_eq_some_iff.1 h
      obtain ⟨rfl, rfl⟩ := Prod.mk.inj he
      cases before' with
      | nil => exact absurd ⟨rest', ht.symm⟩ (behind?_eq_none_iff.1 hnone)
      | cons d before' => exact Nat.succ_le_succ (ih hs (List.cons.inj ht).2)

/-- A text is not cut at a character that does not stand in it. -/
theorem splitOnce?_eq_none (h : c ∉ t) : splitOnce? [c] t = none :=
  splitOnce?_eq_none_iff.2 fun hi => h (hi.subset List.mem_cons_self)

/-- A text is cut at the first of several occurrences of a character. -/
theorem splitOnce?_append (h : c ∉ u) (r : Text) : splitOnce? [c] (u ++ c :: r) = some (u, r) := by
  induction u with
  | nil => rw [List.nil_append, splitOnce?, behind?, if_pos rfl, behind?]
  | cons e es ih =>
    have hc : c ≠ e := fun he => h (he ▸ List.mem_cons_self)
    rw [List.cons_append, splitOnce?, behind?, if_neg hc, ih fun hm => h (List.mem_cons_of_mem _ hm)]
    rfl

/-! ## All occurrences -/

theorem splitOn_of_not_mem (h : c ∉ t) : splitOn c t = [t] := by
  induction t with
  | nil => rfl
  | cons e es ih =>
    have hc : e ≠ c := fun he => h (he ▸ List.mem_cons_self)
    rw [splitOn, if_neg hc, ih fun hm => h (List.mem_cons_of_mem _ hm)]

/-- What stands in front of the first occurrence is the first part. -/
theorem splitOn_append (h : c ∉ u) (r : Text) : splitOn c (u ++ c :: r) = u :: splitOn c r := by
  induction u with
  | nil => rw [List.nil_append, splitOn, if_pos rfl]
  | cons e es ih =>
    have hc : e ≠ c := fun he => h (he ▸ List.mem_cons_self)
    rw [List.cons_append, splitOn, if_neg hc, ih fun hm => h (List.mem_cons_of_mem _ hm)]

/-- Texts that are joined by a character which stands in none of them are the parts again. -/
theorem splitOn_intercalate {ts : List Text} (hne : ts ≠ []) (h : ∀ t ∈ ts, c ∉ t) :
    splitOn c ([c].intercalate ts) = ts := by
  induction ts with
  | nil => exact absurd rfl hne
  | cons t ts ih =>
    cases ts with
    | nil => rw [List.intercalate_singleton, splitOn_of_not_mem (h t List.mem_cons_self)]
    | cons t' ts =>
      rw [List.intercalate_cons_cons, List.append_assoc, List.singleton_append,
        splitOn_append (h t List.mem_cons_self),
        ih (List.cons_ne_nil _ _) fun u hu => h u (List.mem_cons_of_mem _ hu)]

/-! ## Replacing occurrences -/

/-- Puts a text in place of the first occurrence of another one. -/
def replaceFirst (needle other t : Text) : Text :=
  match splitOnce? needle t with
  | some (before, rest) => before ++ (other ++ rest)
  | none => t

/-- Puts a text in place of every occurrence of another one, from the left: an occurrence that overlaps
with one in front of it stays. -/
def replaceAll (needle other : Text) (hneedle : needle ≠ []) (t : Text) : Text :=
  match _h : splitOnce? needle t with
  | some (before, rest) => before ++ (other ++ replaceAll needle other hneedle rest)
  | none => t
termination_by t.length
decreasing_by
  have hlength := congrArg List.length (splitOnce?_eq_some _h)
  have := List.length_pos_iff.2 hneedle
  simp only [List.length_append] at hlength
  omega

theorem replaceAll_eq (hneedle : needle ≠ []) (t : Text) : replaceAll needle other hneedle t =
    match splitOnce? needle t with
    | some (before, rest) => before ++ (other ++ replaceAll needle other hneedle rest)
    | none => t := by
  rw [replaceAll]
  split <;> rename_i h <;> simp only [h]

theorem replaceFirst_of_not_isInfix (h : ¬needle <:+: t) : replaceFirst needle other t = t := by
  rw [replaceFirst, splitOnce?_eq_none_iff.2 h]

theorem replaceAll_of_not_isInfix (hneedle : needle ≠ []) (h : ¬needle <:+: t) :
    replaceAll needle other hneedle t = t := by
  rw [replaceAll_eq, splitOnce?_eq_none_iff.2 h]

theorem replaceAll_nil (hneedle : needle ≠ []) : replaceAll needle other hneedle [] = [] :=
  replaceAll_of_not_isInfix hneedle fun h => hneedle (List.infix_nil.1 h)

/-- An occurrence at the beginning is replaced, and what is behind it is searched on its own. -/
theorem replaceAll_append (hneedle : needle ≠ []) (t : Text) :
    replaceAll needle other hneedle (needle ++ t) = other ++ replaceAll needle other hneedle t := by
  obtain ⟨c, cs, rfl⟩ := List.exists_cons_of_ne_nil hneedle
  rw [replaceAll_eq, List.cons_append, splitOnce?, ← List.cons_append, behind?_append]
  rfl

/-- A character at which no occurrence begins stays. -/
theorem replaceAll_cons (hneedle : needle ≠ []) (h : ¬needle <+: c :: t) :
    replaceAll needle other hneedle (c :: t) = c :: replaceAll needle other hneedle t := by
  rw [replaceAll_eq, replaceAll_eq hneedle t, splitOnce?, behind?_eq_none_iff.2 h]
  cases splitOnce? needle t <;> rfl

end Interpolation.Text
