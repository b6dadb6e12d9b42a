import Interpolation.Proofs.Pattern.Reading

/-!
# Fragments of patterns in front of other texts

A fragment that can be read on its own is read in the same way where more of a pattern follows, as long
as nothing in it could go on behind the seam. What is read of it does not depend on whether `.` accepts
line feeds either.

* `Pattern.Tame` fragments have no anchors and settings, and escape nothing but a few signs;
* `Pattern.Seam`: a text that may follow, the end of a group or nothing;
* `Pattern.readGreed_append`: a repetition of a fragment in front of such a text.
-/

namespace Interpolation.Pattern

/-- A text without anchors, line by line or not, and without settings, in which a backslash stands only
in front of a full stop, another backslash or a closing bracket. -/
def Tame : Text → Prop
  | [] => True
  | c :: cs => c ≠ '^' ∧ c ≠ '$' ∧ (c = '(' → cs.head? ≠ some '?') ∧
      (c = '\\' → ∃ e r, cs = e :: r ∧ e ∈ ['.', '\\', ']']) ∧ Tame cs

/-- What may follow a fragment: the end of a group, or nothing. -/
structure Seam (tail : Text) : Prop where
  close : ∀ c, tail.head? = some c → c = ')'
  colon_not_mem : ':' ∉ tail

variable {tail t rest : Text} {all : Bool}

theorem Tame.of_suffix (h : Tame t) (hr : rest <:+ t) : Tame rest := by
  obtain ⟨u, rfl⟩ := hr
  induction u with
  | nil => exact h
  | cons c u ih => exact ih h.2.2.2.2

/-- No other sign follows. -/
theorem Seam.head?_ne (h : Seam tail) {c : Char} (hc : c ≠ ')') : tail.head? ≠ some c :=
  fun he => hc (h.close c he)

theorem Seam.nil : Seam [] := ⟨nofun, nofun⟩

/-- What stands behind a fragment in front of the rest of a text. -/
theorem Seam.front : Seam ")(.*)$".toList := ⟨by simp, by decide⟩

/-- What stands behind a fragment at the end of a text. -/
theorem Seam.back : Seam ")$".toList := ⟨by simp, by decide⟩

/-! ## Repetitions -/

theorem head?_append_ne (h : Seam tail) {c : Char} (hc : c ≠ ')') (ht : t.head? ≠ some c) :
    (t ++ tail).head? ≠ some c := by
  cases t with
  | nil => exact h.head?_ne hc
  | cons e t => exact ht

theorem readGreed_append (all' : Bool) (h : Seam tail) {g : Greed}
    (hg : readGreed (usual all) t = (g, rest)) : readGreed (usual all') (t ++ tail) = (g, rest ++ tail) := by
  by_cases ht : t.head? = some '?'
  · obtain ⟨t, rfl⟩ := List.head?_eq_some_iff.1 ht
    obtain ⟨rfl, rfl⟩ := Prod.mk.inj hg
    rfl
  · rw [readGreed_of_head?_ne ht] at hg
    obtain ⟨rfl, rfl⟩ := Prod.mk.inj hg
    exact readGreed_of_head?_ne (head?_append_ne h (by decide) ht)

/-! ## Escapes -/

/-- The signs that a tame text escapes can be escaped. -/
theorem isEscapable_of_mem {e : Char} (he : e ∈ ['.', '\\', ']']) : isEscapable e := by
  simp only [List.mem_cons, List.not_mem_nil, or_false] at he
  rcases he with rfl | rfl | rfl <;> rfl

end Interpolation.Pattern
