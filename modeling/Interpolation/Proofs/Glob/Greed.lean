import Interpolation.Glob
import Interpolation.Proofs.Pattern.Marks

/-!
# Greedy and reluctant stars

A star of a glob is translated to a repetition, greedy or marked as reluctant. The mark is written without regard
to what stands around the star. Inside of a class in brackets there are no repetitions: a star lists the full stop
and the star there, and its mark lists the question mark as well.

* `Glob.StarsOutside`: the globs without stars in classes. Parts of patterns of any other kind may stand in them;
* `Glob.marked_translate`: their two translations differ by marks behind repetitions;
* `Glob.accepts_translate`: so they are read as patterns that accept the same texts, and for whole texts as
  well.
-/

namespace Interpolation.Glob

open Pattern (Marked)

/-- Whether a part of a glob has no stars but escaped ones. There is no backslash at its end. -/
def isStarless : Text → Bool
  | [] => true
  | ['\\'] => false
  | '\\' :: _ :: g => isStarless g
  | c :: g => c != '*' && isStarless g

/-- The globs in which no star stands in a class in brackets. -/
inductive StarsOutside : Text → Prop
  | nil : StarsOutside []
  /-- A backslash at the end. -/
  | dangling : StarsOutside ['\\']
  | escaped {c : Char} {g : Text} (h : StarsOutside g) : StarsOutside ('\\' :: c :: g)
  | sign {c : Char} {g : Text} (hescape : c ≠ '\\') (hopen : c ≠ '[') (h : StarsOutside g) : StarsOutside (c :: g)
  /-- A class, with its closing bracket. -/
  | bracket {x g : Text} {a : Pattern.Nested CharClass} (hx : isStarless x)
    (ha : Pattern.readClass {} (translate true x) = .ok (a, [])) (h : StarsOutside g) : StarsOutside ('[' :: (x ++ g))

variable {g x : Text} {c : Char} {greedy : Bool}

/-! ## Translations -/

theorem translate_escaped (c : Char) (greedy : Bool) (g : Text) : translate greedy ('\\' :: c :: g) =
    (if c = '\\' then separatorClass else ['\\', c]) ++ translate greedy g := by
  by_cases hc : c = '\\'
  · subst hc
    rfl
  · rw [translate, if_neg hc]
    · rfl
    · exact hc

/-- What is no backslash is translated on its own. -/
theorem translate_cons (hc : c ≠ '\\') (greedy : Bool) (g : Text) :
    translate greedy (c :: g) = translate greedy [c] ++ translate greedy g := by
  by_cases hsign : c ∈ ['/', '?', '.', '*']
  · simp only [List.mem_cons, List.not_mem_nil, or_false] at hsign
    rcases hsign with rfl | rfl | rfl | rfl
    · rfl
    · rfl
    · rfl
    · cases greedy <;> rfl
  · simp only [List.mem_cons, List.not_mem_nil, or_false, not_or] at hsign
    obtain ⟨hslash, hone, hdot, hstar⟩ := hsign
    rw [translate, translate, translate, List.singleton_append]
    all_goals simp_all

/-- A sign other than the star has one translation. -/
theorem translate_singleton (hc : c ≠ '*') (greedy : Bool) : translate greedy [c] = translate true [c] := by
  by_cases hsign : c ∈ ['\\', '/', '?', '.']
  · simp only [List.mem_cons, List.not_mem_nil, or_false] at hsign
    rcases hsign with rfl | rfl | rfl | rfl <;> rfl
  · simp only [List.mem_cons, List.not_mem_nil, or_false, not_or] at hsign
    obtain ⟨hescape, hslash, hone, hdot⟩ := hsign
    rw [translate, translate, translate, translate]
    all_goals simp_all

/-- A part without stars has one translation, whatever follows. -/
theorem translate_append_of_isStarless (hx : isStarless x) (greedy : Bool) (g : Text) :
    translate greedy (x ++ g) = translate true x ++ translate greedy g := by
  fun_induction isStarless x with
  | case1 => rfl
  | case2 => cases hx
  | case3 c x ih =>
    rw [List.cons_append, List.cons_append, translate_escaped, translate_escaped, ih hx, List.append_assoc]
  | case4 c x hne hne' ih =>
    obtain ⟨hstar, hx⟩ := Bool.and_eq_true_iff.1 hx
    have hc : c ≠ '\\' := by
      rintro rfl
      cases x with
      | nil => exact hne rfl rfl
      | cons d x => exact hne' d x rfl rfl
    rw [List.cons_append, translate_cons hc greedy (x ++ g), translate_cons hc true x, ih hx,
      translate_singleton (by simpa using hstar) greedy, List.append_assoc]

/-! ## Marks -/

theorem marked_separatorClass {t t' : Text} (h : Marked t t') : Marked (separatorClass ++ t) (separatorClass ++ t') :=
  .bracket (u := ['/', '\\', '\\', ']']) rfl h

/-- The two translations of a glob differ by the marks behind its stars. -/
theorem marked_translate (h : StarsOutside g) : Marked (translate true g) (translate false g) := by
  induction h with
  | nil => exact .nil
  | dangling => exact .escaped .nil
  | @escaped c g _ ih =>
    rw [translate_escaped, translate_escaped]
    split
    · exact marked_separatorClass ih
    · exact .escaped ih
  | @sign c g hescape hopen _ ih =>
    by_cases hsign : c ∈ ['/', '?', '.', '*']
    · simp only [List.mem_cons, List.not_mem_nil, or_false] at hsign
      rcases hsign with rfl | rfl | rfl | rfl
      · exact marked_separatorClass ih
      · exact .sign (by decide) ih
      · exact .escaped ih
      · exact .sign (by decide) (.star ih)
    · simp only [List.mem_cons, List.not_mem_nil, or_false, not_or] at hsign
      obtain ⟨hslash, hone, hdot, hstar⟩ := hsign
      rw [translate, translate]
      · exact .sign (by simp_all) ih
      all_goals simp_all
  | @bracket x g a hx ha _ ih =>
    have opened (greedy : Bool) :
        translate greedy ('[' :: (x ++ g)) = '[' :: (translate true x ++ translate greedy g) := by
      rw [translate_cons (by decide) greedy (x ++ g), translate_append_of_isStarless hx]
      rfl
    rw [opened, opened]
    exact .bracket ha ih

/-- A glob without stars in classes whose greedy translation is the written form of a pattern has a reluctant
translation that is one, too. The two patterns have a match in the same texts, and match the same texts from end to
end. -/
theorem accepts_translate (hg : StarsOutside g) {p : Pattern} (hp : Pattern.read (translate true g) = .ok p) :
    ∃ q, Pattern.read (translate false g) = .ok q ∧
      ∀ u, p.accepts u = q.accepts u ∧ p.whole.accepts u = q.whole.accepts u := by
  obtain ⟨q, hq, hgreedy⟩ := Pattern.exists_read_of_marked (marked_translate hg) hp
  refine ⟨q, hq, fun u => ⟨Pattern.accepts_congr hgreedy u, Pattern.accepts_congr ?_ u⟩⟩
  rw [Pattern.greedy_whole, Pattern.greedy_whole, hgreedy]

/-- A class, stars behind it and in a group, one of them escaped, and a counted repetition. -/
theorem accepts_translate_bracket : ∃ p q, StarsOutside "[x-z]*(b*|\\*){2}".toList ∧
    Pattern.read (translate true "[x-z]*(b*|\\*){2}".toList) = .ok p ∧
    Pattern.read (translate false "[x-z]*(b*|\\*){2}".toList) = .ok q ∧
    ∀ u, p.accepts u = q.accepts u ∧ p.whole.accepts u = q.whole.accepts u := by
  have hg : StarsOutside "[x-z]*(b*|\\*){2}".toList := by
    refine .bracket (x := ['x', '-', 'z', ']']) rfl rfl ?_
    repeat first
      | exact .nil
      | refine .escaped ?_
      | refine .sign (by decide) (by decide) ?_
  obtain ⟨p, hp⟩ : ∃ p, Pattern.read (translate true "[x-z]*(b*|\\*){2}".toList) = .ok p := ⟨_, rfl⟩
  obtain ⟨q, hq, h⟩ := accepts_translate hg hp
  exact ⟨p, q, hg, hp, hq, h⟩

/-- A star in a class: the mark of the reluctant star is a member of the class. -/
example : [true, false].map (fun greedy => (Pattern.read (translate greedy "[*]".toList)).toOption.map fun p =>
    p.whole.accepts ['?']) = [some false, some true] := by decide +kernel

end Interpolation.Glob
