import Interpolation.Proofs.Operator.Replacing
import Mathlib.Data.List.Sort

/-!
# What transliterations do

The written form of a set of characters is read from the left, and one character is put in place of another
by their places in two sets.

* `Transliteration.Expansion` says what a written form stands for, and `Transliteration.expansion_iff` that
  this is what it is written out as;
* `Transliteration.exists_applyChar`: between two sets without repetitions that are as long as each other,
  what becomes of a character can be undone, and so can what becomes of a text (`Transliteration.exists_apply`);
* `Operator.evaluate_transliterate_opposite`: a transliteration is undone by the opposite one.
-/

namespace Interpolation

namespace Transliteration

variable {a c d z : Char} {cs f t source target v : Text}

/-! ## Sets of characters -/

/-- What the written form of a set stands for, from the left: a hyphen between two characters in ascending
order stands for all characters from the one to the other, in order, and everything else for itself. -/
inductive Expansion : Text → Text → Prop where
  | nil : Expansion [] []
  | range {a z : Char} {r cs f : Text} (h : a ≤ z) (ascending : r.Pairwise (· < ·))
      (all : ∀ c, c ∈ r ↔ a ≤ c ∧ c ≤ z) (rest : Expansion cs f) : Expansion (a :: '-' :: z :: cs) (r ++ f)
  | char {c : Char} {cs f : Text} (h : ∀ z cs', cs = '-' :: z :: cs' → ¬c ≤ z) (rest : Expansion cs f) :
      Expansion (c :: cs) (c :: f)

theorem toNat_of_isValidChar {n : Nat} (h : n.isValidChar) : (Char.ofNat n).toNat = n := by
  rw [Char.ofNat, dif_pos h]
  rfl

theorem mem_between : c ∈ between a z ↔ a ≤ c ∧ c ≤ z := by
  have hle (b b' : Char) : b ≤ b' ↔ b.toNat ≤ b'.toNat := Iff.rfl
  simp only [between, List.mem_filterMap, List.mem_range'_1, Option.ite_none_right_eq_some,
    Option.some.injEq, hle]
  constructor
  · rintro ⟨n, hn, hvalid, rfl⟩
    rw [toNat_of_isValidChar hvalid]
    omega
  · intro h
    exact ⟨c.toNat, by omega, c.valid, Char.ofNat_toNat c⟩

theorem pairwise_between (a z : Char) : (between a z).Pairwise (· < ·) := by
  refine List.pairwise_filterMap.2 ((List.pairwise_lt_range' 1).imp fun {n m} hlt b hb b' hb' => ?_)
  simp only [Option.ite_none_right_eq_some, Option.some.injEq] at hb hb'
  obtain ⟨hn, rfl⟩ := hb
  obtain ⟨hm, rfl⟩ := hb'
  change (Char.ofNat n).toNat < (Char.ofNat m).toNat
  rwa [toNat_of_isValidChar hn, toNat_of_isValidChar hm]

/-- A character that begins no range stands for itself. -/
theorem ranges_cons (h : ∀ z cs', cs = '-' :: z :: cs' → ¬c ≤ z) : ranges (c :: cs) = c :: ranges cs := by
  rw [ranges.eq_def]
  split
  next a z cs' heq =>
    obtain ⟨rfl, rfl⟩ := List.cons.inj heq
    rw [if_neg (h z cs' rfl)]
  next heq =>
    obtain ⟨rfl, rfl⟩ := List.cons.inj heq
    rfl
  next heq => cases heq

/-- A written form stands for what it is written out as, and for nothing else. -/
theorem expansion_iff : Expansion t f ↔ f = ranges t := by
  constructor
  · intro h
    induction h with
    | nil => rfl
    | range h ascending all _ ih =>
      rw [ranges, if_pos h, ih,
        ascending.eq_of_mem_iff (pairwise_between _ _) fun c => (all c).trans mem_between.symm]
    | char h _ ih => rw [ranges_cons h, ih]
  · rintro rfl
    fun_induction ranges t with
    | case1 a z cs h ih => exact .range h (pairwise_between a z) (fun _ => mem_between) ih
    | case2 a z cs h ih =>
      refine .char (fun z' cs' heq => ?_) ih
      obtain ⟨-, rfl, -⟩ : '-' = '-' ∧ z = z' ∧ cs = cs' := by simpa using heq
      exact h
    | case3 c cs hcs ih => exact .char (fun z cs' heq => absurd heq (hcs z cs')) ih
    | case4 => exact .nil

/-- Without backslashes nothing in a set is escaped. -/
theorem expandSet_of_expansion (ht : '\\' ∉ t) (h : Expansion t f) : expandSet t = f := by
  rw [expandSet, Text.unescape_of_not_mem ht, expansion_iff.1 h]

/-! ## What becomes of characters -/

theorem applyChar_of_not_mem (h : c ∉ source) : applyChar source target c = some c := by
  rw [applyChar, List.idxOf?_eq_none_iff.2 h]

/-- In a set without repetitions a character has one place. -/
theorem applyChar_of_getElem? {i : Nat} (hnodup : source.Nodup) (hc : source[i]? = some c)
    (hd : target[i]? = some d) : applyChar source target c = some d := by
  obtain ⟨hi, rfl⟩ := List.getElem?_eq_some_iff.1 hc
  have hplace : source.idxOf? source[i] = some i :=
    List.idxOf?_eq_some_iff.2 ⟨hi, rfl, fun j hj he => Nat.ne_of_lt hj ((hnodup.getElem_inj_iff).1 he)⟩
  simp only [applyChar, hplace, hd, Option.some_or]

section Opposite

variable (hlength : source.length = target.length) (hsource : source.Nodup) (htarget : target.Nodup)

include hlength hsource htarget

/-- What becomes of a character is undone by the opposite sets, unless it stays only because it is not in
the first set. -/
theorem exists_applyChar (hc : c ∈ target → c ∈ source) :
    ∃ d, applyChar source target c = some d ∧ applyChar target source d = some c := by
  by_cases hmem : c ∈ source
  · obtain ⟨i, hi, hget⟩ := List.mem_iff_getElem.1 hmem
    have hget : source[i]? = some c := List.getElem?_eq_some_iff.2 ⟨hi, hget⟩
    have hi' : i < target.length := hlength ▸ hi
    have hget' : target[i]? = some target[i] := List.getElem?_eq_getElem hi'
    exact ⟨_, applyChar_of_getElem? hsource hget hget', applyChar_of_getElem? htarget hget' hget⟩
  · exact ⟨c, applyChar_of_not_mem hmem, applyChar_of_not_mem fun h => hmem (hc h)⟩

/-- What becomes of a text has as many characters, and is undone by the opposite sets. -/
theorem exists_apply (hv : ∀ c ∈ v, c ∈ target → c ∈ source) :
    ∃ v', apply source target v = v' ∧ v'.length = v.length ∧ apply target source v' = v := by
  induction v with
  | nil => exact ⟨[], rfl, rfl, rfl⟩
  | cons c v ih =>
    obtain ⟨d, hd, hc⟩ := exists_applyChar hlength hsource htarget (hv c List.mem_cons_self)
    obtain ⟨v', hv', hlength', hback⟩ := ih fun b hb => hv b (List.mem_cons_of_mem c hb)
    exact ⟨d :: v', by rw [apply, List.filterMap_cons_some hd]; exact congrArg (d :: ·) hv',
      congrArg (· + 1) hlength', by rw [apply, List.filterMap_cons_some hc]; exact congrArg (c :: ·) hback⟩

end Opposite

/-- Sets without slashes and backslashes are cut off where they are meant to be. -/
theorem clean_sets {n : Text} (hn : '\n' ∉ n) (hne : source ≠ []) (hsource : '/' ∉ source ∧ '\\' ∉ source)
    (htarget : '/' ∉ target) : Cut.Clean ⟨n, source, target⟩ where
  name := hn
  nonempty := hne
  source := Text.slashesEscaped_of_not_mem hsource.1
  target := Text.slashesEscaped_of_not_mem htarget
  source_open := fun h => hsource.2 (List.mem_of_getLast? h)

end Transliteration

namespace Operator

open Transliteration

variable {host : Host} {st st' : State} {n F T f t v : Text}

/-- The answer of a transliteration whose sets have no slashes and no backslashes. -/
theorem run_evaluate_transliterate (hn : '\n' ∉ n) (hne : F ≠ []) (hF : '/' ∉ F ∧ '\\' ∉ F)
    (hT : '/' ∉ T ∧ '\\' ∉ T) (hf : Expansion F f) (ht : Expansion T t)
    (hv : Operand.lookup host.toProperties n st = some (.ok (.set v), st')) :
    Operator.transliterate.evaluate host (n ++ (":tr/".toList ++ (F ++ '/' :: T))) st =
      some (.ok (some (.text (Transliteration.apply f t v))), st') := by
  obtain ⟨g, hg, hname, hsource, htarget⟩ := (clean_sets hn hne hF hT.1).recognized_iff.2 rfl
  subst hname
  change recognize? Operator.transliterate.grammar
    (g.text 1 ++ (":tr/".toList ++ (F ++ '/' :: T))) = some g at hg
  simp only [evaluate, hg, apply, hsource, htarget, expandSet_of_expansion hF.2 hf,
    expandSet_of_expansion hT.2 ht]
  exact run_onValue hv

/-- A transliteration between two sets without repetitions that are as long as each other is undone by the
opposite one, if the value has no characters of the second set that are not in the first one. -/
theorem evaluate_transliterate_opposite (hn : '\n' ∉ n) (hF : F ≠ [] ∧ '/' ∉ F ∧ '\\' ∉ F)
    (hT : T ≠ [] ∧ '/' ∉ T ∧ '\\' ∉ T) (hf : Expansion F f) (ht : Expansion T t)
    (hlength : f.length = t.length) (hfrom : f.Nodup) (hinto : t.Nodup) (hchars : ∀ c ∈ v, c ∈ t → c ∈ f)
    (hv : Operand.lookup host.toProperties n st = some (.ok (.set v), st')) :
    ∃ v', v'.length = v.length ∧
      Operator.transliterate.evaluate host (n ++ (":tr/".toList ++ (F ++ '/' :: T))) st =
        some (.ok (some (.text v')), st') ∧
      ∀ (host₂ : Host) (st₂ st₂' : State),
        Operand.lookup host₂.toProperties n st₂ = some (.ok (.set v'), st₂') →
        Operator.transliterate.evaluate host₂ (n ++ (":tr/".toList ++ (T ++ '/' :: F))) st₂ =
          some (.ok (some (.text v)), st₂') := by
  obtain ⟨v', hv', hlength', hback⟩ := exists_apply hlength hfrom hinto hchars
  refine ⟨v', hlength', ?_, fun host₂ st₂ st₂' hv₂ => ?_⟩
  · rw [run_evaluate_transliterate hn hF.1 hF.2 hT.2 hf ht hv, hv']
  · rw [run_evaluate_transliterate hn hT.1 hT.2 hF.2 ht hf hv₂, hback]

/-- A hyphen at the beginning, one in a range, and one between two characters in descending order. -/
theorem evaluate_transliterate_opposite_hyphens :
    let st : State := { State.empty with properties := TextMap.insert ∅ "p".toList "cab-d".toList }
    let st₂ : State := { State.empty with properties := TextMap.insert ∅ "p".toList "y-xzd".toList }
    let f := "-abc".toList
    let t := "z-xy".toList
    '\n' ∉ "p".toList ∧ ("-a-c".toList ≠ [] ∧ '/' ∉ "-a-c".toList ∧ '\\' ∉ "-a-c".toList) ∧
      ("z-xy".toList ≠ [] ∧ '/' ∉ "z-xy".toList ∧ '\\' ∉ "z-xy".toList) ∧
      Expansion "-a-c".toList f ∧ Expansion "z-xy".toList t ∧ f.length = t.length ∧ f.Nodup ∧ t.Nodup ∧
      (∀ c ∈ "cab-d".toList, c ∈ t → c ∈ f) ∧
      Operand.lookup Host.plain.toProperties "p".toList st = some (.ok (.set "cab-d".toList), st) ∧
      Operator.transliterate.evaluate Host.plain "p:tr/-a-c/z-xy".toList st =
        some (.ok (some (.text "y-xzd".toList)), st) ∧
      Operator.transliterate.evaluate Host.plain "p:tr/z-xy/-a-c".toList st₂ =
        some (.ok (some (.text "cab-d".toList)), st₂) := by
  intro st st₂ f t
  have hF : "-a-c".toList ≠ [] ∧ '/' ∉ "-a-c".toList ∧ '\\' ∉ "-a-c".toList := by decide
  have hT : "z-xy".toList ≠ [] ∧ '/' ∉ "z-xy".toList ∧ '\\' ∉ "z-xy".toList := by decide
  have hf : Expansion "-a-c".toList f := expansion_iff.2 rfl
  have ht : Expansion "z-xy".toList t := expansion_iff.2 rfl
  have hchars : ∀ c ∈ "cab-d".toList, c ∈ t → c ∈ f := by simp [f, t]
  have hv : Operand.lookup Host.plain.toProperties "p".toList st =
      some (.ok (.set "cab-d".toList), st) := rfl
  obtain ⟨v', -, hthere, hback⟩ := evaluate_transliterate_opposite (by decide) hF hT hf ht rfl
    (by decide) (by decide) hchars hv
  have hvalue := hthere.symm.trans (run_evaluate_transliterate (by decide) hF.1 hF.2 hT.2 hf ht hv)
  obtain rfl : v' = "y-xzd".toList := by
    simpa [Transliteration.apply, applyChar, f, t, List.idxOf?, List.findIdx?_cons] using hvalue
  exact ⟨by decide, hF, hT, hf, ht, rfl, by decide, by decide, hchars, hv, hthere, hback Host.plain st₂ st₂ rfl⟩

end Operator

end Interpolation
