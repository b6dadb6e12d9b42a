import Interpolation.Proofs.Pattern.Brackets

/-!
# What one sign does to a state of reading

Under the usual settings, and where no group begins with a question mark, the settings stay as they are.

* `Pattern.Sign` lists what a sign can be and what it does to the state of reading; `Pattern.Repeats` are the
  signs that repeat the part in front of them;
* `Pattern.readSign_iff`: these are the signs that are read;
* `Pattern.Sign.suffix`: what is left stands at the end of the text.
-/

namespace Interpolation.Pattern

/-- What an escape sequence is in a pattern. -/
def Escaped.pattern : Escaped → Pattern
  | .char c => .char (.one c)
  | .set a => .char a
  | .anchor a => .anchor a

/-- What a character is in a pattern that is a part on its own. -/
def single (all : Bool) : Char → Pattern
  | '.' => .char (usual all).dotClass
  | '^' => .anchor (usual all).startAnchor
  | '$' => .anchor (usual all).endAnchor
  | c => .char (.one c)

/-- The repetition that a sign at the head of a text asks for, and the text behind it. -/
inductive Repeats (all : Bool) : Char → Text → (Greed → Pattern → Pattern) → Text → Prop
  | opt {cs : Text} : Repeats all '?' cs .opt cs
  | star {cs : Text} : Repeats all '*' cs .star cs
  | plus {cs : Text} : Repeats all '+' cs .plus cs
  | counted {cs rest : Text} {count : Count} (h : readCount (usual all) cs = .ok (count, rest)) :
    Repeats all '{' cs (fun greed p => repeated greed p count) rest

/-- A sign at the head of a text: the state behind it, and the rest of the text. -/
inductive Sign (all : Bool) (r : Reader) : Char → Text → Reader → Text → Prop
  | opening {cs : Text} (h : cs.head? ≠ some '?') : Sign all r '(' cs r.openNumbered cs
  | closing {cs : Text} {r' : Reader} (h : r.closeGroup = .ok r') : Sign all r ')' cs r' cs
  | bar {cs : Text} : Sign all r '|' cs { r with level := r.level.next } cs
  | bracket {cs rest : Text} {a : Nested CharClass} (h : readClass (usual all) cs = .ok (a, rest)) :
    Sign all r '[' cs (r.push (a.map .char)) rest
  | escape {cs rest : Text} {v : Escaped} (h : readEscape (usual all) cs = .ok (v, rest)) :
    Sign all r '\\' cs (r.push (.leaf v.pattern)) rest
  | repeating {c : Char} {cs u rest : Text} {f : Greed → Pattern → Pattern} {greed : Greed} {r' : Reader}
    (hf : Repeats all c cs f u) (hgreed : readGreed (usual all) u = (greed, rest))
    (h : r.repeatLast (f greed) = .ok r') : Sign all r c cs r' rest
  | single {c : Char} {cs : Text} (hc : c ∉ ['(', ')', '|', '[', '\\', '?', '*', '+', '{']) :
    Sign all r c cs (r.push (.leaf (single all c))) cs

variable {r r' : Reader} {t rest : Text} {all : Bool} {c : Char}

theorem single_of_not_mem (all : Bool) (hc : c ∉ ['.', '^', '$']) : Pattern.single all c = .char (.one c) := by
  simp only [List.mem_cons, List.not_mem_nil, or_false, not_or] at hc
  obtain ⟨hdot, hstart, hend⟩ := hc
  rw [Pattern.single]
  all_goals assumption

/-- Whether there is something to repeat does not depend on the repetition. -/
theorem Reader.exists_repeatLast {f : Pattern → Pattern} (h : r.repeatLast f = .ok r') (g : Pattern → Pattern) :
    ∃ r'', r.repeatLast g = .ok r'' := by
  obtain ⟨⟨alternatives, parts⟩, opened, flags, groups, names⟩ := r
  match parts, h with
  | some p :: parts, _ => exact ⟨_, rfl⟩

theorem Repeats.readSign {f : Greed → Pattern → Pattern} {u : Text} {greed : Greed} (hr : r.flags = usual all)
    (hf : Repeats all c t f u) (hgreed : readGreed (usual all) u = (greed, rest))
    (h : r.repeatLast (f greed) = .ok r') : readSign r c t = .ok (r', rest) := by
  cases hf with
  | opt | star | plus =>
    rw [← hr] at hgreed
    simp only [Pattern.readSign, hgreed, h, bind, Except.bind]
  | counted hcount =>
    obtain ⟨_, hid⟩ := Reader.exists_repeatLast h id
    simp only [Pattern.readSign, hid, hr, hcount, skip_usual, hgreed, h, bind, Except.bind]

theorem Sign.readSign (hr : r.flags = usual all) (h : Sign all r c t r' rest) :
    readSign r c t = .ok (r', rest) := by
  cases h with
  | opening h => exact readGroupStart_of_head?_ne hr h
  | closing h => exact congrArg (· >>= _) h
  | bar => rfl
  | bracket h => simp only [Pattern.readSign, hr, h, bind, Except.bind]
  | @escape _ _ v h =>
    simp only [Pattern.readSign, hr, h, bind, Except.bind]
    cases v <;> rfl
  | repeating hf hgreed h => exact hf.readSign hr hgreed h
  | single hc =>
    unfold Pattern.readSign Pattern.single
    rw [hr]
    split
    all_goals first
      | rfl
      | exact absurd (by decide) hc
      | simp_all

theorem of_readSign (hr : r.flags = usual all) (hgroup : c = '(' → t.head? ≠ some '?')
    (h : readSign r c t = .ok (r', rest)) : Sign all r c t r' rest := by
  have repeating {f : Greed → Pattern → Pattern} {r : Reader} {u : Text} (hr : r.flags = usual all)
      (h : (r.repeatLast (f (readGreed r.flags u).1) >>= fun x => .ok (x, (readGreed r.flags u).2)) =
        .ok (r', rest)) :
      ∃ greed, readGreed (usual all) u = (greed, rest) ∧ r.repeatLast (f greed) = .ok r' := by
    obtain ⟨_, hrepeat, h⟩ := Fault.bind_eq_ok h
    obtain ⟨rfl, rfl⟩ := Prod.mk.inj (Except.ok.inj h)
    exact ⟨_, by rw [hr], hrepeat⟩
  unfold readSign at h
  split at h
  · rw [readGroupStart_of_head?_ne hr (hgroup rfl)] at h
    obtain ⟨rfl, rfl⟩ := Prod.mk.inj (Except.ok.inj h)
    exact .opening (hgroup rfl)
  · obtain ⟨_, hclose, h⟩ := Fault.bind_eq_ok h
    obtain ⟨rfl, rfl⟩ := Prod.mk.inj (Except.ok.inj h)
    exact .closing hclose
  · obtain ⟨rfl, rfl⟩ := Prod.mk.inj (Except.ok.inj h)
    exact .bar
  · obtain ⟨⟨a, u⟩, hclass, h⟩ := Fault.bind_eq_ok h
    obtain ⟨rfl, rfl⟩ := Prod.mk.inj (Except.ok.inj h)
    exact .bracket (hr ▸ hclass)
  · obtain ⟨greed, hgreed, hrepeat⟩ := repeating hr h
    exact .repeating .opt hgreed hrepeat
  · obtain ⟨greed, hgreed, hrepeat⟩ := repeating hr h
    exact .repeating .star hgreed hrepeat
  · obtain ⟨greed, hgreed, hrepeat⟩ := repeating hr h
    exact .repeating .plus hgreed hrepeat
  · obtain ⟨-, -, hcounted⟩ := Fault.bind_eq_ok h
    obtain ⟨⟨count, u⟩, hcount, hrepeated⟩ := Fault.bind_eq_ok hcounted
    rw [hr] at hcount
    have hskip : r.flags.skip u = u := by rw [hr, skip_usual]
    simp only [hskip] at hrepeated
    obtain ⟨greed, hgreed, hrepeat⟩ := repeating (f := fun greed p => repeated greed p count) hr hrepeated
    exact .repeating (.counted hcount) hgreed hrepeat
  · rw [hr] at h
    obtain ⟨rfl, rfl⟩ := Prod.mk.inj (Except.ok.inj h)
    exact .single (by decide)
  · rw [hr] at h
    obtain ⟨rfl, rfl⟩ := Prod.mk.inj (Except.ok.inj h)
    exact .single (by decide)
  · rw [hr] at h
    obtain ⟨rfl, rfl⟩ := Prod.mk.inj (Except.ok.inj h)
    exact .single (by decide)
  · obtain ⟨⟨v, u⟩, hescape, h⟩ := Fault.bind_eq_ok h
    rw [hr] at h hescape
    cases v with
    | char | set | anchor =>
      obtain ⟨rfl, rfl⟩ := Prod.mk.inj (Except.ok.inj h)
      exact .escape hescape
  · rw [hr] at h
    obtain ⟨rfl, rfl⟩ := Prod.mk.inj (Except.ok.inj h)
    have hc : c ∉ ['(', ')', '|', '[', '\\', '?', '*', '+', '{', '.', '^', '$'] := by simp_all
    rw [classOf_usual, ← single_of_not_mem all (by simp_all)]
    exact .single (by simp_all)

/-- Under the usual settings, these are the signs that are read, if no group begins with a question mark. -/
theorem readSign_iff (hr : r.flags = usual all) (hgroup : c = '(' → t.head? ≠ some '?') :
    readSign r c t = .ok (r', rest) ↔ Sign all r c t r' rest :=
  ⟨of_readSign hr hgroup, Sign.readSign hr⟩

/-! ## What is left -/

theorem readGreed_suffix {greed : Greed} (h : readGreed (usual all) t = (greed, rest)) : rest <:+ t := by
  by_cases ht : t.head? = some '?'
  · obtain ⟨t, rfl⟩ := List.head?_eq_some_iff.1 ht
    obtain ⟨-, rfl⟩ := Prod.mk.inj h
    exact List.suffix_cons _ _
  · rw [readGreed_of_head?_ne ht] at h
    obtain ⟨-, rfl⟩ := Prod.mk.inj h
    exact List.suffix_refl _

theorem Repeats.suffix {f : Greed → Pattern → Pattern} (h : Repeats all c t f rest) : rest <:+ t := by
  cases h with
  | opt | star | plus => exact List.suffix_refl _
  | counted hcount => exact (readCount_append all [] hcount).2

theorem Sign.suffix (h : Sign all r c t r' rest) : rest <:+ t := by
  cases h with
  | opening | closing | bar | single => exact List.suffix_refl _
  | bracket h => exact (readClass_append all [] h).2
  | escape h =>
    cases t with
    | nil => cases h
    | cons e t => exact (readEscape_suffix h).trans (List.suffix_cons e t)
  | repeating hf hgreed => exact (readGreed_suffix hgreed).trans hf.suffix

end Interpolation.Pattern
