import Interpolation.Proofs.Evaluation.Spec
import Interpolation.Proofs.Operator.Grammar

/-!
# Which operator gets a token

* `Operator.reader?` is the first operator that recognises a token; `Operator.spec_operators`: it
  answers for all operators;
* `Operator.run_onValue` is what an operator on values does when it has been given one;
* `Text.Misread` texts are taken for the end of another operator's token;
* `Operator.reader?_text`: behind `:-`, `:=` or `:?`, every other text is left to the operator of
  this sign, and `Operator.evaluate_textOperator` is what it does then;
* `Operator.exists_evaluate_of_misread`: another operator gets a token with a misread text and
  takes a part of the text into the name.
-/

namespace Interpolation

/-- Whether the operators in front of the one with a sign take a text for the end of one of their
own tokens. -/
def Text.Misread (c : Char) (d : Text) : Prop :=
  d.EndsInSlice ∨ c = '?' ∧ d.EndsInTransliteration

namespace Operator

variable {x d token : Text} {c : Char} {op : Operator} {host : Host}

/-- The first operator that recognises a token. -/
def reader? (token : Text) : Option Operator :=
  all.find? fun op => (recognize? op.grammar token).isSome

/-- The operator of a sign. -/
def textOperator : Char → Operator
  | '-' => .defaultValue
  | '=' => .setDefault
  | _ => .require

/-- What the operator of a sign does if the property is unset. -/
def fallback (host : Host) (x d : Text) : Char → Eval (Option Value)
  | '-' => pure (some (.text d))
  | '=' => do
    host.assign x d
    pure (some (.text d))
  | _ => Eval.fail (.failure (if d.isEmpty then missing x else d))

theorem length_le_of_slice {v t : Text} {start stop : Nat} (h : slice x v start stop = .ok t) :
    t.length ≤ v.length := by
  rw [slice] at h
  split at h
  · cases h
  · obtain rfl := Except.ok.inj h
    rw [List.length_take, List.length_drop]
    omega

theorem evaluate_of_recognize?_eq_none (h : recognize? op.grammar token = none) :
    op.evaluate host token = pure none := by
  rw [evaluate, h]

/-- The first operator that recognises a token answers for all of them, unless it gives none. -/
theorem spec_operators {unended : Prop} {g : Guard} {k : Stock}
    {post : Except Error (Option Value) → Stock → Prop} (hr : reader? token = some op)
    (h : Eval.Spec unended g k (op.evaluate host token) post)
    (hnone : ∀ k', ¬post (.ok none) k') :
    Eval.Spec unended g k (Strategy.firstAnswer (all.map .operator) host token) post := by
  obtain ⟨-, before, behind, hall, hbefore⟩ := List.find?_eq_some_iff_append.1 hr
  rw [hall, List.map_append, List.map_cons]
  have head : Eval.Spec unended g k
      (Strategy.firstAnswer (.operator op :: behind.map .operator) host token) post :=
    Strategy.spec_firstAnswer_head (by rwa [Strategy.evaluate]) hnone
  clear hall hr
  induction before with
  | nil => exact head
  | cons o os ih =>
    have ho : recognize? o.grammar token = none := by
      simpa using hbefore o List.mem_cons_self
    rw [List.map_cons, List.cons_append, Strategy.firstAnswer_of_declines
      (by rw [Strategy.evaluate]; exact evaluate_of_recognize?_eq_none ho)]
    exact ih fun a ha => hbefore a (List.mem_cons_of_mem _ ha)

/-- What an operator on values does when it has been given one. -/
theorem run_onValue {v : Text} {st st' : State} {f : Text → Except Error Text}
    (hv : Operand.lookup host.toProperties x st = some (.ok (.set v), st')) :
    onValue host x f st = some ((f v).map (some ∘ .text), st') := by
  rw [onValue, Eval.run_bind, hv]
  show (Eval.ofExcept (f v) >>= _) st' = _
  rw [Eval.run_bind, Eval.run_ofExcept]
  cases f v <;> rfl

/-! ## Tokens with a text -/

theorem grammar_textOperator (hc : c ∈ ['-', '=', '?']) :
    (textOperator c).grammar = textGrammar c := by
  simp only [List.mem_cons, List.not_mem_nil, or_false] at hc
  rcases hc with rfl | rfl | rfl <;> rfl

theorem isSome_recognize?_textGrammar_iff {c' : Char} (hx : ':' ∉ x) (hc : c ∈ ['-', '=', '?'])
    (hd : '\n' ∉ d) :
    (recognize? (textGrammar c') (x ++ ':' :: c :: d)).isSome ↔ c' = c := by
  constructor
  · intro h
    obtain ⟨g, hg⟩ := Option.isSome_iff_exists.1 h
    exact (recognize?_textGrammar_eq_some hx hc hg).1
  · rintro rfl
    exact isSome_recognize?_textGrammar (Grammar.takes_name_of_not_mem hx) hd

theorem ne_newline_of_mem (hc : c ∈ ['-', '=', '?']) : c ≠ '\n' := by
  rintro rfl
  exact absurd hc (by decide)

theorem isSome_recognize?_slice_iff (hx : ':' ∉ x) (hx' : '\n' ∉ x) (hc : c ∈ ['-', '=', '?'])
    (hd : '\n' ∉ d) :
    (recognize? substringGrammar (x ++ ':' :: c :: d)).isSome ↔ d.EndsInSlice := by
  constructor
  · intro h
    obtain ⟨g, hg⟩ := Option.isSome_iff_exists.1 h
    obtain ⟨-, -, -, -, hends⟩ := exists_name_of_recognize?_slice hx hc hg
    exact hends
  · exact isSome_recognize?_slice hx' (ne_newline_of_mem hc) hd

theorem isSome_recognize?_transliteration_iff (hx : ':' ∉ x) (hx' : '\n' ∉ x)
    (hc : c ∈ ['-', '=', '?']) (hd : '\n' ∉ d) :
    (recognize? transliterateGrammar (x ++ ':' :: c :: d)).isSome ↔ d.EndsInTransliteration := by
  constructor
  · intro h
    obtain ⟨g, hg⟩ := Option.isSome_iff_exists.1 h
    obtain ⟨-, -, -, -, hends⟩ := exists_name_of_recognize?_transliteration hx hc hg
    exact hends
  · exact isSome_recognize?_transliteration hx' (ne_newline_of_mem hc) hd

section Readers

variable (hx : ':' ∉ x) (hx' : '\n' ∉ x) (hc : c ∈ ['-', '=', '?']) (hd : '\n' ∉ d)

include hx hx' hc hd

/-- A text that is not misread is left to the operator of the sign in front of it. -/
theorem reader?_text (hm : ¬Text.Misread c d) :
    reader? (x ++ ':' :: c :: d) = some (textOperator c) := by
  have slice : ¬(recognize? substringGrammar (x ++ ':' :: c :: d)).isSome := fun h =>
    hm (.inl ((isSome_recognize?_slice_iff hx hx' hc hd).1 h))
  have text : ∀ c', (recognize? (textGrammar c') (x ++ ':' :: c :: d)).isSome ↔ c' = c :=
    fun _ => isSome_recognize?_textGrammar_iff hx hc hd
  simp only [List.mem_cons, List.not_mem_nil, or_false] at hc
  rcases hc with rfl | rfl | rfl
  · simp [reader?, all, grammar, slice, text, textOperator]
  · simp [reader?, all, grammar, slice, text, textOperator]
  · have transliteration :
        ¬(recognize? transliterateGrammar (x ++ ':' :: '?' :: d)).isSome := fun h =>
      hm (.inr ⟨rfl, (isSome_recognize?_transliteration_iff hx hx' (by simp) hd).1 h⟩)
    simp [reader?, all, grammar, slice, transliteration, text, textOperator]

omit hx' in
theorem evaluate_textOperator (host : Host) :
    (textOperator c).evaluate host (x ++ ':' :: c :: d) =
      orElse host x (fallback host x d c) := by
  obtain ⟨g, hg⟩ := Option.isSome_iff_exists.1
    ((isSome_recognize?_textGrammar_iff hx hc hd).2 (rfl : c = c))
  obtain ⟨-, hname, htext⟩ := recognize?_textGrammar_eq_some hx hc hg
  rw [evaluate, grammar_textOperator hc, hg]
  simp only [List.mem_cons, List.not_mem_nil, or_false] at hc
  rcases hc with rfl | rfl | rfl <;> simp only [textOperator, apply, hname, htext] <;> rfl

/-- A misread text gives another operator a name that is longer than the property and shorter than
the token. On values, slicing gives no longer ones. -/
theorem exists_evaluate_of_misread (hm : Text.Misread c d) :
    ∃ op a r f, reader? (x ++ ':' :: c :: d) = some op ∧ d = a ++ ':' :: r ∧
      (c ≠ '?' → ∀ v t, f v = .ok t → t.length ≤ v.length) ∧
      ∀ host, op.evaluate host (x ++ ':' :: c :: d) = onValue host (x ++ ':' :: c :: a) f := by
  by_cases hslice : d.EndsInSlice
  · have h := (isSome_recognize?_slice_iff hx hx' hc hd).2 hslice
    obtain ⟨g, hg⟩ := Option.isSome_iff_exists.1 h
    obtain ⟨a, r, hname, ha, -⟩ := exists_name_of_recognize?_slice hx hc hg
    refine ⟨.substring, a, r, fun v => slice (x ++ ':' :: c :: a) v (readIndex (g.text 2))
      (((g.get? 3).map readIndex).getD v.length), by simp [reader?, all, grammar, h], ha,
      fun _ v t ht => length_le_of_slice ht, fun host => ?_⟩
    simp only [evaluate, grammar, hg, apply, hname]
  · have slice : ¬(recognize? substringGrammar (x ++ ':' :: c :: d)).isSome := fun h =>
      hslice ((isSome_recognize?_slice_iff hx hx' hc hd).1 h)
    obtain ⟨rfl, hends⟩ := hm.resolve_left hslice
    have h := (isSome_recognize?_transliteration_iff hx hx' hc hd).2 hends
    have text : ∀ c', (recognize? (textGrammar c') (x ++ ':' :: '?' :: d)).isSome ↔ c' = '?' :=
      fun _ => isSome_recognize?_textGrammar_iff hx hc hd
    obtain ⟨g, hg⟩ := Option.isSome_iff_exists.1 h
    obtain ⟨a, r, hname, ha, -⟩ := exists_name_of_recognize?_transliteration hx hc hg
    refine ⟨.transliterate, a, r, fun v => .ok (Transliteration.apply
      (Transliteration.expandSet (g.text 2)) (Transliteration.expandSet (g.text 3)) v),
      by simp [reader?, all, grammar, h, slice, text], ha, fun hne => absurd rfl hne,
      fun host => ?_⟩
    simp only [evaluate, grammar, hg, apply, hname]

end Readers

end Operator

end Interpolation
