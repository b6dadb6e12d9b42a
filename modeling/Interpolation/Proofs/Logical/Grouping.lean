import Interpolation.Proofs.Logical.Folding
import Interpolation.Proofs.Reference.Template
import Interpolation.Proofs.Reference.Unclosed
import Interpolation.Proofs.Session.SelfReference

/-!
# Logical expressions grouped by nesting

There are no parentheses in logical expressions, but an operand may be a reference to another
expression. A Boolean expression over stored properties is written with one reference for each of its
operators, and is evaluated from the inside to the outside.

* `Logical.says_negation` and `Logical.says_join`: expressions of a single operator;
* `Tree` is a Boolean expression, `Tree.text` the way it is written and `Tree.value` its value;
* `Resolver.spec_resolve_says`: a token that says a truth value comes to the strategy for logical
  expressions;
* `Resolver.spec_spell_tree`: a reader of names replaces a tree by the literal of its value, by
  induction on the tree;
* `Store.expand_tree` says so for expansion.
-/

namespace Interpolation

namespace Logical

variable {signs : List Char}

/-! ## Expressions of a single operator -/

/-- The literal of a truth value. -/
def word (b : Bool) : Text := (Value.flag b).render

theorem not_mem_word {c : Char} (h : c ∉ "truefalse".toList) (b : Bool) : c ∉ word b := by
  have hpart : ∀ e ∈ word b, e ∈ "truefalse".toList := by
    cases b <;> exact forall_mem_of_all (by decide)
  exact fun hc => h (hpart c hc)

/-- What an operator makes of two truth values. -/
def Joint.operation (j : Joint signs) : Bool → Bool → Bool :=
  if j.sign = '|' then or else if j.sign = '^' then xor else and

/-- A literal as an operand. -/
def Operand.ofBool (b : Bool) : Operand := ⟨false, b⟩

theorem Operand.text_ofBool (b : Bool) : (ofBool b).text = word b := by cases b <;> rfl

theorem Operand.value_ofBool (b : Bool) : (ofBool b).value = b := by cases b <;> rfl

/-- Two parts joined by an operator. -/
def Row.pair {α : Type} (a : α) (j : Joint signs) (b : α) : Row signs α := .cons a j (.single b)

theorem Row.text_pair {α : Type} {partText : α → Text} {a b : α} {j : Joint signs} :
    (pair a j b).text partText = partText a ++ (j.text ++ partText b) := by
  rw [pair, text_cons, text_single]

/-- Only white space and its sign stand in an operator. -/
theorem Joint.not_mem_text (j : Joint signs) {c : Char} (hsign : c ∉ signs)
    (hblank : Unicode.isBlank c = false) : c ∉ j.text := by
  have hsolid (t : Text) (ht : ∀ e ∈ t, Unicode.isBlank e) : c ∉ t := fun hc => by
    rw [ht c hc] at hblank
    cases hblank
  intro hc
  rcases List.mem_append.1 hc with hc | hc
  · exact hsolid _ j.isBlank_before hc
  · rcases List.mem_cons.1 hc with rfl | hc
    · exact hsign j.mem_signs
    · exact hsolid _ j.isBlank_behind hc

theorem Says.negated_word (b : Bool) : Says ('!' :: word b) !b := by
  cases b
  · exact .negation false
  · exact .negation true

/-- Two literals joined by an operator say what the operator makes of them. -/
theorem Says.join (a b : Bool) (j : Joint allSigns) :
    Says (word a ++ (j.text ++ word b)) (j.operation a b) := by
  suffices ∃ e : Expression, e.operands = [.ofBool a, .ofBool b] ∧
      e.text = (Operand.ofBool a).text ++ (j.text ++ (Operand.ofBool b).text) ∧
      e.value = j.operation (Operand.ofBool a).value (Operand.ofBool b).value by
    obtain ⟨e, hoperands, htext, hvalue⟩ := this
    simp only [Operand.text_ofBool, Operand.value_ofBool] at htext hvalue
    rw [← htext, ← hvalue]
    exact .expression e (by simp [hoperands])
  -- the sign says in which layer the two operands are
  rcases j.sign_cases with h | h | h
  · have hsign : j.sign ≠ '|' ∧ j.sign ≠ '^' := by
      simp only [List.mem_cons, List.not_mem_nil, or_false] at h
      rcases h with h | h <;> rw [h] <;> decide
    refine ⟨.single (.single (.pair (.ofBool a) (j.restrict h) (.ofBool b))), rfl, ?_, ?_⟩
    · exact Row.text_single.trans (Row.text_single.trans Row.text_pair)
    · rw [Joint.operation, if_neg hsign.1, if_neg hsign.2]
      rfl
  · have hsign : j.sign = '^' := by simpa using h
    refine ⟨.single (.pair (.single (.ofBool a)) (j.restrict h) (.single (.ofBool b))), rfl, ?_, ?_⟩
    · refine Row.text_single.trans (Row.text_pair.trans ?_)
      exact congrArg₂ (· ++ ·) Row.text_single (congrArg (j.text ++ ·) Row.text_single)
    · rw [Joint.operation, if_neg (by rw [hsign]; decide), if_pos hsign]
      rfl
  · have hsign : j.sign = '|' := by simpa using h
    refine ⟨.pair (.single (.single (.ofBool a))) (j.restrict h) (.single (.single (.ofBool b))),
      rfl, ?_, ?_⟩
    · refine Row.text_pair.trans ?_
      exact congrArg₂ (· ++ ·) (Row.text_single.trans Row.text_single)
        (congrArg (j.text ++ ·) (Row.text_single.trans Row.text_single))
    · rw [Joint.operation, if_pos hsign]
      rfl

end Logical

open Logical Reference

/-! ## Trees -/

/-- A Boolean expression over stored properties. -/
inductive Tree (ps : TextMap Text) where
  | literal (b : Bool)
  /-- A stored literal. -/
  | property (name : Text) (b : Bool) (isLiteral : IsLiteral name)
    (stored : ps.get? name = some (word b))
  | negation (x : Tree ps)
  | join (x : Tree ps) (j : Joint allSigns) (y : Tree ps)

namespace Tree

variable {ps : TextMap Text}

/-- How an expression is written: every operator stands in a reference of its own. -/
def text : Tree ps → Text
  | literal b => word b
  | property name _ _ _ => Text.reference name
  | negation x => Text.reference ('!' :: x.text)
  | join x j y => Text.reference (x.text ++ (j.text ++ y.text))

def value : Tree ps → Bool
  | literal b => b
  | property _ b _ _ => b
  | negation x => !x.value
  | join x j y => j.operation x.value y.value

/-- The depth that an expression is evaluated down to. -/
def height : Tree ps → Nat
  | literal _ => 1
  | property _ _ _ _ => 2
  | negation x => x.height + 1
  | join x _ y => max x.height y.height + 1

/-- How an expression is read: its references are one inside another. -/
def body : Tree ps → Body
  | literal b => .ofText (word b)
  | property name _ _ _ => .reference (.ofText name) .nil
  | negation x => .reference (.append (.ofText ['!']) x.body) .nil
  | join x j y => .reference (x.body.append (.append (.ofText j.text) y.body)) .nil

theorem source_body (x : Tree ps) : x.body.source = x.text := by
  induction x with
  | literal b => exact Body.source_ofText _
  | property name => simp [body, text, Body.source, Text.reference]
  | negation x ih => simp [body, text, Body.source, Text.reference, ih]
  | join x j y ihx ihy => simp [body, text, Body.source, Text.reference, ihx, ihy]

theorem height_pos (x : Tree ps) : 0 < x.height := by
  cases x <;> simp [height]

theorem isFirm_not : (Body.ofText ['!']).IsFirm := .ofText (by decide) (by decide)

theorem isFirm_joint (j : Joint allSigns) : (Body.ofText j.text).IsFirm :=
  .ofText (j.not_mem_text (by decide) (by decide)) (j.not_mem_text (by decide) (by decide))

theorem isFirm_body (x : Tree ps) : x.body.IsFirm := by
  induction x with
  | literal b => exact .ofText (not_mem_word (by decide) b) (not_mem_word (by decide) b)
  | property name _ h => exact .reference (.ofText h.dollar h.closing)
  | negation x ih => exact .reference (.append isFirm_not ih)
  | join x j y ihx ihy => exact .reference (ihx.append ((isFirm_joint j).append ihy))

/-- What stands in the reference of an operator can be read as well. -/
theorem isFirm_negation (x : Tree ps) : (Body.append (.ofText ['!']) x.body).IsFirm :=
  .append isFirm_not x.isFirm_body

theorem isFirm_join (x : Tree ps) (j : Joint allSigns) (y : Tree ps) :
    (x.body.append (.append (.ofText j.text) y.body)).IsFirm :=
  x.isFirm_body.append ((isFirm_joint j).append y.isFirm_body)

end Tree

/-! ## Evaluation -/

namespace Resolver

variable {r : Resolver} {unended : Prop} {g : Guard} {k : Stock} {token : Text} {v : Bool}
variable {first depth : Nat}

/-- A token without the signs of operators on properties that says a truth value is resolved to it. -/
theorem spec_resolve_expression (hr : r.chain = .standard first) (h : Says token v)
    (hsigns : ∀ c ∈ Operator.signs, c ∉ token) (hg : Fresh first g token) :
    Eval.Spec unended g k (r.resolve (r.host depth) token)
      (fun answer k' => answer = .ok (some (.flag v)) ∧ k' = k) := by
  refine spec_resolve_of_no_signs hr (host_reference? r depth) hg hsigns ?_
  refine Strategy.spec_firstAnswer_head ?_ fun _ h => by cases h.1
  rw [Strategy.evaluate, Logical.evaluate?_eq_some_iff.2 h]
  exact .pure ⟨rfl, rfl⟩

/-- The reference to a name that is spelt as an expression spells the literal of its value, if no
property has this name. -/
theorem spec_spell_reference {b : Body} (hr : r.chain = .standard first)
    (hname : Eval.Spec unended .empty k (b.spell (r.finder none depth))
      fun name k' => name = .ok token ∧ k' = k)
    (h : Says token v) (hsigns : ∀ c ∈ Operator.signs, c ∉ token)
    (hunset : k.properties.get? token = none) :
    Eval.Spec unended .empty k ((Body.reference b .nil).spell (r.finder none (depth + 1)))
      (fun t k' => t = .ok (word v) ∧ k' = k) := by
  have value : Eval.Spec unended .empty k ((r.finder none (depth + 1)).value b)
      (fun w k' => w = .ok (.flag v) ∧ k' = k) := by
    refine hname.bind ?_ fun _ _ h => by cases h.1
    rintro _ _ ⟨⟨⟩, rfl⟩
    refine (spec_propertyValue_of_unset hunset (spec_resolve_expression hr h hsigns ⟨rfl, rfl⟩)).bind ?_
      fun _ _ h => by cases h.1
    rintro _ _ ⟨⟨⟩, rfl⟩
    exact .pure ⟨rfl, rfl⟩
  refine value.bind ?_ fun _ _ h => by cases h.1
  rintro _ _ ⟨⟨⟩, rfl⟩
  exact .pure ⟨by simp [word], rfl⟩

theorem spec_spell_append {b b' : Body} {t t' : Text} {x : Finder}
    (h : Eval.Spec unended g k (b.spell x) fun name k' => name = .ok t ∧ k' = k)
    (h' : Eval.Spec unended g k (b'.spell x) fun name k' => name = .ok t' ∧ k' = k) :
    Eval.Spec unended g k ((b.append b').spell x) fun name k' => name = .ok (t ++ t') ∧ k' = k := by
  rw [Body.spell_append]
  refine h.bind ?_ fun _ _ h => by cases h.1
  rintro _ _ ⟨⟨⟩, rfl⟩
  refine h'.bind ?_ fun _ _ h => by cases h.1
  rintro _ _ ⟨⟨⟩, rfl⟩
  exact .pure ⟨rfl, rfl⟩

theorem spec_spell_text (hdepth : 0 < depth) (t : Text) :
    Eval.Spec unended g k ((Body.ofText t).spell (r.finder none depth))
      fun name k' => name = .ok t ∧ k' = k := by
  obtain ⟨depth, rfl⟩ := Nat.exists_eq_add_one_of_ne_zero (Nat.ne_of_gt hdepth)
  rw [Body.spell_ofText rfl]
  exact .pure ⟨rfl, rfl⟩

/-- A reference to a stored literal spells the literal. -/
theorem spec_spell_property {name : Text} (hstored : k.properties.get? name = some (word v))
    (hdepth : 2 ≤ depth) :
    Eval.Spec unended .empty k
      ((Body.reference (.ofText name) .nil).spell (r.finder none depth))
      (fun t k' => t = .ok (word v) ∧ k' = k) := by
  obtain ⟨depth, rfl⟩ := Nat.exists_eq_add_of_le' hdepth
  have hdollar : '$' ∉ word v := not_mem_word (by decide) v
  have property : Eval.Spec unended .empty k
      (r.propertyValue (r.host (depth + 1)) name)
      (fun w k' => w = .ok (some (.text (word v))) ∧ k' = k) := by
    refine (spec_propertyValue_of_unopened hstored rfl (Text.unopened_of_not_mem hdollar)).mono ?_
    intro w k' h
    rwa [Text.undouble_of_not_mem hdollar] at h
  have value : Eval.Spec unended .empty k ((r.finder none (depth + 2)).value (.ofText name))
      (fun w k' => w = .ok (.text (word v)) ∧ k' = k) := by
    rw [value_ofText]
    refine property.bind ?_ fun _ _ h => by cases h.1
    rintro _ _ ⟨⟨⟩, rfl⟩
    exact .pure ⟨rfl, rfl⟩
  refine value.bind ?_ fun _ _ h => by cases h.1
  rintro _ _ ⟨⟨⟩, rfl⟩
  exact .pure ⟨by simp [Value.render], rfl⟩

/-- The signs of expressions. -/
def expressionSigns : List Char := '!' :: allSigns

/-- The signs of operators on properties have no part in expressions. -/
theorem not_mem_of_mem_signs : ∀ c ∈ Operator.signs, c ∉ "truefalse".toList ∧
    c ∉ expressionSigns ∧ Unicode.isBlank c = false :=
  forall_mem_of_all (by decide)

/-- Where no name of a property has the sign of an expression, a tree spells the literal of its
value. -/
theorem spec_spell_tree (hr : r.chain = .standard first)
    (hnames : ∀ name, k.properties.contains name → ∀ c ∈ expressionSigns, c ∉ name)
    (x : Tree k.properties) : ∀ depth, x.height ≤ depth →
      Eval.Spec unended .empty k (x.body.spell (r.finder none depth))
        (fun t k' => t = .ok (word x.value) ∧ k' = k) := by
  have unset {name : Text} {c : Char} (hc : c ∈ expressionSigns) (hm : c ∈ name) :
      k.properties.get? name = none := by
    refine Option.not_isSome_iff_eq_none.1 fun hsome => hnames name hsome c hc hm
  induction x with
  | literal b => exact fun depth hdepth => spec_spell_text (Nat.lt_of_succ_le hdepth) _
  | property name b _ stored => exact fun depth hdepth => spec_spell_property stored hdepth
  | negation x ih =>
    intro depth hdepth
    obtain ⟨depth, rfl⟩ := Nat.exists_eq_add_one_of_ne_zero (Nat.ne_of_gt (Nat.zero_lt_of_lt hdepth))
    have hx : x.height ≤ depth := Nat.le_of_succ_le_succ hdepth
    have hname := spec_spell_append (spec_spell_text (Nat.lt_of_lt_of_le x.height_pos hx) ['!'])
      (ih depth hx)
    refine spec_spell_reference hr hname (.negated_word x.value) (fun c hc hm => ?_)
      (unset List.mem_cons_self List.mem_cons_self)
    obtain ⟨hword, hsign, -⟩ := not_mem_of_mem_signs c hc
    rcases List.mem_cons.1 hm with rfl | hm
    · exact hsign List.mem_cons_self
    · exact not_mem_word hword _ hm
  | join x j y ihx ihy =>
    intro depth hdepth
    obtain ⟨depth, rfl⟩ := Nat.exists_eq_add_one_of_ne_zero (Nat.ne_of_gt (Nat.zero_lt_of_lt hdepth))
    have hxy : max x.height y.height ≤ depth := Nat.le_of_succ_le_succ hdepth
    have hx : x.height ≤ depth := Nat.le_trans (Nat.le_max_left ..) hxy
    have hy : y.height ≤ depth := Nat.le_trans (Nat.le_max_right ..) hxy
    have hname := spec_spell_append (ihx depth hx) (spec_spell_append
      (spec_spell_text (Nat.lt_of_lt_of_le x.height_pos hx) j.text) (ihy depth hy))
    refine spec_spell_reference hr hname (.join x.value y.value j) (fun c hc hm => ?_)
      (unset (List.mem_cons_of_mem _ j.mem_signs) (by simp [Joint.text]))
    obtain ⟨hword, hsign, hblank⟩ := not_mem_of_mem_signs c hc
    rcases List.mem_append.1 hm with hm | hm
    · exact not_mem_word hword _ hm
    · rcases List.mem_append.1 hm with hm | hm
      · exact j.not_mem_text (fun h => hsign (List.mem_cons_of_mem _ h)) hblank hm
      · exact not_mem_word hword _ hm

/-- A firm body that is spelt without an effect stands for what it spells. -/
theorem spec_expandAt_body {b : Body} {t : Text} (hfirm : b.IsFirm)
    (h : Eval.Spec unended g k ((Body.reference b .nil).spell (r.finder none depth))
      fun name k' => name = .ok t ∧ k' = k) :
    Eval.Spec unended g k (r.expandAt depth b.text) fun out k' => out = .ok t ∧ k' = k := by
  rw [expandAt, host, (finds_hostWith depth).expand_closed (hfirm.reads [])]
  simpa only [Body.spell, pure_bind, List.append_nil] using h

/-- Where no name of a property has the sign of an expression, a tree expands to the literal of its
value. -/
theorem spec_expandAt_tree (hr : r.chain = .standard first)
    (hnames : ∀ name, k.properties.contains name → ∀ c ∈ expressionSigns, c ∉ name)
    (x : Tree k.properties) (hdepth : x.height ≤ depth) :
    Eval.Spec unended .empty k (r.expandAt depth x.text)
      (fun t k' => t = .ok (word x.value) ∧ k' = k) := by
  have hspell : Eval.Spec unended .empty k (x.body.spell (r.finder none depth))
      (fun t k' => t = .ok (word x.value) ∧ k' = k) := spec_spell_tree hr hnames x depth hdepth
  rw [← x.source_body]
  cases x with
  | literal b =>
    obtain ⟨depth, rfl⟩ := Nat.exists_eq_add_one_of_ne_zero (Nat.ne_of_gt hdepth)
    have hdollar : '$' ∉ word b := not_mem_word (by decide) b
    rw [Tree.body, Body.source_ofText, expandAt, host, expand_eq_pure r none depth hdollar]
    exact .pure ⟨rfl, rfl⟩
  | property name b h => exact spec_expandAt_body (.ofText h.dollar h.closing) hspell
  | negation x => exact spec_expandAt_body x.isFirm_negation hspell
  | join x j y => exact spec_expandAt_body (x.isFirm_join j y) hspell

end Resolver

/-- A Boolean expression with a reference for each of its operators expands to the literal of its
value, and nothing changes. The store may hold anything else, as long as no name of a property has the
sign of an expression. -/
theorem Store.expand_tree (s : Store) {first : Nat} (hs : s.resolver.chain = .standard first)
    (hnames : ∀ name, s.properties.contains name → ∀ c ∈ ['!', '&', '+', '^', '|'], c ∉ name)
    (x : Tree s.properties) (depth : Nat) (hdepth : x.height ≤ depth) :
    s.session (s.resolver.expandAt depth x.text) = some (.ok (Value.flag x.value).render, s) := by
  exact session_eq_some (Resolver.spec_expandAt_tree (k := s.stock) hs hnames x hdepth)

/-- A negation inside of a reference, white space around an operator, and the same property twice. -/
theorem Store.expand_tree_nested :
    let s := standard (.ofList [(['a'], "true".toList), (['b'], "false".toList)])
    (∀ name, s.properties.contains name → ∀ c ∈ ['!', '&', '+', '^', '|'], c ∉ name) ∧
      s.session (s.resolver.expandAt 9 "${${!${${a} & ${b}}}^${a}}".toList) =
        some (.ok "false".toList, s) := by
  intro s
  have hnames : ∀ name, s.properties.contains name → ∀ c ∈ ['!', '&', '+', '^', '|'], c ∉ name := by
    intro name hname
    let key : s.properties.Key := ⟨name, hname⟩
    have hkey : name ∈ [['a'], ['b']] := key.mem_keys
    simp only [List.mem_cons, List.not_mem_nil, or_false] at hkey
    rcases hkey with rfl | rfl <;> exact forall_mem_of_all (by decide)
  let a : Tree s.properties := .property ['a'] true ⟨by decide, by decide, by decide⟩ rfl
  let b : Tree s.properties := .property ['b'] false ⟨by decide, by decide, by decide⟩ rfl
  let conj : Joint allSigns :=
    ⟨[' '], '&', [' '], by decide, forall_mem_of_all (by decide), forall_mem_of_all (by decide)⟩
  let excl : Joint allSigns := ⟨[], '^', [], by decide, by simp, by simp⟩
  let x : Tree s.properties := .join (.negation (.join a conj b)) excl a
  have htext : "${${!${${a} & ${b}}}^${a}}".toList = x.text := by decide
  rw [htext]
  exact ⟨hnames, expand_tree s rfl hnames x 9 (by decide)⟩

end Interpolation
