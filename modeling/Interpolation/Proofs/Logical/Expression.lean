import Interpolation.Logical
import Interpolation.Proofs.Operator.Grammar

/-!
# Logical expressions and their values

An expression joins operands by operators, in three layers: what `&` and `+` join is joined by `^`,
and what this joins is joined by `|`. The layers are the precedence.

* `Operand`, `Joint` and `Row` are operands, operators with the white space around them, and rows of
  parts joined by operators; `Row.value` carries the operations of a row out from the left;
* `Expression` is the syntax in its three layers, `Expression.text` and `Expression.value` are the
  text of an expression and what it means;
* `Says`: a text says a truth value, as a negated literal or an expression of two operands or more;
* `Line` reads a text as operands joined by operators of any kind, without layers;
  `Line.exists_expression` and `Expression.line` say that both readings are the same;
* `grammar_takes_iff`: the grammar takes the texts that say something.
-/

namespace Interpolation.Logical

open Pattern

/-! ## Syntax -/

/-- A literal, possibly negated. -/
structure Operand where
  negated : Bool
  literal : Bool
  deriving DecidableEq, Repr

namespace Operand

def text (o : Operand) : Text :=
  (if o.negated then ['!'] else []) ++
    if o.literal then ['t', 'r', 'u', 'e'] else ['f', 'a', 'l', 's', 'e']

def value (o : Operand) : Bool := o.negated ^^ o.literal

end Operand

/-- An operator with one of the given signs, and the white space around it. -/
structure Joint (signs : List Char) where
  before : Text
  sign : Char
  behind : Text
  mem_signs : sign ∈ signs
  isBlank_before : ∀ c ∈ before, Unicode.isBlank c
  isBlank_behind : ∀ c ∈ behind, Unicode.isBlank c

/-- Parts joined by operators with one of the given signs. -/
structure Row (signs : List Char) (α : Type) where
  first : α
  others : List (Joint signs × α)

variable {signs : List Char} {α : Type}

def Joint.text (j : Joint signs) : Text := j.before ++ j.sign :: j.behind

namespace Row

def parts (r : Row signs α) : List α := r.first :: r.others.map Prod.snd

/-- The text of a row, the texts of its parts being given. -/
def text (partText : α → Text) (r : Row signs α) : Text :=
  partText r.first ++ r.others.flatMap fun (j, a) => j.text ++ partText a

/-- The value of a row for an operation, the values of its parts being given. -/
def value (operation : Bool → Bool → Bool) (partValue : α → Bool) (r : Row signs α) : Bool :=
  r.others.foldl (fun acc (_, a) => operation acc (partValue a)) (partValue r.first)

/-- The row of one part. -/
def single (a : α) : Row signs α := ⟨a, []⟩

/-- A row with a part in front. -/
def cons (a : α) (j : Joint signs) (r : Row signs α) : Row signs α := ⟨a, (j, r.first) :: r.others⟩

/-- A row with another first part. -/
def withFirst (a : α) (r : Row signs α) : Row signs α := ⟨a, r.others⟩

end Row

/-- Operands joined by and. -/
abbrev Conjunction := Row ['&', '+'] Operand

/-- Conjunctions joined by exclusive or. -/
abbrev Exclusion := Row ['^'] Conjunction

/-- Exclusions joined by or. -/
abbrev Expression := Row ['|'] Exclusion

def Conjunction.text (r : Conjunction) : Text := Row.text Operand.text r

def Conjunction.value (r : Conjunction) : Bool := Row.value and Operand.value r

def Exclusion.text (r : Exclusion) : Text := Row.text Conjunction.text r

def Exclusion.value (r : Exclusion) : Bool := Row.value xor Conjunction.value r

namespace Expression

def text (e : Expression) : Text := Row.text Exclusion.text e

def value (e : Expression) : Bool := Row.value or Exclusion.value e

/-- All operands, in order. -/
def operands (e : Expression) : List Operand :=
  e.parts.flatMap fun x => x.parts.flatMap Row.parts

end Expression

/-- A text says a truth value: as a negated literal, or as an expression of two operands or
more. -/
inductive Says : Text → Bool → Prop where
  | negation (literal : Bool) : Says (Operand.text ⟨true, literal⟩) !literal
  | expression (e : Expression) (h : 2 ≤ e.operands.length) : Says e.text e.value

/-! ## Lines of operands -/

/-- The signs of all operators. -/
def allSigns : List Char := ['&', '+', '^', '|']

/-- Operands one after another, joined by operators of any kind. -/
inductive Line : List Operand → Text → Prop where
  | single (o : Operand) : Line [o] o.text
  | cons {os : List Operand} {t : Text} (o : Operand) (j : Joint allSigns) (h : Line os t) :
    Line (o :: os) (o.text ++ (j.text ++ t))

/-- An operator of one kind is an operator. -/
def Joint.weaken (j : Joint signs) (h : signs ⊆ allSigns) : Joint allSigns :=
  { j with mem_signs := h j.mem_signs }

theorem Joint.text_weaken (j : Joint signs) (h : signs ⊆ allSigns) : (j.weaken h).text = j.text := rfl

/-- An operator between two lines joins them. -/
theorem Line.append {os os' : List Operand} {t u : Text} (h : Line os t) (h' : Line os' u)
    (j : Joint allSigns) : Line (os ++ os') (t ++ (j.text ++ u)) := by
  induction h with
  | single o => exact .cons o j h'
  | cons o i _ ih =>
    rw [List.cons_append, List.append_assoc, List.append_assoc]
    exact .cons o i ih

/-- A row of lines is a line. -/
theorem Row.line {partText : α → Text} {operands : α → List Operand} (hs : signs ⊆ allSigns)
    (h : ∀ a, Line (operands a) (partText a)) (r : Row signs α) :
    Line (r.parts.flatMap operands) (r.text partText) := by
  obtain ⟨a, others⟩ := r
  induction others generalizing a with
  | nil => simpa [parts, text] using h a
  | cons p others ih =>
    have := (h a).append (ih p.2) (p.1.weaken hs)
    simpa [parts, text, Joint.text_weaken] using this

/-- The text of an expression is the line of its operands. -/
theorem Expression.line (e : Expression) : Line e.operands e.text := by
  have h : Line (e.parts.flatMap fun x => x.parts.flatMap fun c => c.parts.flatMap fun o => [o])
      e.text :=
    Row.line (by decide) (Row.line (by decide) (Row.line (by decide) Line.single)) e
  simp only [List.flatMap_singleton'] at h
  exact h

/-! ## Layers of a line -/

/-- An operator is one of a kind when its sign is. -/
def Joint.restrict (j : Joint allSigns) (h : j.sign ∈ signs) : Joint signs :=
  { j with mem_signs := h }

theorem Joint.sign_cases (j : Joint allSigns) :
    j.sign ∈ ['&', '+'] ∨ j.sign ∈ ['^'] ∨ j.sign ∈ ['|'] := by
  have := j.mem_signs
  simp only [allSigns, List.mem_cons, List.not_mem_nil, or_false] at this ⊢
  rwa [or_assoc]

namespace Row

variable {partText : α → Text} {f : α → List Operand} {a : α} {r : Row signs α}

theorem text_single : (single a : Row signs α).text partText = partText a :=
  List.append_nil _

theorem text_cons {j : Joint signs} :
    (cons a j r).text partText = partText a ++ (j.text ++ r.text partText) := by
  simp [cons, text]

theorem flatMap_parts_cons {j : Joint signs} :
    (cons a j r).parts.flatMap f = f a ++ r.parts.flatMap f := rfl

theorem text_withFirst {t : Text} (h : partText a = t ++ partText r.first) :
    (r.withFirst a).text partText = t ++ r.text partText := by
  simp [withFirst, text, h]

theorem flatMap_parts_withFirst (os : List Operand) (h : f a = os ++ f r.first) :
    (r.withFirst a).parts.flatMap f = os ++ r.parts.flatMap f := by
  simp [withFirst, parts, h]

end Row

namespace Expression

/-- The expression of one operand. -/
def ofOperand (o : Operand) : Expression := .single (.single (.single o))

theorem text_ofOperand (o : Operand) : (ofOperand o).text = o.text :=
  Row.text_single.trans (Row.text_single.trans Row.text_single)

/-- Puts an operand in front of an expression: the operator says in which layer it goes. -/
theorem exists_cons (o : Operand) (j : Joint allSigns) (e : Expression) :
    ∃ e' : Expression, e'.text = o.text ++ (j.text ++ e.text) ∧ e'.operands = o :: e.operands := by
  rcases j.sign_cases with h | h | h
  · refine ⟨e.withFirst (e.first.withFirst (.cons o (j.restrict h) e.first.first)), ?_, ?_⟩
    · rw [← List.append_assoc]
      refine Row.text_withFirst (Row.text_withFirst ?_)
      exact Row.text_cons.trans (List.append_assoc ..).symm
    · exact Row.flatMap_parts_withFirst [o] (Row.flatMap_parts_withFirst [o] rfl)
  · refine ⟨e.withFirst (.cons (.single o) (j.restrict h) e.first), ?_, ?_⟩
    · rw [← List.append_assoc]
      refine Row.text_withFirst ?_
      refine Row.text_cons.trans ?_
      rw [show Conjunction.text (.single o) = o.text from Row.text_single, List.append_assoc]
      rfl
    · exact Row.flatMap_parts_withFirst [o] Row.flatMap_parts_cons
  · refine ⟨.cons (.single (.single o)) (j.restrict h) e, ?_, ?_⟩
    · refine Row.text_cons.trans ?_
      rw [show Exclusion.text (.single (.single o)) = o.text from
        Row.text_single.trans Row.text_single]
      rfl
    · exact Row.flatMap_parts_cons

end Expression

/-- Every line has its layers. -/
theorem Line.exists_expression {os : List Operand} {t : Text} (h : Line os t) :
    ∃ e : Expression, e.text = t ∧ e.operands = os := by
  induction h with
  | single o =>
    exact ⟨.ofOperand o, Expression.text_ofOperand o, rfl⟩
  | cons o j _ ih =>
    obtain ⟨e, rfl, rfl⟩ := ih
    exact Expression.exists_cons o j e

/-! ## The grammar -/

section Grammar

variable {u : Text}

theorem takes_literal : literal.Takes u ↔
    ∃ b : Bool, u = if b then ['t', 'r', 'u', 'e'] else ['f', 'a', 'l', 's', 'e'] := by
  rw [literal, takes_alt, Pattern.takes_literal, Pattern.takes_literal]
  simp [or_comm]

theorem takes_negated : negated.Takes u ↔ ∃ b, u = Operand.text ⟨true, b⟩ := by
  rw [negated, takes_seq]
  constructor
  · rintro ⟨v, w, rfl, hv, hw⟩
    obtain rfl := Grammar.takes_sign.1 hv
    obtain ⟨b, rfl⟩ := takes_literal.1 hw
    exact ⟨b, rfl⟩
  · rintro ⟨b, rfl⟩
    exact ⟨['!'], _, rfl, Grammar.takes_sign.2 rfl, takes_literal.2 ⟨b, rfl⟩⟩

theorem takes_operand : operand.Takes u ↔ ∃ o : Operand, u = o.text := by
  rw [operand, takes_alt, takes_literal, takes_negated]
  constructor
  · rintro (⟨b, rfl⟩ | ⟨b, rfl⟩)
    · exact ⟨⟨false, b⟩, rfl⟩
    · exact ⟨⟨true, b⟩, rfl⟩
  · rintro ⟨⟨_ | _, b⟩, rfl⟩
    · exact .inl ⟨b, rfl⟩
    · exact .inr ⟨b, rfl⟩

theorem takes_blanks : blanks.Takes u ↔ ∀ c ∈ u, Unicode.isBlank c := takes_star_char

/-- The pattern takes one of the signs and nothing else. -/
def TakesSigns (q : Pattern) (signs : List Char) : Prop :=
  ∀ u, q.Takes u ↔ ∃ c ∈ signs, u = [c]

theorem takes_infixed {q : Pattern} (hq : TakesSigns q signs) :
    (infixed q).Takes u ↔ ∃ j : Joint signs, u = j.text := by
  simp only [infixed, takes_seqs_cons, takes_seqs_nil, takes_blanks, hq _]
  constructor
  · rintro ⟨before, _, rfl, hb, _, _, rfl, ⟨c, hc, rfl⟩, behind, _, rfl, hb', rfl⟩
    exact ⟨⟨before, c, behind, hc, hb, hb'⟩, by simp [Joint.text]⟩
  · rintro ⟨j, rfl⟩
    exact ⟨j.before, _, rfl, j.isBlank_before, [j.sign], _, rfl, ⟨_, j.mem_signs, rfl⟩, j.behind, _,
      (List.append_nil _).symm, j.isBlank_behind, rfl⟩

theorem takesSigns_and : TakesSigns (.alt (Grammar.sign '&') (Grammar.sign '+')) ['&', '+'] := by
  intro u
  simp [takes_alt, Grammar.takes_sign]

theorem takesSigns_sign (c : Char) : TakesSigns (Grammar.sign c) [c] := by
  intro u
  simp [Grammar.takes_sign]

theorem takes_joints : (Pattern.alt (.alt andSign xorSign) orSign).Takes u ↔
    ∃ j : Joint allSigns, u = j.text := by
  rw [takes_alt, takes_alt, andSign, xorSign, orSign, takes_infixed takesSigns_and,
    takes_infixed (takesSigns_sign '^'), takes_infixed (takesSigns_sign '|')]
  constructor
  · rintro ((⟨j, rfl⟩ | ⟨j, rfl⟩) | ⟨j, rfl⟩)
    · exact ⟨j.weaken (by decide), rfl⟩
    · exact ⟨j.weaken (by decide), rfl⟩
    · exact ⟨j.weaken (by decide), rfl⟩
  · rintro ⟨j, rfl⟩
    rcases j.sign_cases with h | h | h
    · exact .inl (.inl ⟨j.restrict h, rfl⟩)
    · exact .inl (.inr ⟨j.restrict h, rfl⟩)
    · exact .inr ⟨j.restrict h, rfl⟩

/-- An operator and an operand. -/
def joined : Pattern := .seq (.alt (.alt andSign xorSign) orSign) operand

theorem takes_joined : joined.Takes u ↔ ∃ (j : Joint allSigns) (o : Operand), u = j.text ++ o.text := by
  rw [joined, takes_seq]
  constructor
  · rintro ⟨v, w, rfl, hv, hw⟩
    obtain ⟨j, rfl⟩ := takes_joints.1 hv
    obtain ⟨o, rfl⟩ := takes_operand.1 hw
    exact ⟨j, o, rfl⟩
  · rintro ⟨j, o, rfl⟩
    exact ⟨_, _, rfl, takes_joints.2 ⟨j, rfl⟩, takes_operand.2 ⟨o, rfl⟩⟩

/-- Rounds of the repetition add operands to a line. -/
theorem exists_line_of_takes_rounds (h : (Pattern.plus .greedy joined).Takes u) :
    ∀ o : Operand, ∃ os, os ≠ [] ∧ Line (o :: os) (o.text ++ u) := by
  generalize hp : Pattern.plus .greedy joined = p at h
  induction h with
  | once h =>
    obtain ⟨rfl, rfl⟩ := Pattern.plus.inj hp
    obtain ⟨j, o', rfl⟩ := takes_joined.1 h
    exact fun o => ⟨[o'], List.cons_ne_nil _ _, .cons o j (.single o')⟩
  | @more _ _ _ v hu _ _ ih =>
    obtain ⟨rfl, rfl⟩ := Pattern.plus.inj hp
    obtain ⟨j, o', rfl⟩ := takes_joined.1 hu
    obtain ⟨os, -, h⟩ := ih rfl o'
    refine fun o => ⟨o' :: os, List.cons_ne_nil _ _, ?_⟩
    rw [List.append_assoc]
    exact .cons o j h
  | _ => cases hp

theorem takes_rounds_of_line {os : List Operand} {t : Text} (h : Line os t) :
    ∀ j : Joint allSigns, (Pattern.plus .greedy joined).Takes (j.text ++ t) := by
  induction h with
  | single o => exact fun j => .once (takes_joined.2 ⟨j, o, rfl⟩)
  | cons o i _ ih =>
    intro j
    rw [← List.append_assoc]
    exact .more (takes_joined.2 ⟨j, o, rfl⟩) (ih i)

/-- The grammar takes the texts that say something. -/
theorem grammar_takes_iff : grammar.Takes u ↔ ∃ b, Says u b := by
  rw [show grammar = .alt (.seq operand (.plus .greedy joined)) negated from rfl, takes_alt, takes_seq]
  constructor
  · rintro (⟨_, w, rfl, hv, hw⟩ | h)
    · obtain ⟨o, rfl⟩ := takes_operand.1 hv
      obtain ⟨os, hos, hline⟩ := exists_line_of_takes_rounds hw o
      obtain ⟨e, he, hop⟩ := hline.exists_expression
      refine ⟨e.value, he ▸ .expression e ?_⟩
      rw [hop, List.length_cons]
      exact Nat.succ_le_succ (List.length_pos_iff.2 hos)
    · obtain ⟨b, rfl⟩ := takes_negated.1 h
      exact ⟨_, .negation b⟩
  · rintro ⟨b, h⟩
    cases h with
    | negation b => exact .inr (takes_negated.2 ⟨b, rfl⟩)
    | expression e h =>
      left
      have hline := e.line
      generalize e.operands = os at h hline
      generalize e.text = t at hline
      cases hline with
      | single o => simp at h
      | cons o j hline =>
        exact ⟨_, _, rfl, takes_operand.2 ⟨o, rfl⟩, takes_rounds_of_line hline j⟩

end Grammar

end Interpolation.Logical
