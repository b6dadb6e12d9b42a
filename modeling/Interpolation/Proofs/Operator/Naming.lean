import Interpolation.Proofs.Evaluation.Spec
import Interpolation.Proofs.Strategy.PlainNames

/-!
# The name in a token

Every operator has a sign, and the name of the property stands in front of it. A token may be cut
at several signs, and which operator cuts it where depends on their patterns; whichever does, it
looks up a part of the token that ends at its sign.

* `Pattern.opensWith`: everything that a pattern takes begins with a character;
* `Operator.sign` is the character that begins the operator in a token, and
  `Operator.exists_name_of_recognize?` says that the name is what stands in front of it; without any
  of the signs a token is no operator's (`Operator.firstAnswer_of_forall_not_mem`);
* `Operator.exists_cut_of_recognize?`: a slash is the sign of an operator only if another one follows;
* `Operator.spec_evaluate_of_valueless`: an operator gives no answer if there is no value to work on.
  With a colon as its sign, it may have an answer for an unset property.
-/

namespace Interpolation

/-! ## Patterns that begin with a sign -/

/-- Whether all that a pattern takes begins with a character, by name. -/
def Pattern.opensWith (c : Char) : Pattern → Bool
  | .char (.one e) => e = c
  | .group _ p | .plus _ p | .seq p _ => p.opensWith c
  | .alt p q => p.opensWith c && q.opensWith c
  | .empty | .char _ | .anchor _ | .opt _ _ => false

theorem Pattern.exists_cons_of_opensWith {p : Pattern} {c : Char} {u : Text} (h : p.Takes u)
    (hp : p.opensWith c) : ∃ r, u = c :: r := by
  induction h with
  | empty | anchor | skip | opt => simp [opensWith] at hp
  | @char a e he =>
    cases a with
    | one e' =>
      obtain rfl : e = e' := by simpa [CharClass.contains] using he
      obtain rfl : e = c := by simpa [opensWith] using hp
      exact ⟨[], rfl⟩
    | _ => simp [opensWith] at hp
  | group _ ih | once _ ih => exact ih hp
  | seq _ _ ihu _ | more _ _ ihu _ =>
    obtain ⟨r, rfl⟩ := ihu hp
    exact ⟨_, rfl⟩
  | left _ ih =>
    simp only [opensWith, Bool.and_eq_true] at hp
    exact ih hp.1
  | right _ ih =>
    simp only [opensWith, Bool.and_eq_true] at hp
    exact ih hp.2

namespace Operator

open Pattern

variable {op : Operator} {token : Text} {groups : Groups} {host : Host} {name : Text}

/-! ## Names -/

/-- The character that begins the operator in a token. -/
def sign : Operator → Char
  | .substring | .defaultValue | .setDefault | .transliterate | .require => ':'
  | .delete ⟨.front, _⟩ => '#'
  | .delete ⟨.back, _⟩ => '%'
  | .replace => '/'

/-- The signs of all operators. -/
def signs : Text := [':', '#', '%', '/']

theorem sign_mem_signs (op : Operator) : op.sign ∈ signs := by
  cases op with
  | delete d => rcases d with ⟨_ | _, _⟩ <;> simp [sign, signs]
  | _ => simp [sign, signs]

theorem mem_all (op : Operator) : op ∈ all := by
  cases op with
  | delete d => rcases d with ⟨_ | _, _ | _⟩ <;> decide
  | _ => decide

theorem isNameChar_sign (op : Operator) : Text.isNameChar op.sign = false := by
  cases op with
  | delete d => rcases d with ⟨_ | _, _⟩ <;> rfl
  | _ => rfl

/-- What stands in front of a sign is the first group of a token. -/
theorem exists_cons_of_recognize? {p : Pattern} {ps : List Pattern} {c : Char} (hp : p.isPlain)
    (hn : 1 ∉ (seqs ps).groupNumbers) (hl : 0 < (seqs (.group 1 p :: ps)).lastGroup)
    (hc : (seqs ps).opensWith c) (h : recognize? (seqs (.group 1 p :: ps)) token = some groups) :
    ∃ r, token = groups.text 1 ++ c :: r := by
  obtain ⟨u, v, rfl, -, hv, rfl⟩ := exists_split_of_recognize? hp hn hl h
  obtain ⟨r, rfl⟩ := exists_cons_of_opensWith hv hc
  exact ⟨r, rfl⟩

/-- The name in a token is what stands in front of the operator. -/
theorem exists_name_of_recognize? (h : recognize? op.grammar token = some groups) :
    ∃ r, token = groups.text 1 ++ op.sign :: r := by
  cases op with
  | substring | defaultValue | setDefault | transliterate | require | replace =>
    exact exists_cons_of_recognize? rfl (by decide) (by decide) (by decide) h
  | delete d =>
    rcases d with ⟨_ | _, _ | _⟩ <;>
      exact exists_cons_of_recognize? rfl (by decide) (by decide) (by decide) h

/-- In a replacement, another slash stands behind the glob. -/
theorem exists_slash_of_recognize?_replace (h : recognize? Replacement.grammar token = some groups) :
    ∃ r, token = groups.text 1 ++ '/' :: r ∧ '/' ∈ r := by
  obtain ⟨u, v, rfl, -, hv, rfl⟩ := exists_split_of_recognize? rfl (by decide) (by decide) h
  obtain ⟨slashes, rest, rfl, hslashes, hrest⟩ := takes_seqs_cons.1 hv
  obtain ⟨r, rfl⟩ := exists_cons_of_opensWith hslashes (show opensWith '/' _ by decide)
  obtain ⟨c, hc, hslash⟩ : ∃ c ∈ rest, (c == '/') = true := exists_mem_of_demands hrest (by decide)
  exact ⟨r ++ rest, rfl, List.mem_append_right r (beq_iff_eq.1 hslash ▸ hc)⟩

/-- Where a name stands in front of a slash, another slash follows. -/
theorem exists_cut_of_recognize? (h : recognize? op.grammar token = some groups) :
    ∃ r, token = groups.text 1 ++ op.sign :: r ∧ (op.sign = '/' → '/' ∈ r) := by
  cases op with
  | replace =>
    obtain ⟨r, hr, hslash⟩ := exists_slash_of_recognize?_replace h
    exact ⟨r, hr, fun _ => hslash⟩
  | delete d =>
    obtain ⟨r, hr⟩ := exists_name_of_recognize? h
    refine ⟨r, hr, fun hsign => ?_⟩
    rcases d with ⟨_ | _, _⟩ <;> exact absurd hsign (by simp [sign])
  | substring | defaultValue | setDefault | transliterate | require =>
    obtain ⟨r, hr⟩ := exists_name_of_recognize? h
    exact ⟨r, hr, fun hsign => absurd hsign (by simp [sign])⟩

/-- No operator takes a token without its sign. -/
theorem evaluate_of_not_mem (h : op.sign ∉ token) : op.evaluate host token = pure none := by
  rw [evaluate]
  cases hg : recognize? op.grammar token with
  | none => rfl
  | some groups =>
    obtain ⟨r, hr⟩ := exists_name_of_recognize? hg
    exact absurd (hr ▸ by simp) h

/-- Without any of the signs a token is passed over by all operators. -/
theorem firstAnswer_of_forall_not_mem (h : ∀ c ∈ signs, c ∉ token) :
    Strategy.firstAnswer (all.map .operator) host token = pure none := by
  refine Strategy.firstAnswer_eq_none fun s hs => ?_
  obtain ⟨op, -, rfl⟩ := List.mem_map.1 hs
  rw [Strategy.evaluate, evaluate_of_not_mem (h _ op.sign_mem_signs)]

/-! ## Properties without a value -/

variable {unended : Prop} {g : Guard} {k : Stock}

/-- A lookup has found no value to work on: the property is in flight, or it is unset and the operator
is not one of those that may have an answer then. -/
def Valueless (op : Operator) (found : Except Error Operand) : Prop :=
  found = .ok .inFlight ∨ found = .ok .unset ∧ op.sign ≠ ':'

theorem Valueless.map_value? {found : Except Error Operand} (h : op.Valueless found) :
    found.map Operand.value? = .ok none := by
  obtain rfl | ⟨rfl, -⟩ := h <;> rfl

/-- An operator on values gives no answer where a lookup finds none to work on. -/
theorem spec_onValue_of_none {f : Text → Except Error Text}
    (h : Eval.Spec unended g k (Operand.lookup host.toProperties name)
      fun found k' => found.map Operand.value? = .ok none ∧ k' = k) :
    Eval.Spec unended g k (onValue host name f) fun answer k' => answer = .ok none ∧ k' = k := by
  refine h.bind (fun o k' ho => ?_) fun e k' he => by cases he.1
  obtain ⟨hvalue, rfl⟩ := ho
  rw [show o.value? = none from Except.ok.inj hvalue]
  exact .pure ⟨rfl, rfl⟩

theorem spec_orElse_of_valueless {unset : Eval (Option Value)} (hop : op.sign = ':')
    (h : Eval.Spec unended g k (Operand.lookup host.toProperties name)
      fun found k' => op.Valueless found ∧ k' = k) :
    Eval.Spec unended g k (orElse host name unset) fun answer k' => answer = .ok none ∧ k' = k := by
  refine h.bind (fun o k' ho => ?_) fun e k' he => ?_
  · obtain ⟨⟨⟨⟩⟩ | ⟨-, hne⟩, rfl⟩ := ho
    · exact .pure ⟨rfl, rfl⟩
    · exact absurd hop hne
  · obtain ⟨⟨⟨⟩⟩ | ⟨⟨⟨⟩⟩, -⟩, -⟩ := he

/-- An operator whose property has no value to work on gives no answer. -/
theorem spec_evaluate_of_valueless
    (h : ∀ name r, token = name ++ op.sign :: r → (op.sign = '/' → '/' ∈ r) →
      Eval.Spec unended g k (Operand.lookup host.toProperties name)
        fun found k' => op.Valueless found ∧ k' = k) :
    Eval.Spec unended g k (op.evaluate host token) fun answer k' => answer = .ok none ∧ k' = k := by
  rw [evaluate]
  cases hg : recognize? op.grammar token with
  | none => exact .pure ⟨rfl, rfl⟩
  | some groups =>
    obtain ⟨r, hr, hslash⟩ := exists_cut_of_recognize? hg
    have lookup := h (groups.text 1) r hr hslash
    cases op with
    | substring | transliterate | delete | replace =>
      exact spec_onValue_of_none (lookup.mono fun _ _ h => ⟨h.1.map_value?, h.2⟩)
    | defaultValue | setDefault | require => exact spec_orElse_of_valueless (by rfl) lookup

/-- Operators of which none has a value to work on give no answer. -/
theorem spec_firstAnswer_of_valueless {ops : List Operator}
    (h : ∀ op ∈ ops, ∀ name r, token = name ++ op.sign :: r → (op.sign = '/' → '/' ∈ r) →
      Eval.Spec unended g k (Operand.lookup host.toProperties name)
        fun found k' => op.Valueless found ∧ k' = k) :
    Eval.Spec unended g k (Strategy.firstAnswer (ops.map .operator) host token)
      fun answer k' => answer = .ok none ∧ k' = k := by
  refine Strategy.spec_firstAnswer_of_declines fun d hd => ?_
  obtain ⟨op, hop, rfl⟩ := List.mem_map.1 hd
  rw [Strategy.evaluate]
  exact spec_evaluate_of_valueless (h op hop)

end Operator

end Interpolation
