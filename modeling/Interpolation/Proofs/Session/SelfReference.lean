import Interpolation.Proofs.Operator.Naming
import Interpolation.Proofs.Session.Doubling

/-!
# Properties that refer to themselves

While a property is being expanded, an operator on it gets no value to work on. The token is then
offered to the operators and strategies behind, which may cut it elsewhere, and all of them have to
pass.

* `Text.IsOperation`: an operator and words for it to work with;
* `Text.AsksForObject`: a name and an operation that are the type and the argument of an object;
  `Store.AsksForValue`: they are a reference to something registered;
* `Resolver.spec_resolve_inFlight`: while a property is being expanded, nothing is made of a token in
  which its name stands in front of an operator, unless it asks for an object or a registered value;
* `Store.expand_selfReference`: a property that refers to itself through an operator stays as it is
  written.
-/

namespace Interpolation

/-! ## Operators with words -/

namespace Text

variable {p o t z w r : Text} {c e : Char}

/-- A word of ASCII letters. -/
def isWord (t : Text) : Bool := !t.isEmpty && t.all Char.isAlpha

/-- A number of ASCII digits. -/
def isNumeral (t : Text) : Bool := !t.isEmpty && t.all Char.isDigit

/-- An operator and words for it to work with, as they stand behind a name. -/
inductive IsOperation : Text → Prop where
  | text {c : Char} {d : Text} (hc : c ∈ ['-', '=', '?']) (hd : d.isWord) : IsOperation (':' :: c :: d)
  | slice {i : Text} (hi : i.isNumeral) : IsOperation (':' :: i)
  | transliteration {a b : Text} (ha : a.isWord) (hb : b.isWord) :
      IsOperation (':' :: 't' :: 'r' :: '/' :: (a ++ '/' :: b))
  | deletion (d : Deletion) {a : Text} (ha : a.isWord) : IsOperation (d.sign ++ a)
  | replaceFirst {a b : Text} (ha : a.isWord) (hb : b.isWord) : IsOperation ('/' :: (a ++ '/' :: b))
  | replaceEvery {a b : Text} (ha : a.isWord) (hb : b.isWord) :
      IsOperation ('/' :: '/' :: (a ++ '/' :: b))

/-- A name and an operation that are taken for the type and the argument of an object: everything is
the path of a file, and a text is a pattern unless it begins with a question mark. -/
def AsksForObject (p o : Text) : Prop :=
  ∃ arg, o = ':' :: arg ∧ (p = "path".toList ∨ p = "regex".toList ∧ arg.head? ≠ some '?')

/-- A character that may stand behind the sign of an operator: the only colon of a token is its
sign. -/
def isBehindSign (c : Char) : Bool := isTokenChar c && c ≠ ':'

/-- A character at which another operator may cut what is behind a sign. -/
def isCut (c : Char) : Bool := Operator.signs.elem c && c ≠ ':'

theorem colon_not_mem_of_all (h : w.all isBehindSign) : ':' ∉ w := fun hm => by
  simpa [isBehindSign] using List.all_eq_true.1 h _ hm

/-- A name with an operator behind it is made of the characters of tokens. -/
theorem isTokenChar_of_mem (hp : p.isPlainName) (hc : c ∈ Operator.signs) (hw : w.all isBehindSign) :
    ∀ e ∈ p ++ c :: w, isTokenChar e := by
  have hsign : isTokenChar c := by
    simp only [Operator.signs, List.mem_cons, List.not_mem_nil, or_false] at hc
    rcases hc with rfl | rfl | rfl | rfl <;> rfl
  have hbehind : ∀ e ∈ w, isTokenChar e ∧ e ≠ ':' := by simpa [isBehindSign] using hw
  intro e he
  rcases List.mem_append.1 he with he | he
  · exact isTokenChar_of_isPlainName hp e he
  · rcases List.mem_cons.1 he with rfl | he
    · exact hsign
    · exact (hbehind e he).1

theorem of_isNameChar (h : isNameChar e) : isBehindSign e ∧ isCut e = false := by
  have hsign : e ∉ Operator.signs := fun hm => by
    simp only [Operator.signs, List.mem_cons, List.not_mem_nil, or_false] at hm
    rcases hm with rfl | rfl | rfl | rfl <;> exact absurd h (by decide)
  have hcolon : e ≠ ':' := fun he => hsign (he ▸ List.mem_cons_self)
  simp [isBehindSign, isTokenChar, isCut, h, hsign, hcolon]

theorem behind_of_forall (h : ∀ e ∈ t, isNameChar e) :
    t.all isBehindSign ∧ t.countP isCut = 0 :=
  ⟨List.all_eq_true.2 fun e he => (of_isNameChar (h e he)).1,
    List.countP_eq_zero.2 fun e he => by simp [(of_isNameChar (h e he)).2]⟩

theorem behind_of_isWord (h : t.isWord) : t.all isBehindSign ∧ t.countP isCut = 0 := by
  simp only [isWord, Bool.and_eq_true, List.all_eq_true] at h
  exact behind_of_forall fun e he => by simp [isNameChar, Char.isAlphanum, h.2 e he]

theorem behind_of_isNumeral (h : t.isNumeral) : t.all isBehindSign ∧ t.countP isCut = 0 := by
  simp only [isNumeral, Bool.and_eq_true, List.all_eq_true] at h
  exact behind_of_forall fun e he => by simp [isNameChar, Char.isAlphanum, h.2 e he]

/-- Behind the sign of an operation, up to two characters may be cut at. -/
theorem IsOperation.exists_cons (h : IsOperation o) :
    ∃ c w, o = c :: w ∧ c ∈ Operator.signs ∧ w.all isBehindSign ∧ w.countP isCut ≤ 2 := by
  cases h with
  | text hc hd =>
    obtain ⟨hall, hcount⟩ := behind_of_isWord hd
    simp only [List.mem_cons, List.not_mem_nil, or_false] at hc
    refine ⟨_, _, rfl, by decide, ?_, ?_⟩
    · rcases hc with rfl | rfl | rfl <;> exact hall
    · rw [List.countP_cons, hcount]
      rcases hc with rfl | rfl | rfl <;> decide
  | slice hi =>
    obtain ⟨hall, hcount⟩ := behind_of_isNumeral hi
    exact ⟨_, _, rfl, by decide, hall, by rw [hcount]; decide⟩
  | deletion d ha =>
    obtain ⟨hall, hcount⟩ := behind_of_isWord ha
    rcases d with ⟨_ | _, _ | _⟩
    all_goals
      simp only [Deletion.sign, List.cons_append, List.nil_append]
      refine ⟨_, _, rfl, by decide, hall, ?_⟩
      simp only [List.countP_cons, hcount]
      decide
  | transliteration ha hb | replaceFirst ha hb | replaceEvery ha hb =>
    obtain ⟨hall, hcount⟩ := behind_of_isWord ha
    obtain ⟨hall', hcount'⟩ := behind_of_isWord hb
    refine ⟨_, _, rfl, by decide, ?_, ?_⟩
    · simp only [List.all_cons, List.all_append, hall, hall']
      decide
    · simp only [List.countP_cons, List.countP_append, hcount, hcount']
      decide

/-- The only colon of an operation at which a token can be cut further on, with another slash behind a slash,
is that of a transliteration, and the cut is behind its letters. -/
theorem IsOperation.eq_of_cut (h : IsOperation (':' :: (z ++ e :: r))) (he : isCut e)
    (hslash : e = '/' → '/' ∈ r) : z = ['t', 'r'] ∧ e = '/' := by
  have uncut {t : Text} (ht : t.countP isCut = 0) : e ∉ t := fun hm => by
    simpa [he] using List.countP_eq_zero.1 ht e hm
  have hm : e ∈ z ++ e :: r := by simp
  generalize ho : ':' :: (z ++ e :: r) = o at h
  cases h with
  | @text c d hc hd =>
    refine absurd ((List.cons.inj ho).2 ▸ hm) (uncut ?_)
    rw [List.countP_cons, (behind_of_isWord hd).2]
    simp only [List.mem_cons, List.not_mem_nil, or_false] at hc
    rcases hc with rfl | rfl | rfl <;> rfl
  | slice hi => exact absurd ((List.cons.inj ho).2 ▸ hm) (uncut (behind_of_isNumeral hi).2)
  | @transliteration a b ha hb =>
    have hcut : ['t', 'r'] ++ '/' :: (a ++ '/' :: b) = z ++ e :: r := (List.cons.inj ho).2.symm
    rcases append_cons_cases (uncut rfl) hcut with ⟨hz, he, -⟩ | ⟨z, -, hcut⟩
    · exact ⟨hz, he⟩
    · rcases append_cons_cases (uncut (behind_of_isWord ha).2) hcut with ⟨-, rfl, rfl⟩ | ⟨z, -, rfl⟩
      · exact absurd (hslash rfl) (uncut (behind_of_isWord hb).2)
      · exact absurd (by simp) (uncut (behind_of_isWord hb).2)
  | deletion d ha => rcases d with ⟨_ | _, _ | _⟩ <;> exact absurd (List.cons.inj ho).1 (by decide)
  | replaceFirst | replaceEvery => exact absurd (List.cons.inj ho).1 (by decide)

/-- Where a part asks for an object, the whole does, unless the part is cut at a question mark. -/
theorem AsksForObject.append (h : AsksForObject p (c :: z)) (he : e ≠ '?') (r : Text) :
    AsksForObject p (c :: (z ++ e :: r)) := by
  obtain ⟨arg, hz, h⟩ := h
  obtain ⟨rfl, rfl⟩ := List.cons.inj hz
  refine ⟨_, rfl, h.imp_right fun ⟨hp, hhead⟩ => ⟨hp, ?_⟩⟩
  cases z with
  | nil => simpa using he
  | cons a z => exact hhead

end Text

/-! ## Types -/

theorem TypeRegistry.get?_standard (name : Text) : standard.get? name =
    if "url".toList = name then some .url
    else if "path".toList = name then some .path
    else if "regex".toList = name then some .regex
    else none :=
  rfl

namespace Resolver

open Text Reference

variable {r : Resolver} {g : Guard} {k : Stock} {p o w t z : Text} {c : Char} {first depth : Nat}

/-- What asks for no object does not construct one. -/
theorem construct_eq_fail (hw : ':' ∉ w) (h : ¬AsksForObject p (':' :: w)) {type : ObjectType}
    (ht : TypeRegistry.standard.get? p = some type) (ps : Properties) :
    ∃ e, type.construct ps w = Eval.fail e := by
  rw [TypeRegistry.get?_standard] at ht
  split at ht
  · obtain rfl := Option.some.inj ht
    have hread := Url.normalize_eq_error_of_not_mem hw
    exact ⟨_, by simp only [ObjectType.construct, ObjectType.url, hread]; rfl⟩
  · split at ht
    · rename_i hp
      exact absurd ⟨w, rfl, .inl hp.symm⟩ h
    · split at ht
      · rename_i hp
        obtain rfl := Option.some.inj ht
        have hhead : w.head? = some '?' := by
          by_contra hne
          exact h ⟨w, rfl, .inr ⟨hp.symm, hne⟩⟩
        obtain ⟨d, rfl⟩ := List.head?_eq_some_iff.1 hhead
        have hread : Pattern.read ('?' :: d) = .error .nothingToRepeat := rfl
        exact ⟨_, by simp only [ObjectType.construct, ObjectType.regex, hread]; rfl⟩
      · cases ht

/-! ## Tokens on a property in flight -/

theorem host_objectType? (r : Resolver) (depth : Nat) :
    (r.host depth).objectType? = r.types.get? := by
  cases depth <;> rfl

/-- Tokens other than the one in hand stay fresh. -/
theorem Fresh.inHand {token : Text} (h : Fresh first g t) (hne : t ≠ token) :
    Fresh first (inHand first g token) t := by
  simp [Fresh, Resolver.inHand, Guard.contains_push, h.1, h.2, hne]

/-- A property in flight is so while a token is in hand as well. -/
theorem contains_inHand {token : Text} {f : Frame} (h : g.contains f) :
    (inHand first g token).contains f := by
  simp [inHand, Guard.contains_push, h]

/-- A property that is being expanded gives an operator nothing to work on. -/
theorem spec_operandLookup_inFlight {op : Operator} {unended : Prop} (hstored : k.properties.contains p)
    (hflight : g.contains ⟨r.scope, p⟩) :
    Eval.Spec unended g k (Operand.lookup (r.host depth).toProperties p)
      fun found k' => op.Valueless found ∧ k' = k := by
  refine Eval.Spec.congr (.pure ⟨.inl rfl, rfl⟩) fun s hs hs' => ?_
  subst hs hs'
  refine run_operandLookup_of_inFlight none depth ?_
  rw [Bool.and_eq_true]
  exact ⟨hflight, hstored⟩

/-- Behind the operators, no strategy takes a token in which an operator stands behind a name. -/
theorem firstAnswer_behind_operators (htypes : r.types = .standard) (hp : p.isPlainName)
    (hc : c ∈ Operator.signs) (hall : w.all isBehindSign) (hobj : ¬AsksForObject p (c :: w)) :
    Strategy.firstAnswer [.logical, .conditions, .componentTypes .colon] (r.host depth)
      (p ++ c :: w) = pure none := by
  have htoken := isTokenChar_of_mem hp hc hall
  have hcolon := colon_not_mem_of_all hall
  have hobject : (Strategy.componentTypes .colon).evaluate (r.host depth) (p ++ c :: w) =
      pure none := by
    refine Strategy.evaluate_componentTypes_eq_none hp hcolon fun hc type ht => ?_
    subst hc
    rw [host_objectType?, htypes] at ht
    exact construct_eq_fail hcolon hobj ht _
  rw [Strategy.firstAnswer_of_declines (Strategy.evaluate_logical_eq_none htoken),
    Strategy.firstAnswer_of_declines (Strategy.evaluate_conditions_eq_none htoken),
    Strategy.firstAnswer_of_declines hobject, Strategy.firstAnswer]

/-- The value that a name with a sign and a text behind it is a reference to. -/
def registered? (references : TextMap Value) (p : Text) (c : Char) (w : Text) : Option Value :=
  if p = "ref".toList ∧ c = ':' then references.get? w else none

theorem unregistered_of_registered?_eq_none (hp : p.isPlainName) (hw : ':' ∉ w)
    (h : registered? k.references p c w = none) : Strategy.Unregistered k.references (p ++ c :: w) := by
  by_cases hc : c = ':'
  · subst hc
    refine Strategy.unregistered_of_plainName hp fun href => ?_
    rwa [registered?, if_pos ⟨href, rfl⟩] at h
  · refine Strategy.unregistered_of_not_mem (fun hm => ?_) _
    rcases List.mem_append.1 hm with hm | hm
    · exact not_mem_of_isPlainName hp (by decide) hm
    · exact (List.mem_cons.1 hm).elim (fun h => hc h.symm) hw

section InFlight

variable (hr : r.chain = .standard first) (htypes : r.types = .standard) (hp : p.isPlainName)
  (hc : c ∈ Operator.signs) (hunset : ∀ z, k.properties.get? (p ++ c :: z) = none)
  (hall : w.all isBehindSign) (hobj : ¬AsksForObject p (c :: w))
  (hval : ∀ z e behind, w = z ++ e :: behind → isCut e → (e = '/' → '/' ∈ behind) →
    (registered? k.references p c z).bind Value.text? = none)

include hr htypes hp hc hunset hall hobj hval

/-- While a property is being expanded, a token in which an operator stands behind its name is resolved to
the value that it is a reference to, or else to nothing, unless it asks for an object. No part of it that
ends in front of another operator may be a reference to a text. -/
theorem spec_resolve_inFlight (hstored : k.properties.contains p) (hcut : w.countP isCut ≤ depth)
    (hflight : g.contains ⟨r.scope, p⟩)
    (hfresh : ∀ t, p.length < t.length → t.length ≤ (p ++ c :: w).length → Fresh first g t) :
    Eval.Spec False g k (r.resolve (r.host depth) (p ++ c :: w))
      (fun answer k' => answer = .ok (registered? k.references p c w) ∧ k' = k) := by
  -- an operator may take a longer name than that of the property: it is unset, and as a token it can
  -- be cut at fewer places
  induction depth using Nat.strongRecOn generalizing g w with
  | ind depth ih =>
  have hcolon := colon_not_mem_of_all hall
  have hfresh' : Fresh first g (p ++ c :: w) := hfresh _ (by simp) (Nat.le_refl _)
  cases hv : registered? k.references p c w with
  | some v =>
    by_cases href : p = "ref".toList ∧ c = ':'
    · rw [registered?, if_pos href] at hv
      obtain ⟨rfl, rfl⟩ := href
      have hline : '\n' ∉ w := fun hm => absurd (List.all_eq_true.1 hall _ hm) (by decide)
      exact spec_resolve_reference hr (host_reference? r depth) hline hfresh'.1 hv
    · rw [registered?, if_neg href] at hv
      cases hv
  | none =>
    have declined : Eval.Spec False (inHand first g (p ++ c :: w)) k
        (Strategy.firstAnswer (Operator.all.map .operator) (r.host depth) (p ++ c :: w))
        (fun answer k' => answer = .ok none ∧ k' = k) := by
      refine Operator.spec_firstAnswer_of_valueless fun op _ name behind hname hslash => ?_
      have hsign : op.sign ∉ p := not_mem_of_isPlainName hp op.isNameChar_sign
      rcases append_cons_cases hsign hname with ⟨rfl, -, -⟩ | ⟨z, rfl, rfl⟩
      · exact spec_operandLookup_inFlight hstored (contains_inHand hflight)
      · have hne : op.sign ≠ ':' := fun he => hcolon (he ▸ by simp)
        have hquestion : op.sign ≠ '?' := fun he => absurd (he ▸ op.sign_mem_signs) (by decide)
        have hop : isCut op.sign := by simp [isCut, op.sign_mem_signs, hne]
        rw [List.countP_append, List.countP_cons, if_pos hop] at hcut
        rw [List.all_append, Bool.and_eq_true] at hall
        have hlength : (p ++ c :: z).length < (p ++ c :: (z ++ op.sign :: behind)).length := by simp
        have unset : Eval.Spec False (inHand first g (p ++ c :: (z ++ op.sign :: behind))) k
            (Operand.lookup (r.host depth).toProperties (p ++ c :: z))
            (fun o k' => o = .ok .unset ∧ k' = k) := by
          refine spec_operandLookup_unresolved (hunset z) (hval z _ _ rfl hop hslash) (fun _ => by omega) ?_
          rintro n rfl
          refine ih n (Nat.lt_succ_self n) hall.1 (fun h => hobj (h.append hquestion behind)) ?_ (by omega)
            (contains_inHand hflight) fun t hp ht => (hfresh t hp (by omega)).inHand fun he => ?_
          · intro y e between hz hcut hslash
            refine hval y e (between ++ op.sign :: behind) (by rw [hz]; simp) hcut fun he => ?_
            exact List.mem_append_left _ (hslash he)
          · subst he
            omega
        exact unset.mono fun _ _ h => ⟨.inr ⟨h.1, hne⟩, h.2⟩
    refine spec_resolve hr (host_reference? r depth) (unregistered_of_registered?_eq_none hp hcolon hv)
      hfresh' (Strategy.evaluate_encodeUrlBy_sign hp hcolon) declined (fun _ _ h => h) ?_ fun _ _ h => h
    rintro k' ⟨-, rfl⟩
    rw [firstAnswer_behind_operators htypes hp hc hall hobj]
    exact .pure ⟨rfl, rfl⟩

/-- While a property is being expanded, a reference that asks for it by an operator stands for its own
text. -/
theorem spec_expandAt_inFlight (hreg : registered? k.references p c w = none)
    (hstored : k.properties.contains p) (hcut : w.countP isCut ≤ depth + 1)
    (hflight : g.contains ⟨r.scope, p⟩) (hfresh : ∀ t, p.length < t.length → Fresh first g t) :
    Eval.Spec False g k (r.expandAt (depth + 2) (Text.reference (p ++ c :: w)))
      (fun t k' => t = .ok (Text.reference (p ++ c :: w)) ∧ k' = k) := by
  have htoken := isTokenChar_of_mem hp hc hall
  have resolved := spec_resolve_inFlight hr htypes hp hc hunset hall hobj hval hstored hcut hflight
    fun t ht _ => hfresh t ht
  rw [hreg] at resolved
  exact spec_expandAt_reference (unopened_of_not_mem fun h => absurd (htoken _ h) (by decide))
    (fun h => absurd (htoken _ h) (by decide)) (spec_propertyValue_of_unset (hunset w) resolved)

/-- A property that refers to itself through an operator expands to the text it is written as. -/
theorem spec_expandAt_selfReference (hreg : registered? k.references p c w = none)
    (hstored : k.properties.get? p = some (Text.reference (p ++ c :: w)))
    (hcut : w.countP isCut ≤ depth + 1) :
    Eval.Spec False .empty k (r.expandAt (depth + 3) (Text.reference p))
      (fun t k' => t = .ok (Text.reference (p ++ c :: w)) ∧ k' = k) := by
  have hflight : (Guard.empty.push ⟨r.scope, p⟩).contains ⟨r.scope, p⟩ := by simp [Guard.contains_push]
  -- the frame of the property is no frame of a longer token, whatever the scopes are
  have hfresh : ∀ t, p.length < t.length → Fresh first (Guard.empty.push ⟨r.scope, p⟩) t := fun t ht => by
    have hne : t ≠ p := fun h => absurd (h ▸ ht) (Nat.lt_irrefl _)
    simp [Fresh, Guard.contains, Guard.push, Guard.empty, hne]
  have value : Eval.Spec False .empty k (r.propertyValue (r.host (depth + 2)) p)
      (fun answer k' => answer = .ok (some (.text (Text.reference (p ++ c :: w)))) ∧ k' = k) :=
    spec_propertyValue_of_stored hstored rfl (spec_expandAt_inFlight hr htypes hp hc hunset hall hobj hval
      hreg (by simp [TextMap.contains, hstored]) hcut hflight hfresh)
  exact spec_expandAt_reference (unopened_of_not_mem (not_mem_of_isPlainName hp (by decide)))
    (not_mem_of_isPlainName hp (by decide)) value

end InFlight

end Resolver

namespace Store

open Text

variable {s : Store} {p o : Text} {first : Nat}

/-- A name and an operation are a reference to a registered value, or so are the name and what stands in front
of the first slash of a transliteration, which is taken for the sign of a replacement then and asks for a
text. -/
def AsksForValue (s : Store) (p o : Text) : Prop :=
  p = "ref".toList ∧ ∃ arg, o = ':' :: arg ∧ (s.reference? arg ≠ none ∨
    "tr/".toList <+: arg ∧ (s.reference? "tr".toList).bind Value.text? ≠ none)

/-- A property that refers to itself through an operator stays as it is written, and so does the store, unless
the property and the operation ask for an object or for a registered value. No name of another property may
begin with the property and the sign of an operator. -/
theorem expand_selfReference (hs : s.resolver.chain = .standard first)
    (htypes : s.resolver.types = .standard) (hp : p.isPlainName) (ho : IsOperation o)
    (hstored : s.property? p = some (reference (p ++ o)))
    (hunset : ∀ c ∈ Operator.signs, ∀ z, s.property? (p ++ c :: z) = none)
    (hobj : ¬AsksForObject p o) (hval : ¬s.AsksForValue p o) :
    s.expand (reference p) = some (.ok (reference (p ++ o)), s) := by
  obtain ⟨c, w, rfl, hc, hall, hcut⟩ := ho.exists_cons
  have hreg : Resolver.registered? s.references p c w = none := by
    rw [Resolver.registered?]
    split
    · rename_i h
      obtain ⟨rfl, rfl⟩ := h
      exact Option.not_isSome_iff_eq_none.1 fun h =>
        hval ⟨rfl, w, rfl, .inl (Option.isSome_iff_ne_none.1 h)⟩
    · rfl
  have hparts : ∀ z e behind, w = z ++ e :: behind → isCut e → (e = '/' → '/' ∈ behind) →
      (Resolver.registered? s.references p c z).bind Value.text? = none := by
    rintro z e behind rfl he hslash
    rw [Resolver.registered?]
    split
    · rename_i h
      obtain ⟨rfl, rfl⟩ := h
      obtain ⟨rfl, rfl⟩ := ho.eq_of_cut he hslash
      by_contra h
      exact hval ⟨rfl, _, rfl, .inr ⟨⟨behind, rfl⟩, h⟩⟩
    · rfl
  have hdepth : w.countP isCut ≤ 999997 + 1 := by omega
  exact session_eq_some (Resolver.spec_expandAt_selfReference (k := s.stock) hs htypes hp hc (hunset c hc)
    hall hobj hparts hreg hstored hdepth)

/-- A transliteration, which is cut behind `:tr` as well, where the names of the property and of what is
registered are close to a reference, and a message that is no pattern. -/
theorem expand_selfReference_transliteration :
    let s := (standard (TextMap.insert ∅ "ref".toList "${ref:tr/b/c}".toList)).addReference "b".toList
      (.text "x".toList)
    let s' := standard (TextMap.insert ∅ "regex".toList "${regex:?m}".toList)
    IsOperation ":tr/b/c".toList ∧ ¬AsksForObject "ref".toList ":tr/b/c".toList ∧
      ¬s.AsksForValue "ref".toList ":tr/b/c".toList ∧
      IsOperation ":?m".toList ∧ ¬AsksForObject "regex".toList ":?m".toList ∧
      ¬s'.AsksForValue "regex".toList ":?m".toList ∧
      s.expand "${ref}".toList = some (.ok "${ref:tr/b/c}".toList, s) ∧
      s'.expand "${regex}".toList = some (.ok "${regex:?m}".toList, s') := by
  intro s s'
  have ho : IsOperation ":tr/b/c".toList :=
    .transliteration (a := ['b']) (b := ['c']) (by decide) (by decide)
  have ho' : IsOperation ":?m".toList := .text (d := ['m']) (by decide) (by decide)
  have hobj : ¬AsksForObject "ref".toList ":tr/b/c".toList := by
    rintro ⟨arg, -, h | ⟨h, -⟩⟩ <;> exact absurd h (by decide)
  have hobj' : ¬AsksForObject "regex".toList ":?m".toList := by
    rintro ⟨arg, harg, h | ⟨-, h⟩⟩
    · exact absurd h (by decide)
    · obtain rfl := (List.cons.inj harg).2
      exact h rfl
  have hval : ¬s.AsksForValue "ref".toList ":tr/b/c".toList := by
    rintro ⟨-, arg, harg, h | ⟨-, h⟩⟩
    · obtain rfl := (List.cons.inj harg).2
      exact h rfl
    · exact h rfl
  have hval' : ¬s'.AsksForValue "regex".toList ":?m".toList := fun h => absurd h.1 (by decide)
  have alone (p v : Text) : ∀ c ∈ Operator.signs, ∀ z, (TextMap.insert ∅ p v).get? (p ++ c :: z) = none :=
    fun c _ z => TextMap.get?_insert_of_ne ∅ v (by simp)
  have hstored : s.property? "ref".toList = some (reference ("ref".toList ++ ":tr/b/c".toList)) :=
    TextMap.get?_insert_self ..
  have hstored' : s'.property? "regex".toList = some (reference ("regex".toList ++ ":?m".toList)) :=
    TextMap.get?_insert_self ..
  have hexpand := expand_selfReference rfl rfl (by decide) ho hstored (alone _ _) hobj hval
  have hexpand' := expand_selfReference rfl rfl (by decide) ho' hstored' (alone _ _) hobj' hval'
  exact ⟨ho, hobj, hval, ho', hobj', hval', hexpand, hexpand'⟩

/-- Properties with the names of the types of paths and patterns, where the reference asks for an object and
the token is registered; and one with the prefix of references, where it asks for a registered value, also by
a part of a transliteration. -/
theorem expand_selfReference_departs :
    let path := standard (TextMap.insert ∅ "path".toList "${path:-d}".toList)
    let regex := standard (TextMap.insert ∅ "regex".toList "${regex:=d}".toList)
    let ref := (standard (TextMap.insert ∅ "ref".toList "${ref:-d}".toList)).addReference "-d".toList
      (.text "x".toList)
    let part := (standard (TextMap.insert ∅ "ref".toList "${ref:tr/a/b}".toList)).addReference "tr".toList
      (.text "cab".toList)
    (∀ p ∈ ["path", "regex", "ref"], isPlainName p.toList) ∧
      (∀ o ∈ [":-d", ":=d", ":tr/a/b"], IsOperation o.toList) ∧
      (path.expand "${path}".toList).map (fun (t, u) => (t, u.references.contains "path:-d".toList)) =
        some (.ok "-d".toList, true) ∧
      (regex.expand "${regex}".toList).map (fun (t, u) => (t, u.references.contains "regex:=d".toList)) =
        some (.ok "=d".toList, true) ∧
      (ref.expand "${ref}".toList).map (·.1) = some (.ok "x".toList) ∧
      (part.expand "${ref}".toList).map (·.1) = some (.ok "cbb".toList) ∧
      path.expand "${path}".toList ≠ some (.ok "${path:-d}".toList, path) ∧
      regex.expand "${regex}".toList ≠ some (.ok "${regex:=d}".toList, regex) ∧
      ref.expand "${ref}".toList ≠ some (.ok "${ref:-d}".toList, ref) ∧
      part.expand "${ref}".toList ≠ some (.ok "${ref:tr/a/b}".toList, part) := by
  intro path regex ref part
  have hpath : (path.expand "${path}".toList).map
      (fun (t, u) => (t, u.references.contains "path:-d".toList)) =
        some (.ok "-d".toList, true) := by decide +kernel
  have hregex : (regex.expand "${regex}".toList).map
      (fun (t, u) => (t, u.references.contains "regex:=d".toList)) =
        some (.ok "=d".toList, true) := by decide +kernel
  have href : (ref.expand "${ref}".toList).map (·.1) = some (.ok "x".toList) := by decide +kernel
  have hpart : (part.expand "${ref}".toList).map (·.1) = some (.ok "cbb".toList) := by decide +kernel
  have operations : ∀ o ∈ [":-d", ":=d", ":tr/a/b"], IsOperation o.toList := by
    intro o ho
    simp only [List.mem_cons, List.not_mem_nil, or_false] at ho
    rcases ho with rfl | rfl | rfl
    · exact .text (d := ['d']) (by decide) (by decide)
    · exact .text (d := ['d']) (by decide) (by decide)
    · exact .transliteration (a := ['a']) (b := ['b']) (by decide) (by decide)
  refine ⟨by decide, operations, hpath, hregex, href, hpart, fun h => ?_, fun h => ?_, fun h => ?_,
    fun h => ?_⟩
  · rw [h] at hpath
    exact absurd hpath (by decide +kernel)
  · rw [h] at hregex
    exact absurd hregex (by decide +kernel)
  · rw [h] at href
    exact absurd href (by decide)
  · rw [h] at hpart
    exact absurd hpart (by decide)

end Store

end Interpolation
