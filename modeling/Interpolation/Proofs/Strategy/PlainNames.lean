import Interpolation.Proofs.Evaluation.Rules
import Interpolation.Proofs.Operator.Grammar
import Interpolation.Proofs.Strategy.Prefixes
import Interpolation.Proofs.Text.Cutting
import Interpolation.Strategy

/-!
# Plain names

A plain name is a letter followed by letters, digits, underscores and dots. As a token it means
nothing to any strategy, so that a property of this name has the value that is stored, or none.

* `Text.isPlainName` tells plain names, `Text.isTokenChar` the characters of names and operators;
* `Strategy.run_referencesBy` and `Strategy.evaluate_logical_eq_none` with their companions: strategies
  that have no answer for a plain name, nor for other tokens of this kind;
* `Strategy.evaluate_encodeUrlBy_text` and `Strategy.evaluate_encodeUrlBy_sign`: a plain name with an
  operator behind it is no address, even if it is the prefix of addresses;
* `Strategy.evaluate_componentTypes_eq_none`: where no type constructs anything from what is behind
  the colon, a token with a plain name in front of it is no object.
-/

namespace Interpolation

namespace Text

/-- An ASCII letter or digit, an underscore or a dot. -/
def isNameChar (c : Char) : Bool :=
  c.isAlphanum || c = '_' || c = '.'

/-- A character of names, or one of operators on the property named. -/
def isTokenChar (c : Char) : Bool :=
  isNameChar c || [':', '-', '=', '?', '#', '%', '/'].elem c

/-- A letter followed by characters of names. -/
def isPlainName : Text → Bool
  | [] => false
  | c :: cs => c.isAlpha && cs.all isNameChar

variable {x : Text}

theorem isNameChar_of_mem (hx : x.isPlainName) : ∀ c ∈ x, isNameChar c := by
  cases x with
  | nil => exact nofun
  | cons c cs =>
    simp only [isPlainName, Bool.and_eq_true, List.all_eq_true] at hx
    intro e he
    rcases List.mem_cons.1 he with rfl | he
    · simp [isNameChar, Char.isAlphanum, hx.1]
    · exact hx.2 e he

/-- Signs do not stand in plain names. -/
theorem not_mem_of_isPlainName (hx : x.isPlainName) {c : Char} (hc : isNameChar c = false) :
    c ∉ x := by
  intro hm
  rw [isNameChar_of_mem hx c hm] at hc
  exact absurd hc (by decide)

theorem isTokenChar_of_isPlainName (hx : x.isPlainName) : ∀ c ∈ x, isTokenChar c := fun c hc => by
  rw [isTokenChar, isNameChar_of_mem hx c hc]
  rfl

end Text

/-! ## Addresses -/

namespace Url

variable {c : Char}

/-- An address begins with a letter. -/
theorem readScheme?_eq_none (hc : c.isAlpha = false) (t : Text) : readScheme? (c :: t) = none := by
  unfold readScheme?
  dsimp only
  split
  · rename_i e es rest htake hdrop
    rw [List.takeWhile_cons] at htake
    split at htake
    · obtain ⟨rfl, -⟩ := List.cons.inj htake
      rw [hc]
      rfl
    · cases htake
  · rfl

/-- A text whose last characters are dropped as long as they are of a kind keeps the first one,
unless it is of this kind as well. -/
theorem exists_cons_of_dropEnd (kind : Char → Bool) (hc : kind c = false) (t : Text) :
    ∃ t', ((c :: t).reverse.dropWhile kind).reverse = c :: t' := by
  rw [List.reverse_cons, List.dropWhile_append]
  split
  · simp [hc]
  · exact ⟨(t.reverse.dropWhile kind).reverse, by simp⟩

/-- A text that begins with a sign is no address. -/
theorem normalize_eq_error (hc : c ∈ ['-', '=', '?']) (t : Text) :
    normalize (c :: t) = .error .relative := by
  have blank : decide (c.toNat ≤ 32) = false := by
    simp only [List.mem_cons, List.not_mem_nil, or_false] at hc
    rcases hc with rfl | rfl | rfl <;> decide
  have kept : (c != '\t' && c != '\n' && c != '\r') = true := by
    simp only [List.mem_cons, List.not_mem_nil, or_false] at hc
    rcases hc with rfl | rfl | rfl <;> decide
  have alpha : c.isAlpha = false := by
    simp only [List.mem_cons, List.not_mem_nil, or_false] at hc
    rcases hc with rfl | rfl | rfl <;> decide
  obtain ⟨t', ht⟩ := exists_cons_of_dropEnd (fun c => decide (c.toNat ≤ 32)) blank t
  have hread : read (c :: t) = .error .relative := by
    unfold read
    dsimp only
    rw [List.dropWhile_cons, blank, if_neg (by decide), ht, List.filter_cons, if_pos kept,
      readScheme?_eq_none alpha]
  rw [normalize, hread]
  rfl

/-- A text without a colon is no address. -/
theorem normalize_eq_error_of_not_mem {t : Text} (h : ':' ∉ t) : normalize t = .error .relative := by
  have scheme : ∀ u : Text, (∀ e ∈ u, e ∈ t) → readScheme? u = none := by
    intro u hu
    unfold readScheme?
    dsimp only
    split
    · rename_i rest _ hdrop
      have hcolon : ':' ∈ u := (List.dropWhile_sublist _).mem (hdrop ▸ List.mem_cons_self)
      exact absurd (hu _ hcolon) h
    · rfl
  have hread : read t = .error .relative := by
    unfold read
    dsimp only
    rw [scheme _ fun e he => ?_]
    have htrimmed := List.mem_reverse.1 (List.mem_filter.1 he).1
    have hback := (List.dropWhile_sublist _).mem htrimmed
    exact (List.dropWhile_sublist _).mem (List.mem_reverse.1 hback)
  rw [normalize, hread]
  rfl

end Url

/-! ## Strategies -/

variable {host : Host} {x d : Text} {c : Char}

/-- A pattern that demands another character takes no token of characters of a kind. -/
theorem recognize?_eq_none_of_forall {p : Pattern} {kind : Char → Bool} (hx : ∀ c ∈ x, kind c)
    (hp : p.demands fun c => !kind c) : recognize? p x = none :=
  recognize?_eq_none_of_demands hp fun c hc => by
    rw [hx c hc]
    rfl

namespace Strategy

theorem evaluate_logical_eq_none (hx : ∀ c ∈ x, Text.isTokenChar c) :
    Strategy.logical.evaluate host x = pure none := by
  rw [evaluate, Logical.evaluate?, recognize?_eq_none_of_forall hx (by decide)]
  rfl

theorem evaluate_conditions_eq_none (hx : ∀ c ∈ x, Text.isTokenChar c) :
    Strategy.conditions.evaluate host x = pure none := by
  rw [evaluate, ConditionToken.evaluate, recognize?_eq_none_of_forall hx (by decide)]

theorem evaluate_componentTypes_plainName (hx : x.isPlainName) :
    (Strategy.componentTypes .colon).evaluate host x = pure none := by
  have hs : Text.splitOnce? Delimiter.colon.text x = none :=
    Text.splitOnce?_eq_none (Text.not_mem_of_isPlainName hx (by decide))
  rw [evaluate, constructComponent, hs]

/-- A token with a plain name in front of a sign constructs no object, if what is behind a colon is
nothing to construct one from. -/
theorem evaluate_componentTypes_eq_none (hx : x.isPlainName) (hd : ':' ∉ d)
    (h : c = ':' → ∀ type, host.objectType? x = some type →
      ∃ e, type.construct host.toProperties d = Eval.fail e) :
    (Strategy.componentTypes .colon).evaluate host (x ++ c :: d) = pure none := by
  have hcolon : ':' ∉ x := Text.not_mem_of_isPlainName hx (by decide)
  rw [evaluate, constructComponent]
  by_cases hc : c = ':'
  · subst hc
    have hs : Text.splitOnce? Delimiter.colon.text (x ++ ':' :: d) = some (x, d) :=
      Text.splitOnce?_append hcolon d
    rw [hs]
    dsimp only
    cases ht : host.objectType? x with
    | none => rfl
    | some type =>
      obtain ⟨e, he⟩ := h rfl type ht
      simp only [he]
      rfl
  · have hs : Text.splitOnce? Delimiter.colon.text (x ++ c :: d) = none :=
      Text.splitOnce?_eq_none fun hm => by
        rcases List.mem_append.1 hm with hm | hm
        · exact hcolon hm
        · exact (List.mem_cons.1 hm).elim (fun he => hc he.symm) hd
    rw [hs]

/-- Nothing is registered under the id in a token, if it has the form of a reference. -/
def Unregistered (references : TextMap Value) (token : Text) : Prop :=
  ∀ id, token = "ref".toList ++ ':' :: id → references.get? id = none

theorem unregistered_of_not_mem {token : Text} (h : ':' ∉ token) (references : TextMap Value) :
    Unregistered references token := fun id hid => absurd (by simp [hid]) h

/-- A plain name with a colon and something behind it is a reference only if it is the prefix of these. -/
theorem unregistered_of_plainName {references : TextMap Value} (hx : x.isPlainName)
    (h : x = "ref".toList → references.get? d = none) : Unregistered references (x ++ ':' :: d) := by
  intro id hid
  obtain ⟨hx', -, rfl⟩ | ⟨z, hz, -⟩ := append_cons_cases (Text.not_mem_of_isPlainName hx (by decide)) hid
  · exact h hx'.symm
  · -- the prefix has no colon
    have : ':' ∈ "ref".toList := by rw [hz]; simp
    exact absurd this (by decide)

/-- A token with an id under which nothing is registered is no reference. -/
theorem run_referencesBy (hr : host.reference? = Host.storedReference) {s : State} {token : Text}
    (hs : Unregistered s.references token) :
    (referencesBy .colon).evaluate host token s = some (.ok none, s) := by
  rw [referencesBy, evaluate]
  rcases PrefixKey.split?_cases "ref".toList .colon token with h | ⟨b, hb, h⟩
  · rw [h]
    rfl
  · rw [h, hr]
    show Host.storedReference b s = _
    rw [Host.storedReference, Eval.ask, hs b hb]

/-- A registered value is fetched by reference. -/
theorem run_referencesBy_registered {s : State} {token : Text}
    (href : host.reference? = Host.storedReference) (hline : '\n' ∉ token) :
    (referencesBy .colon).evaluate host ("ref".toList ++ ':' :: token) s =
      some (.ok (s.references.get? token), s) := by
  have hsplit : PrefixKey.split? ⟨some "ref".toList, .colon⟩ ("ref".toList ++ ':' :: token) =
      .ok (some ("ref".toList, token)) :=
    PrefixKey.split?_append (by decide) (by simpa using hline)
  rw [referencesBy, evaluate, hsplit, href]
  rfl

/-- A token is no address if nothing behind the prefix is one. -/
theorem evaluate_encodeUrlBy {token : Text} (h : ∀ b, token = "encodeURL".toList ++ ':' :: b →
      (Url.normalize b).toOption = none) :
    (encodeUrlBy .colon).evaluate host token = pure none := by
  rw [encodeUrlBy, evaluate]
  rcases PrefixKey.split?_cases "encodeURL".toList .colon token with hs | ⟨b, hb, hs⟩
  · rw [hs]
    rfl
  · rw [hs]
    show (pure ((Url.normalize b).toOption.map Value.text) : Eval (Option Value)) = _
    rw [h b hb]
    rfl

/-- Without a colon a token is no address. -/
theorem evaluate_encodeUrlBy_of_not_mem {token : Text} (h : ':' ∉ token) :
    (encodeUrlBy .colon).evaluate host token = pure none :=
  evaluate_encodeUrlBy fun b hb => absurd (by simp [hb]) h

/-- Behind the prefix of addresses, a sign is not the start of one. -/
theorem evaluate_encodeUrlBy_text (hx : x.isPlainName) (hc : c ∈ ['-', '=', '?']) :
    (encodeUrlBy .colon).evaluate host (x ++ ':' :: c :: d) = pure none :=
  evaluate_encodeUrlBy fun b hb => by
    rcases append_cons_cases (Text.not_mem_of_isPlainName hx (by decide)) hb with
      ⟨-, -, rfl⟩ | ⟨z, hz, -⟩
    · rw [Url.normalize_eq_error hc]
      rfl
    · -- the prefix has no colon
      have : ':' ∈ "encodeURL".toList := by rw [hz]; simp
      exact absurd this (by decide)

/-- Behind the prefix of addresses, a text without a colon is not one. -/
theorem evaluate_encodeUrlBy_sign (hx : x.isPlainName) (hd : ':' ∉ d) :
    (encodeUrlBy .colon).evaluate host (x ++ c :: d) = pure none :=
  evaluate_encodeUrlBy fun b hb => by
    rcases append_cons_cases (Text.not_mem_of_isPlainName hx (by decide)) hb with
      ⟨-, -, rfl⟩ | ⟨z, -, rfl⟩
    · rw [Url.normalize_eq_error_of_not_mem hd]
      rfl
    · exact absurd (List.mem_append_right z List.mem_cons_self) hd

end Strategy

end Interpolation
