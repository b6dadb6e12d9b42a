import Interpolation.Prefixed.Strategy
import Interpolation.Proofs.Strategy.Prefixes
import Mathlib.Data.List.Induction

/-!
# Strategies that are reconfigured

A strategy keyed on a prefix may be given another prefix or another delimiter between two evaluations. The
pattern that it keeps is always that of its delimiter, so it answers as one that is new.

* `PrefixStrategy.lastPrefix` and `PrefixStrategy.lastDelimiter` are what requests ask for last;
  `PrefixStrategy.wanted_run` and `PrefixStrategy.delimiter_run` say that the key holds them;
* `PrefixStrategy.Coherent` ties the pattern that is kept to the key; `PrefixStrategy.Coherent.after` is one
  request, and `PrefixStrategy.Coherent.run` any number of them;
* `PrefixStrategy.evaluate_run`: after any requests a token is cut at the last delimiter and its prefix is compared
  with the last prefix.
-/

namespace Interpolation.PrefixStrategy

variable {s : PrefixStrategy} {k : PrefixKey}

/-! ## What has been asked for last -/

/-- The prefix that a request sets. -/
def Request.givenPrefix? : Request → Option Text
  | .setPrefix t => some t
  | .setDelimiter _ | .evaluate _ => none

/-- The delimiter that a request sets. The empty text is none. -/
def Request.givenDelimiter? : Request → Option Text
  | .setDelimiter t => if t = [] then none else some t
  | .setPrefix _ | .evaluate _ => none

/-- The prefix that is set last, if any is set. -/
def lastPrefix (k : PrefixKey) (requests : List Request) : Option Text :=
  (requests.filterMap Request.givenPrefix?).getLast?.or k.wanted

/-- The delimiter that is set last, without the empty ones. -/
def lastDelimiter (k : PrefixKey) (requests : List Request) : Text :=
  (requests.filterMap Request.givenDelimiter?).getLast?.getD k.delimiter.text

@[simp] theorem key_setPrefix (s : PrefixStrategy) (t : Text) : (s.setPrefix t).key = s.key.setPrefix t := rfl

@[simp] theorem tokens_setPrefix (s : PrefixStrategy) (t : Text) : (s.setPrefix t).tokens = s.tokens := rfl

@[simp] theorem key_split? (s : PrefixStrategy) (token : Text) : (s.split? token).2.key = s.key := rfl

/-- The empty delimiter is refused, and nothing changes. -/
theorem setDelimiter_nil (s : PrefixStrategy) :
    s.setDelimiter [] = (.error (.configuration .emptyDelimiter), s) := rfl

/-- Any other delimiter is taken, along with its pattern, of which nothing has been compiled. -/
theorem setDelimiter_of_ne_nil (s : PrefixStrategy) {t : Text} (h : t ≠ []) :
    s.setDelimiter t = (.ok (), ofKey { s.key with delimiter := ⟨t, h⟩ }) := by
  simp [setDelimiter, PrefixKey.setDelimiter, Delimiter.ofText, h, Except.map, ofKey,
    CompiledPattern.setSource, CompiledPattern.ofSource]

theorem wanted_after (s : PrefixStrategy) (r : Request) :
    (s.after r).key.wanted = r.givenPrefix?.or s.key.wanted := by
  cases r with
  | setPrefix | evaluate => rfl
  | setDelimiter t =>
    by_cases h : t = []
    · subst h
      rfl
    · simp [after, setDelimiter_of_ne_nil s h, ofKey, Request.givenPrefix?]

theorem delimiter_after (s : PrefixStrategy) (r : Request) :
    (s.after r).key.delimiter.text = r.givenDelimiter?.getD s.key.delimiter.text := by
  cases r with
  | setPrefix | evaluate => rfl
  | setDelimiter t =>
    by_cases h : t = []
    · subst h
      rfl
    · simp [after, setDelimiter_of_ne_nil s h, ofKey, Request.givenDelimiter?, h]

@[simp] theorem run_nil (s : PrefixStrategy) : s.run [] = s := rfl

theorem run_concat (s : PrefixStrategy) (rs : List Request) (r : Request) :
    s.run (rs ++ [r]) = (s.run rs).after r := by
  simp [run]

/-- The prefix is the one that has been set last. -/
theorem wanted_run (k : PrefixKey) (rs : List Request) : ((ofKey k).run rs).key.wanted = lastPrefix k rs := by
  induction rs using List.reverseRecOn with
  | nil => rfl
  | append_singleton rs r ih =>
    rw [run_concat, wanted_after, ih]
    cases hr : r.givenPrefix? <;> simp [lastPrefix, hr]

/-- The delimiter is the one that has been set last. -/
theorem delimiter_run (k : PrefixKey) (rs : List Request) :
    ((ofKey k).run rs).key.delimiter.text = lastDelimiter k rs := by
  induction rs using List.reverseRecOn with
  | nil => rfl
  | append_singleton rs r ih =>
    rw [run_concat, delimiter_after, ih]
    cases hr : r.givenDelimiter? <;> simp [lastDelimiter, hr]

/-! ## The pattern that is kept -/

/-- The pattern that is kept is that of the delimiter, compiled or not. -/
structure Coherent (s : PrefixStrategy) : Prop where
  source : s.tokens.source = some s.key.source
  compiled : ∀ q ∈ s.tokens.compiled, Pattern.read (TokenPattern.anchored s.key.source) = .ok q

namespace Coherent

protected theorem ofKey (k : PrefixKey) : (ofKey k).Coherent :=
  ⟨rfl, by simp [PrefixStrategy.ofKey, CompiledPattern.ofSource]⟩

/-- What is compiled is what the source is read as. -/
theorem compile (h : s.Coherent) : s.tokens.compile.1 =
    (Pattern.read (TokenPattern.anchored s.key.source)).mapError Error.pattern := by
  unfold CompiledPattern.compile
  cases hq : s.tokens.compiled with
  | some q => simp [h.compiled q hq, Except.mapError]
  | none =>
    rw [h.source]
    cases hread : Pattern.read (TokenPattern.anchored s.key.source) <;> simp [hread, Except.mapError]

/-- Compiling keeps what is kept coherent. -/
theorem of_compile (h : s.Coherent) : ({ s with tokens := s.tokens.compile.2 } : PrefixStrategy).Coherent := by
  unfold CompiledPattern.compile
  cases hq : s.tokens.compiled with
  | some q => exact ⟨h.source, fun q' hq' => h.compiled q' hq'⟩
  | none =>
    simp only [h.source]
    cases hread : Pattern.read (TokenPattern.anchored s.key.source) with
    | error fault => exact ⟨h.source, h.compiled⟩
    | ok q => exact ⟨rfl, by simp [hread]⟩

/-- An evaluation keeps what is kept coherent. -/
theorem of_split? (h : s.Coherent) (token : Text) : (s.split? token).2.Coherent := by
  by_cases he : token = engineProperty
  · simpa [split?, CompiledPattern.groups?, he] using h
  · simpa [split?, CompiledPattern.groups?, he] using h.of_compile

/-- One request keeps what is kept coherent. -/
theorem after (h : s.Coherent) (r : Request) : (s.after r).Coherent := by
  cases r with
  | setPrefix t => exact ⟨h.source, h.compiled⟩
  | setDelimiter t =>
    by_cases ht : t = []
    · subst ht
      exact h
    · rw [PrefixStrategy.after, setDelimiter_of_ne_nil s ht]
      exact .ofKey _
  | evaluate token => exact h.of_split? token

/-- Any number of requests keeps what is kept coherent. -/
theorem run (h : s.Coherent) (rs : List Request) : (s.run rs).Coherent := by
  induction rs using List.reverseRecOn with
  | nil => exact h
  | append_singleton rs r ih =>
    rw [run_concat]
    exact ih.after r

/-- The groups are found as if nothing had been compiled before. -/
theorem groups? (h : s.Coherent) (token : Text) :
    (s.tokens.groups? token).1 = s.key.pattern.groups? token := by
  by_cases he : token = engineProperty
  · simp [CompiledPattern.groups?, TokenPattern.groups?, he]
  · simp only [CompiledPattern.groups?, TokenPattern.groups?, if_neg he, PrefixKey.pattern, h.compile]
    cases hread : Pattern.read (TokenPattern.anchored s.key.source) <;> rfl

/-- A token is taken apart as the key says. -/
theorem split? (h : s.Coherent) (token : Text) : (s.split? token).1 = s.key.split? token := by
  rw [PrefixKey.split?, ← h.groups? token]
  rfl

/-- A token is evaluated as the key says. -/
theorem evaluate (h : s.Coherent) (resolve : Text → Text → Eval (Option Value)) (token : Text) :
    (s.evaluate resolve token).1 = (do
      match ← Eval.ofExcept (s.key.split? token) with
      | none => pure none
      | some (before, property) => resolve property before) := by
  rw [← h.split? token]
  rfl

end Coherent

/-- After any requests, the failed ones included, a token without the last delimiter is not answered, and any
other one is cut at the first place where the last delimiter stands: then there has to be a prefix, and the
text in front has to be the last one. The empty delimiter is refused, and nothing changes. -/
theorem evaluate_run (k : PrefixKey) (requests : List Request) (resolve : Text → Text → Eval (Option Value))
    {token : Text} (he : token ≠ engineProperty) (hline : '\n' ∉ token) :
    let s := (ofKey k).run requests
    let d := lastDelimiter k requests
    (¬d <:+: token → (s.evaluate resolve token).1 = pure none) ∧
      (∀ u w, token = u ++ (d ++ w) →
        (∀ u' w', token = u' ++ (d ++ w') → u.length ≤ u'.length) →
        (s.evaluate resolve token).1 = match lastPrefix k requests with
          | none => Eval.fail (.configuration .prefixUnset)
          | some p => if u = p then resolve w p else pure none) ∧
      s.setDelimiter [] = (.error (.configuration .emptyDelimiter), s) := by
  intro s d
  have hs : s.Coherent := (Coherent.ofKey k).run requests
  have hd : s.key.delimiter.text = d := delimiter_run k requests
  refine ⟨fun hd' => ?_, fun u w ht hfirst => ?_, rfl⟩
  · rw [hs.evaluate, s.key.split?_eq_none (hd ▸ hd')]
    rfl
  · rw [← hd] at ht hfirst
    rw [hs.evaluate, s.key.split?_of_first he hline ht hfirst, ← wanted_run k requests]
    change _ = match s.key.wanted with
      | none => _
      | some p => _
    cases hw : s.key.wanted with
    | none =>
      have hunset : s.key.canInterpret u = .error (.configuration .prefixUnset) := by
        rw [PrefixKey.canInterpret, hw]
      rw [hunset]
      rfl
    | some p =>
      have hright : s.key.canInterpret u = .ok (u = p) := by
        simp only [PrefixKey.canInterpret, hw, eq_comm]
      rw [hright]
      dsimp only
      by_cases hp : u = p
      · rw [decide_eq_true hp, if_pos hp, hp]
        rfl
      · rw [decide_eq_false hp, if_neg hp]
        rfl

/-- The delimiter `..` is not any two characters, its first place is taken although it overlaps with another
one, and neither the prefix that is set later nor the empty delimiter changes it. -/
theorem evaluate_run_dots :
    "xy....z".toList ≠ engineProperty ∧ '\n' ∉ "xy....z".toList ∧
      (((ofKey {}).run [.evaluate "xy:z".toList, .setDelimiter "..".toList, .evaluate "xy:z".toList,
        .setPrefix "xy".toList, .setDelimiter []]).evaluate
          (fun property before => pure (some (.text (before ++ '|' :: property)))) "xy....z".toList).1 =
        pure (some (.text "xy|..z".toList)) := by
  have he : "xy....z".toList ≠ engineProperty := by decide
  have hline : '\n' ∉ "xy....z".toList := by decide
  refine ⟨he, hline, (evaluate_run {} [.evaluate "xy:z".toList, .setDelimiter "..".toList,
    .evaluate "xy:z".toList, .setPrefix "xy".toList, .setDelimiter []]
    (fun property before => pure (some (.text (before ++ '|' :: property)))) he hline).2.1
      "xy".toList "..z".toList rfl ?_⟩
  intro u' w' ht
  replace ht : "xy....z".toList = u' ++ ("..".toList ++ w') := ht
  match u', ht with
  | [], ht | [_], ht => simp at ht
  | _ :: _ :: _, _ => simp

end Interpolation.PrefixStrategy
