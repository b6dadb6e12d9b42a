import Interpolation.Proofs.Operator.Reader
import Interpolation.Proofs.Pattern.Preference

/-!
# Slices of values

A token of the operator for slices names a property and gives one index or two, in digits.

* `Operator.exists_groups_of_recognize?_slice`: the groups of such a token, and
  `Operator.exists_recognize?_slice`: a token is cut behind a name that does not end like a slice
  itself;
* `Operator.readIndex_of_ascii` and `Operator.readIndex_of_not_ascii`: ASCII digits denote a number, up
  to the greatest index, any others the greatest index;
* `Operator.evaluate_slice`: the characters between the indices or an index out of range, and the two
  parts of a value that is cut at an index make up the value.
-/

namespace Interpolation

namespace Operator

open Pattern Grammar

variable {x v t ds : Text} {g : Groups} {n k : Nat} {host : Host} {st st' : State}

/-! ## Indices -/

theorem toNat?_of_ascii (hds : ds ≠ []) (h : ds.all Char.isDigit) :
    Text.toNat? ds = some (Text.digitsValue ds) := by
  rw [Text.toNat?, if_pos (by simpa [hds] using h)]

theorem readIndex_of_ascii (hds : ds ≠ []) (h : ds.all Char.isDigit) :
    readIndex ds = min (Text.digitsValue ds) maxIndex := by
  rw [readIndex, toNat?_of_ascii hds h]

theorem readIndex_of_not_ascii (h : ¬ds.all Char.isDigit) : readIndex ds = maxIndex := by
  rw [readIndex, Text.toNat?, if_neg (by simp [h])]

/-- The digits of a number denote it. -/
theorem digitsValue_ofNat (n : Nat) : Text.digitsValue (Text.ofNat n) = n :=
  Nat.ofDigitChars_ten_toDigits

theorem all_isDigit_ofNat (n : Nat) : (Text.ofNat n).all Char.isDigit :=
  List.all_eq_true.2 fun _ hc => Nat.isDigit_of_mem_toDigits (by decide) (by decide) hc

/-- An ASCII digit is a digit. -/
theorem isDecimalDigit_of_isDigit {c : Char} (h : c.isDigit) : Unicode.isDecimalDigit c := by
  have hc := h
  simp only [Char.isDigit, Bool.and_eq_true, decide_eq_true_eq, UInt32.le_iff_toNat_le] at hc
  have : c.toNat < 128 := Nat.lt_of_le_of_lt hc.2 (by decide)
  rw [Unicode.isDecimalDigit, if_pos this, h]

theorem isDigits_ofNat (n : Nat) : (Text.ofNat n).IsDigits :=
  ⟨Nat.toDigits_ne_nil, fun c hc =>
    isDecimalDigit_of_isDigit (List.all_eq_true.1 (all_isDigit_ofNat n) c hc)⟩

/-! ## Groups of a token -/

/-- The ways over a second index, if there is one. -/
theorem mem_ways_opt_index {w : Way} {s : Place} :
    w ∈ (Pattern.opt .greedy (.seq (Grammar.sign ':') (.group 3 substringGrammar.digits))).ways s ↔
      w = .stay s ∨ ∃ es r : Text, es.IsDigits ∧ s.rest = ':' :: (es ++ r) ∧
        w = catching 3 (s.past [':'] (es ++ r)) es r := by
  rw [mem_ways_opt, mem_ways_seq]
  refine or_congr_right ?_
  constructor
  · rintro ⟨x, hx, y, hy, rfl⟩
    obtain ⟨_, r, hr, hcolon, rfl⟩ := (mem_ways_of_isPlain rfl).1 hx
    obtain rfl := takes_sign.1 hcolon
    obtain ⟨es, r', hr', hes, rfl⟩ := (mem_ways_group_of_isPlain rfl).1 hy
    replace hr' : r = es ++ r' := hr'
    subst hr'
    exact ⟨es, r', takes_digits.1 hes, hr, rfl⟩
  · rintro ⟨es, r, hes, hr, rfl⟩
    exact ⟨_, (mem_ways_of_isPlain rfl).2 ⟨[':'], es ++ r, hr, takes_sign.2 rfl, rfl⟩, _,
      (mem_ways_group_of_isPlain rfl).2 ⟨es, r, rfl, takes_digits.2 hes, rfl⟩, rfl⟩

/-- The groups of a slice: the name, the first index and perhaps another one. -/
theorem groups_of_catching {s : Place} {r ds r' : Text} {w a : Way}
    (ht : t = x ++ ':' :: (ds ++ r')) (hs : s.index = x.length + 1)
    (hw : w = (catching 1 (.start t) x r).andThen ((catching 2 s ds r').andThen a))
    (ha : ∀ m ∈ a.marks, m.number = 3) :
    (substringGrammar.groupsOf t 0 w).text 1 = x ∧ (substringGrammar.groupsOf t 0 w).text 2 = ds ∧
      (substringGrammar.groupsOf t 0 w).get? 3 =
        (a.span? 3).map fun (start, stop) => Pattern.slice t start stop := by
  have hne (n : Nat) (h : n ≠ 3) : ∀ m ∈ a.marks, m.number ≠ n := fun m hm => ha m hm ▸ h.symm
  have second : w.span? (2 + 1) = a.span? 3 := by
    rw [hw, Way.span?_andThen_right (Way.marks_catching_ne (by decide)),
      Way.span?_andThen_right (Way.marks_catching_ne (by decide))]
  refine ⟨?_, ?_, by rw [get?_groupsOf (by decide), second]⟩
  · refine text_one_of_catching hw (by decide) (fun m hm => ?_) ht
    exact (List.mem_append.1 hm).elim (Way.marks_catching_ne (by decide) m) (hne 1 (by decide) m)
  · exact text_groupsOf_catching hw (by decide) (hne 2 (by decide)) (v := x ++ [':']) (z := r')
      (by simp [ht]) (by simp [hs])

/-- A token that is read as a slice consists of a name and one index or two, and these are its groups. -/
theorem exists_groups_of_recognize?_slice (h : recognize? substringGrammar t = some g) :
    (g.text 2).IsDigits ∧ ((t = g.text 1 ++ ':' :: g.text 2 ∧ g.get? 3 = none) ∨
      ∃ es : Text, es.IsDigits ∧ t = g.text 1 ++ ':' :: (g.text 2 ++ ':' :: es) ∧ g.get? 3 = some es) := by
  obtain ⟨-, w, hw, hstop, rfl⟩ := exists_way_of_recognize? h
  obtain ⟨u, r, hr, -, y, hy, hwy⟩ := (mem_ways_seqs_group rfl).1 hw
  obtain ⟨_, r', hr', hcolon, hy⟩ := (mem_ways_seqs_plain rfl).1 hy
  obtain rfl := takes_sign.1 hcolon
  obtain ⟨ds, r'', hr'', hds, z, hz, rfl⟩ := (mem_ways_seqs_group rfl).1 hy
  obtain ⟨a, ha, b, hb, rfl⟩ := mem_ways_seqs_cons.1 hz
  obtain rfl := mem_ways_seqs_nil.1 hb
  rw [andThen_stay] at hwy
  replace hr' : r = ':' :: r' := hr'
  replace hr'' : r' = ds ++ r'' := hr''
  have ht : t = u ++ ':' :: (ds ++ r'') := by rw [← hr'', ← hr']; exact hr
  have hmarks : ∀ m ∈ a.marks, m.number = 3 := fun m hm => by
    simpa [groupNumbers, Grammar.sign, substringGrammar.digits] using number_mem_of_mem_marks _ _ a ha m hm
  obtain ⟨hname, hfirst, hsecond⟩ := groups_of_catching ht (by simp [Place.start]) hwy hmarks
  rw [hname, hfirst, hsecond]
  refine ⟨takes_digits.1 hds, ?_⟩
  rw [hwy] at hstop
  obtain rfl | ⟨es, r, hes, hr, rfl⟩ := mem_ways_opt_index.1 ha
  · obtain rfl : r'' = [] := hstop
    rw [List.append_nil] at ht
    exact .inl ⟨ht, rfl⟩
  · obtain rfl : r = [] := hstop
    obtain rfl : r'' = ':' :: (es ++ []) := hr
    rw [List.append_nil] at ht
    have ht' : t = (u ++ ':' :: (ds ++ [':'])) ++ (es ++ []) := by simp [ht]
    refine .inr ⟨es, hes, ht, ?_⟩
    rw [Way.span?_catching, Option.map_some, ht']
    exact congrArg some (slice_append _ _ _ (by simp [Place.start, Nat.add_assoc, Nat.add_comm 1]))

/-! ## Tokens that are cut behind a name -/

/-- Where a name that does not end like a slice stands in front of indices, no part of the name belongs
to the indices. -/
theorem not_takes_indices_append {u v : Text} (hv : (Pattern.seqs indices).Takes v) (hu : u ≠ [])
    (hends : ∀ ds : Text, ds.IsDigits → u ≠ ':' :: ds) : ¬(Pattern.seqs indices).Takes (u ++ v) := by
  intro h
  obtain ⟨w, rfl, -⟩ := exists_of_takes_indices hv
  obtain ⟨c, u, rfl⟩ := List.exists_cons_of_ne_nil hu
  obtain ⟨ds, hds, h⟩ := takes_indices.1 h
  simp only [List.cons_append, List.cons.injEq] at h
  rcases h with ⟨-, h⟩ | ⟨es, hes, rfl, hcut⟩
  · exact hds.colon_not_mem (by simp [← h])
  · rcases append_cons_cases hds.colon_not_mem hcut.symm with ⟨rfl, -, -⟩ | ⟨z, -, rfl⟩
    · exact hends u hds rfl
    · exact hes.colon_not_mem (by simp)

/-- A token is cut behind a name that does not end like a slice itself. -/
theorem exists_recognize?_slice {v : Text} (hx : '\n' ∉ x) (hends : ¬x.EndsInSlice)
    (hv : (Pattern.seqs indices).Takes v) :
    ∃ g, recognize? substringGrammar (x ++ v) = some g ∧ g.text 1 = x := by
  have hne : x ++ v ≠ engineProperty := by
    obtain ⟨w, rfl, -⟩ := exists_of_takes_indices hv
    exact ne_engineProperty_of_mem (c := ':') (by simp) (by decide)
  refine exists_recognize?_of_shortest rfl (by decide) (by decide) hne
    (contains_notNewline hx) hv fun a b hab hb => ?_
  exact not_takes_indices_append hv hb fun ds hds hbds => hends ⟨a, ds, by rw [hab, hbds], hds⟩

/-- The token with one index. -/
theorem exists_recognize?_slice_from (hx : '\n' ∉ x) (hends : ¬x.EndsInSlice) (hds : ds.IsDigits) :
    ∃ g, recognize? substringGrammar (x ++ ':' :: ds) = some g ∧ g.text 1 = x ∧ g.text 2 = ds ∧
      g.get? 3 = none := by
  obtain ⟨g, hg, rfl⟩ := exists_recognize?_slice hx hends (takes_indices.2 ⟨ds, hds, .inl rfl⟩)
  refine ⟨g, hg, rfl, ?_⟩
  obtain ⟨-, ⟨ht, hget⟩ | ⟨es, -, ht, -⟩⟩ := exists_groups_of_recognize?_slice hg
  · exact ⟨(List.cons.inj (List.append_cancel_left ht)).2.symm, hget⟩
  · rw [(List.cons.inj (List.append_cancel_left ht)).2] at hds
    exact absurd (by simp) hds.colon_not_mem

/-- The token with two indices. -/
theorem exists_recognize?_slice_between {es : Text} (hx : '\n' ∉ x) (hends : ¬x.EndsInSlice)
    (hds : ds.IsDigits) (hes : es.IsDigits) :
    ∃ g, recognize? substringGrammar (x ++ ':' :: (ds ++ ':' :: es)) = some g ∧ g.text 1 = x ∧
      g.text 2 = ds ∧ g.get? 3 = some es := by
  obtain ⟨g, hg, rfl⟩ :=
    exists_recognize?_slice hx hends (takes_indices.2 ⟨ds, hds, .inr ⟨es, hes, rfl⟩⟩)
  refine ⟨g, hg, rfl, ?_⟩
  obtain ⟨hfirst, ⟨ht, -⟩ | ⟨es', hes', ht, hget⟩⟩ := exists_groups_of_recognize?_slice hg
  · rw [← (List.cons.inj (List.append_cancel_left ht)).2] at hfirst
    exact absurd (by simp) hfirst.colon_not_mem
  · have hcut := (List.cons.inj (List.append_cancel_left ht)).2
    rcases append_cons_cases hds.colon_not_mem hcut with ⟨hfirst, -, rfl⟩ | ⟨z, -, rfl⟩
    · exact ⟨hfirst, hget⟩
    · exact absurd (by simp) hes.colon_not_mem

/-! ## Answers -/

/-- What a token of an operator on values answers, if the value is there. -/
theorem run_evaluate_slice (hg : recognize? Operator.substring.grammar t = some g) (hx : g.text 1 = x)
    (hv : Operand.lookup host.toProperties x st = some (.ok (.set v), st')) :
    Operator.substring.evaluate host t st =
      some ((slice x v (readIndex (g.text 2)) (((g.get? 3).map readIndex).getD v.length)).map
        (some ∘ .text), st') := by
  subst hx
  simp only [evaluate, hg]
  exact run_onValue hv

/-- Indices beyond the greatest one are out of range as they are. -/
theorem slice_min {s e : Nat} (hlength : v.length < maxIndex) :
    slice x v (min s maxIndex) (min e maxIndex) =
      if s ≤ e ∧ e ≤ v.length then .ok ((v.drop s).take (e - s))
      else .error (.outOfRange x (min s maxIndex) (min e maxIndex) v.length) := by
  rw [slice]
  by_cases h : s ≤ e ∧ e ≤ v.length
  · have hs : min s maxIndex = s := Nat.min_eq_left (by omega)
    have he : min e maxIndex = e := Nat.min_eq_left (by omega)
    rw [if_pos h, hs, he, if_neg (by omega)]
  · rw [if_neg h, if_pos (by omega)]

/-- The greatest index is out of range. -/
theorem slice_maxIndex {i : Nat} (hlength : v.length < maxIndex) :
    slice x v maxIndex i = .error (.outOfRange x maxIndex i v.length) ∧
      slice x v i maxIndex = .error (.outOfRange x i maxIndex v.length) := by
  rw [slice, slice, if_pos (by omega), if_pos (.inr hlength)]
  exact ⟨rfl, rfl⟩

/-- Where the digits are ASCII, the indices are the numbers that they denote, up to the greatest index. -/
theorem run_evaluate_slice_of_ascii (hg : recognize? Operator.substring.grammar t = some g)
    (hx : g.text 1 = x) (hv : Operand.lookup host.toProperties x st = some (.ok (.set v), st'))
    (hlength : v.length < maxIndex) (hfirst : (g.text 2).all Char.isDigit)
    (hsecond : ∀ ds, g.get? 3 = some ds → ds.all Char.isDigit) :
    Operator.substring.evaluate host t st =
      some ((slice x v (min (Text.digitsValue (g.text 2)) maxIndex)
        (min (((g.get? 3).map Text.digitsValue).getD v.length) maxIndex)).map (some ∘ .text), st') := by
  rw [run_evaluate_slice hg hx hv]
  obtain ⟨hdigits, h⟩ := exists_groups_of_recognize?_slice hg
  rw [readIndex_of_ascii hdigits.1 hfirst]
  rcases h with ⟨-, hget⟩ | ⟨es, hes, -, hget⟩
  · rw [hget, Option.map_none, Option.map_none, Option.getD_none,
      Nat.min_eq_left (Nat.le_of_lt hlength)]
  · rw [hget, Option.map_some, Option.map_some, Option.getD_some, Option.getD_some,
      readIndex_of_ascii hes.1 (hsecond es hget)]

/-- The characters in front of an index within the value, and those from there on. -/
theorem run_evaluate_slice_at (hv : Operand.lookup host.toProperties x st = some (.ok (.set v), st'))
    (hlength : v.length < maxIndex) (hk : k ≤ v.length) (hline : '\n' ∉ x) (hends : ¬x.EndsInSlice) :
    Operator.substring.evaluate host (x ++ ':' :: '0' :: ':' :: Text.ofNat k) st =
        some (.ok (some (.text (v.take k))), st') ∧
      Operator.substring.evaluate host (x ++ ':' :: Text.ofNat k) st =
        some (.ok (some (.text (v.drop k))), st') := by
  constructor
  · obtain ⟨g, hg, hx, hfirst, hsecond⟩ :=
      exists_recognize?_slice_between hline hends (isDigits_ofNat 0) (isDigits_ofNat k)
    have hascii : ∀ ds, g.get? 3 = some ds → ds.all Char.isDigit := fun ds h => by
      rw [← Option.some.inj (hsecond.symm.trans h)]
      exact all_isDigit_ofNat k
    have := run_evaluate_slice_of_ascii hg hx hv hlength (hfirst ▸ all_isDigit_ofNat 0) hascii
    rw [slice_min hlength, hfirst, hsecond, Option.map_some, Option.getD_some, digitsValue_ofNat,
      digitsValue_ofNat, if_pos ⟨Nat.zero_le k, hk⟩] at this
    exact this
  · obtain ⟨g, hg, hx, hfirst, hsecond⟩ := exists_recognize?_slice_from hline hends (isDigits_ofNat k)
    have hascii : ∀ ds, g.get? 3 = some ds → ds.all Char.isDigit := fun ds h => by
      cases hsecond.symm.trans h
    rw [run_evaluate_slice_of_ascii hg hx hv hlength (hfirst ▸ all_isDigit_ofNat k) hascii,
      slice_min hlength, hfirst, hsecond, Option.map_none, Option.getD_none, digitsValue_ofNat,
      if_pos ⟨hk, Nat.le_refl _⟩, List.take_of_length_le (Nat.le_of_eq List.length_drop)]
    rfl

/-- The answers of tokens that name a property and give indices. The characters are those between the
numbers that the digits denote, up to the end of the value where there is no second index, and any
other numbers are reported as out of range, up to the greatest index. Digits that are not ASCII denote
no number: they count as the greatest index, so they are always out of range. The two parts of a value
that is cut at an index make up the value, if the name itself does not end like a slice.

A value takes memory for each of its characters, so it has fewer of them than the greatest index. -/
theorem evaluate_slice (hv : Operand.lookup host.toProperties x st = some (.ok (.set v), st'))
    (hlength : v.length < maxIndex) :
    (∀ t g, recognize? Operator.substring.grammar t = some g → g.text 1 = x →
      ((g.text 2).all Char.isDigit → (∀ ds, g.get? 3 = some ds → ds.all Char.isDigit) →
        let s := Text.digitsValue (g.text 2)
        let e := ((g.get? 3).map Text.digitsValue).getD v.length
        Operator.substring.evaluate host t st =
          some (if s ≤ e ∧ e ≤ v.length then .ok (some (.text ((v.drop s).take (e - s))))
            else .error (.outOfRange x (min s maxIndex) (min e maxIndex) v.length), st')) ∧
      (¬(g.text 2).all Char.isDigit → Operator.substring.evaluate host t st =
        some (.error (.outOfRange x maxIndex (((g.get? 3).map readIndex).getD v.length) v.length), st')) ∧
      ∀ ds, g.get? 3 = some ds → ¬ds.all Char.isDigit → Operator.substring.evaluate host t st =
        some (.error (.outOfRange x (readIndex (g.text 2)) maxIndex v.length), st')) ∧
    ∀ k ≤ v.length, '\n' ∉ x → ¬x.EndsInSlice → ∃ a b, a ++ b = v ∧
      Operator.substring.evaluate host (x ++ ':' :: '0' :: ':' :: Text.ofNat k) st =
        some (.ok (some (.text a)), st') ∧
      Operator.substring.evaluate host (x ++ ':' :: Text.ofNat k) st =
        some (.ok (some (.text b)), st') := by
  refine ⟨fun t g hg hx => ⟨fun hfirst hsecond => ?_, fun hfirst => ?_, fun ds hget hds => ?_⟩,
    fun k hk hline hends => ?_⟩
  · dsimp only
    rw [run_evaluate_slice_of_ascii hg hx hv hlength hfirst hsecond, slice_min hlength]
    split <;> rfl
  · rw [run_evaluate_slice hg hx hv, readIndex_of_not_ascii hfirst, (slice_maxIndex hlength).1]
    rfl
  · rw [run_evaluate_slice hg hx hv, hget, Option.map_some, Option.getD_some,
      readIndex_of_not_ascii hds, (slice_maxIndex hlength).2]
    rfl
  · exact ⟨v.take k, v.drop k, List.take_append_drop k v,
      run_evaluate_slice_at hv hlength hk hline hends⟩

/-- Two characters of a value, and an index in Arabic digits. -/
theorem evaluate_slice_hello :
    let st : State := { State.empty with properties := TextMap.insert ∅ "s".toList "hello".toList }
    Operand.lookup Host.plain.toProperties "s".toList st = some (.ok (.set "hello".toList), st) ∧
      "hello".toList.length < maxIndex ∧
      Operator.substring.evaluate Host.plain "s:1:3".toList st =
        some (.ok (some (.text "el".toList)), st) ∧
      Operator.substring.evaluate Host.plain "s:٣".toList st =
        some (.error (.outOfRange "s".toList maxIndex 5 5), st) := by
  intro st
  have hv : Operand.lookup Host.plain.toProperties "s".toList st =
      some (.ok (.set "hello".toList), st) := rfl
  have hlength : "hello".toList.length < maxIndex := by decide
  have hascii : recognize? Operator.substring.grammar "s:1:3".toList =
      some ⟨[some "s:1:3".toList, some "s".toList, some ['1'], some ['3']]⟩ := by decide +kernel
  have harabic : recognize? Operator.substring.grammar "s:٣".toList =
      some ⟨[some "s:٣".toList, some "s".toList, some ['٣'], none]⟩ := by decide +kernel
  obtain ⟨htoken, -⟩ := evaluate_slice hv hlength
  refine ⟨hv, hlength, ?_, (htoken _ _ harabic rfl).2.1 (by decide)⟩
  refine (htoken _ _ hascii rfl).1 (by decide) fun ds hds => ?_
  obtain rfl : ['3'] = ds := Option.some.inj hds
  decide

end Operator

end Interpolation
