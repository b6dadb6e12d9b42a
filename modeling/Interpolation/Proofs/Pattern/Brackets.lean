import Interpolation.Proofs.Pattern.SmallParts

/-!
# Classes in brackets in front of other texts

A class ends at its closing bracket. What follows the bracket has no influence on what is read, whether `.`
accepts line feeds has none either.

* `Pattern.readClass_append`: a class that is read in front of a text is read in front of every other one;
* `Pattern.mem_of_readClassRest`: there is a closing bracket where a class is read. So a name that goes beyond
  the end of the class holds a bracket, and is not the name of a class (`Pattern.namedClass?_eq_none`).
-/

namespace Interpolation.Pattern

variable {tail t rest : Text} {all : Bool}

/-! ## Characters and escapes -/

theorem readEscape_suffix {c : Char} {v : Escaped} (h : readEscape (usual all) (c :: t) = .ok (v, rest)) :
    rest <:+ t := by
  obtain ⟨_, -, -, hsuffix⟩ := (keeps_append [] t).readEscape all
    ⟨(List.append_nil t).symm, List.suffix_refl t⟩ (fun ht => ht) h
  exact hsuffix

theorem readEscape_append (all' : Bool) (tail : Text) {c : Char} {v : Escaped}
    (h : readEscape (usual all) (c :: t) = .ok (v, rest)) (hrest : rest ≠ []) :
    readEscape (usual all') (c :: (t ++ tail)) = .ok (v, rest ++ tail) ∧ rest <:+ t := by
  have ht : t ≠ [] := by
    rintro rfl
    exact hrest (List.suffix_nil.1 (readEscape_suffix h))
  obtain ⟨_, hread, rfl, hsuffix⟩ := (keeps_append tail t).readEscape all' ⟨rfl, List.suffix_refl t⟩
    (fun hnil => absurd hnil ht) h
  exact ⟨hread, hsuffix⟩

theorem readCount_append (all' : Bool) (tail : Text) {count : Count}
    (h : readCount (usual all) t = .ok (count, rest)) :
    readCount (usual all') (t ++ tail) = .ok (count, rest ++ tail) ∧ rest <:+ t := by
  obtain ⟨_, hread, rfl, hsuffix⟩ := (keeps_append tail t).readCount all' ⟨rfl, List.suffix_refl t⟩ h
  exact ⟨hread, hsuffix⟩

theorem readClassItem_of_ne {c : Char} (hc : c ≠ '\\') (cs : Text) :
    readClassItem (usual all) (c :: cs) = .ok (.char c, cs) := by
  rw [readClassItem]
  exact hc

theorem readClassItem_append (all' : Bool) (tail : Text) {item : Escaped}
    (h : readClassItem (usual all) t = .ok (item, rest)) (hrest : rest ≠ []) :
    readClassItem (usual all') (t ++ tail) = .ok (item, rest ++ tail) ∧ ∃ c cs, t = c :: cs ∧ rest <:+ cs := by
  cases t with
  | nil => cases h
  | cons c cs =>
    by_cases hc : c = '\\'
    · subst hc
      cases cs with
      | nil => cases h
      | cons c cs =>
        obtain ⟨hread, hsuffix⟩ := readEscape_append all' tail h hrest
        exact ⟨hread, _, _, rfl, hsuffix.trans (List.suffix_cons c cs)⟩
    · rw [readClassItem_of_ne hc] at h
      obtain ⟨rfl, rfl⟩ := Prod.mk.inj (Except.ok.inj h)
      exact ⟨readClassItem_of_ne hc _, c, cs, rfl, List.suffix_refl cs⟩

theorem char?_usual (all : Bool) (v : Escaped) : v.char? (usual all) = v.char? {} := by
  cases v <;> rfl

theorem class?_usual (all : Bool) (v : Escaped) : v.class? (usual all) = v.class? {} := by
  cases v <;> rfl

/-! ## Ranges -/

/-- A single item of a class: no hyphen follows, or one that makes no range. -/
theorem readClassRange_one {item : Escaped} {a : CharClass} {e : Char} {r : Text}
    (h : readClassItem (usual all) t = .ok (item, e :: r)) (ha : item.class? {} = .ok a)
    (he : e = '-' → ∃ k ds, r = k :: ds ∧ (k = ']' ∨ k = '-')) :
    readClassRange (usual all) t = .ok (a, e :: r) := by
  simp only [readClassRange, h, skip_usual, bind, Except.bind, class?_usual, ha]
  by_cases hhyphen : e = '-'
  · obtain ⟨k, ds, rfl, hk⟩ := he hhyphen
    subst hhyphen
    simp only [if_pos hk]
  · split
    · rename_i hnil
      cases hnil
    · rename_i hcons
      exact absurd (List.cons.inj hcons).1 hhyphen
    · rfl

theorem readClassRange_two {first last : Escaped} {lo hi k : Char} {ds r : Text}
    (h : readClassItem (usual all) t = .ok (first, '-' :: k :: ds)) (hk : ¬(k = ']' ∨ k = '-'))
    (hlast : readClassItem (usual all) (k :: ds) = .ok (last, r)) (hlo : first.char? {} = .ok lo)
    (hhi : last.char? {} = .ok hi) (hle : lo ≤ hi) :
    readClassRange (usual all) t = .ok (.range lo hi, r) := by
  simp only [readClassRange, h, skip_usual, bind, Except.bind, if_neg hk, hlast, char?_usual, hlo, hhi,
    if_pos hle]

/-- What a class lists is a single item or a range. -/
theorem of_readClassRange {a : CharClass} (h : readClassRange (usual all) t = .ok (a, rest)) :
    ∃ first e r, readClassItem (usual all) t = .ok (first, e :: r) ∧
      ((rest = e :: r ∧ first.class? {} = .ok a ∧ (e = '-' → ∃ k ds, r = k :: ds ∧ (k = ']' ∨ k = '-'))) ∨
        ∃ k ds last lo hi, e = '-' ∧ r = k :: ds ∧ ¬(k = ']' ∨ k = '-') ∧
          readClassItem (usual all) (k :: ds) = .ok (last, rest) ∧ first.char? {} = .ok lo ∧
          last.char? {} = .ok hi ∧ lo ≤ hi ∧ a = .range lo hi) := by
  obtain ⟨⟨first, r⟩, hfirst, h⟩ := Fault.bind_eq_ok h
  simp only [skip_usual, class?_usual, char?_usual] at h
  split at h
  · cases h
  · rename_i r
    refine ⟨first, '-', r, hfirst, ?_⟩
    split at h
    · cases h
    · rename_i k ds
      split at h
      · rename_i hk
        obtain ⟨b, hb, h⟩ := Fault.bind_eq_ok h
        obtain ⟨rfl, rfl⟩ := Prod.mk.inj (Except.ok.inj h)
        exact .inl ⟨rfl, hb, fun _ => ⟨k, ds, rfl, hk⟩⟩
      · rename_i hk
        obtain ⟨⟨last, r⟩, hlast, h⟩ := Fault.bind_eq_ok h
        obtain ⟨lo, hlo, h⟩ := Fault.bind_eq_ok h
        obtain ⟨hi, hhi, h⟩ := Fault.bind_eq_ok h
        split at h
        · rename_i hle
          obtain ⟨rfl, rfl⟩ := Prod.mk.inj (Except.ok.inj h)
          exact .inr ⟨k, ds, last, lo, hi, rfl, rfl, hk, hlast, hlo, hhi, hle, rfl⟩
        · cases h
  · rename_i hnil hne
    obtain ⟨b, hb, h⟩ := Fault.bind_eq_ok h
    obtain ⟨rfl, rfl⟩ := Prod.mk.inj (Except.ok.inj h)
    cases r with
    | nil => exact absurd rfl hnil
    | cons e r => exact ⟨first, e, r, hfirst, .inl ⟨rfl, hb, fun he => absurd rfl (he ▸ hne r)⟩⟩

theorem readClassRange_append (all' : Bool) (tail : Text) {a : CharClass}
    (h : readClassRange (usual all) t = .ok (a, rest)) (hrest : rest ≠ []) :
    readClassRange (usual all') (t ++ tail) = .ok (a, rest ++ tail) ∧
      ∃ c e r, t = c :: e :: r ∧ rest <:+ e :: r := by
  obtain ⟨first, e, r, hfirst, hread⟩ := of_readClassRange h
  obtain ⟨hfirst', c, cs, rfl, hsuffix⟩ := readClassItem_append all' tail hfirst (List.cons_ne_nil _ _)
  obtain ⟨e', cs, rfl⟩ : ∃ e' cs', cs = e' :: cs' := by
    cases cs with
    | nil => exact absurd (List.suffix_nil.1 hsuffix) (List.cons_ne_nil _ _)
    | cons e' cs => exact ⟨e', cs, rfl⟩
  rcases hread with ⟨rfl, ha, he⟩ | ⟨k, ds, last, lo, hi, rfl, rfl, hk, hlast, hlo, hhi, hle, rfl⟩
  · refine ⟨readClassRange_one hfirst' ha fun hhyphen => ?_, c, e', cs, rfl, hsuffix⟩
    obtain ⟨k, ds, rfl, hk⟩ := he hhyphen
    exact ⟨k, ds ++ tail, rfl, hk⟩
  · obtain ⟨hlast', _, _, hcons, hsuffix'⟩ := readClassItem_append all' tail hlast hrest
    obtain ⟨rfl, rfl⟩ := List.cons.inj hcons
    exact ⟨readClassRange_two hfirst' hk hlast' hlo hhi hle, c, e', cs, rfl,
      hsuffix'.trans <| (List.suffix_cons _ _).trans <| (List.suffix_cons '-' _).trans hsuffix⟩

/-! ## Beginnings -/

theorem readHyphens_of_head?_ne (ht : t.head? ≠ some '-') (n : Nat) :
    readHyphens (usual all) n t = (0, t) := by
  cases n with
  | zero => rfl
  | succ n =>
    unfold readHyphens
    split
    · exact absurd rfl ht
    · rfl

theorem head?_append_of_ne_nil (h : t ≠ []) : (t ++ tail).head? = t.head? := by
  cases t with
  | nil => exact absurd rfl h
  | cons c t => rfl

/-- Hyphens at the beginning of a class. -/
theorem readHyphens_append (all' : Bool) (tail : Text) {k n m : Nat} (hn : t.length ≤ n)
    (hm : t.length ≤ m) (h : readHyphens (usual all) n t = (k, rest)) (hrest : rest ≠ []) :
    readHyphens (usual all') m (t ++ tail) = (k, rest ++ tail) ∧ rest <:+ t := by
  induction t generalizing rest k n m with
  | nil =>
    rw [readHyphens_of_head?_ne (by simp)] at h
    exact absurd (Prod.mk.inj h).2.symm hrest
  | cons c t ih =>
    by_cases hc : c = '-'
    · subst hc
      obtain ⟨n, rfl⟩ : ∃ k, n = k + 1 := ⟨n - 1, by simp at hn; omega⟩
      obtain ⟨m, rfl⟩ : ∃ k, m = k + 1 := ⟨m - 1, by simp at hm; omega⟩
      obtain ⟨rfl, rfl⟩ := Prod.mk.inj h
      obtain ⟨hfurther, hsuffix⟩ := ih (Nat.le_of_succ_le_succ hn) (Nat.le_of_succ_le_succ hm) rfl hrest
      refine ⟨?_, hsuffix.trans (List.suffix_cons _ _)⟩
      simp only [List.cons_append, readHyphens, skip_usual, hfurther]
    · have hhead : (c :: t).head? ≠ some '-' := by simpa using hc
      rw [readHyphens_of_head?_ne hhead] at h
      obtain ⟨rfl, rfl⟩ := Prod.mk.inj h
      exact ⟨readHyphens_of_head?_ne (by simpa using hc) m, List.suffix_refl _⟩

/-- What stands for itself at the beginning of a class, when hyphens have been passed over. -/
def classStart : Nat × Text → Listed × Text
  | (n + 1, rest) => (⟨.one '-', List.replicate (n + 1) 0⟩, rest)
  | (0, rest) => if rest.head? = some ']' then (⟨.one ']', [0]⟩, rest.tail) else ({}, rest)

theorem match_start (negated : Bool) (x : Nat × Text) :
    (match x with
    | (n + 1, rest) => (negated, (⟨.one '-', List.replicate (n + 1) 0⟩ : Listed), rest)
    | (0, ']' :: rest) => (negated, ⟨.one ']', [0]⟩, rest)
    | (0, rest) => (negated, {}, rest)) = (negated, classStart x) := by
  rcases x with ⟨_ | _, rest⟩
  · cases rest with
    | nil => rfl
    | cons c r =>
      by_cases hc : c = ']'
      · subst hc
        rfl
      · simp [classStart, hc]
  · rfl

theorem readClassStart_negated (all : Bool) (t : Text) : readClassStart (usual all) ('^' :: t) =
    (true, classStart (readHyphens (usual all) t.length t)) := by
  simp only [readClassStart, skip_usual]
  exact match_start true _

theorem readClassStart_of_head?_ne (ht : t.head? ≠ some '^') : readClassStart (usual all) t =
    (false, classStart (readHyphens (usual all) t.length t)) := by
  have hpositive : ∀ cs : Text, t ≠ '^' :: cs := fun cs he => ht (by rw [he, List.head?_cons])
  simp only [readClassStart, skip_usual]
  exact match_start false _

theorem classStart_append (tail : Text) {k : Nat} {r : Text} {start : Listed}
    (h : classStart (k, r) = (start, rest)) (hrest : rest ≠ []) :
    r ≠ [] ∧ classStart (k, r ++ tail) = (start, rest ++ tail) ∧ rest <:+ r := by
  cases k with
  | succ k =>
    obtain ⟨rfl, rfl⟩ := Prod.mk.inj h
    exact ⟨hrest, rfl, List.suffix_refl r⟩
  | zero =>
    by_cases hr : r.head? = some ']'
    · obtain ⟨r, rfl⟩ := List.head?_eq_some_iff.1 hr
      obtain ⟨rfl, rfl⟩ := Prod.mk.inj h
      exact ⟨List.cons_ne_nil _ _, rfl, List.suffix_cons _ _⟩
    · rw [classStart, if_neg hr] at h
      obtain ⟨rfl, rfl⟩ := Prod.mk.inj h
      rw [classStart, head?_append_of_ne_nil hrest, if_neg hr]
      exact ⟨hrest, rfl, List.suffix_refl r⟩

theorem readClassStart_append (all' : Bool) (tail : Text) {b : Bool} {start : Listed}
    (h : readClassStart (usual all) t = (b, start, rest)) (hrest : rest ≠ []) :
    readClassStart (usual all') (t ++ tail) = (b, start, rest ++ tail) ∧ rest <:+ t := by
  -- what follows the sign of a complement, or else the whole text
  have behind {t : Text} (hstart : classStart (readHyphens (usual all) t.length t) = (start, rest)) :
      t ≠ [] ∧ classStart (readHyphens (usual all') (t ++ tail).length (t ++ tail)) = (start, rest ++ tail) ∧
        rest <:+ t := by
    rcases hhyphens : readHyphens (usual all) t.length t with ⟨k, r⟩
    rw [hhyphens] at hstart
    obtain ⟨hr, hstart', hsuffix⟩ := classStart_append tail hstart hrest
    obtain ⟨hhyphens', hsuffix'⟩ := readHyphens_append all' tail (Nat.le_refl t.length)
      (m := (t ++ tail).length) (by simp) hhyphens hr
    refine ⟨?_, by rw [hhyphens', hstart'], hsuffix.trans hsuffix'⟩
    rintro rfl
    exact hr (List.suffix_nil.1 hsuffix')
  by_cases ht : t.head? = some '^'
  · obtain ⟨t, rfl⟩ := List.head?_eq_some_iff.1 ht
    rw [readClassStart_negated] at h
    obtain ⟨rfl, hstart⟩ := Prod.mk.inj h
    obtain ⟨-, hstart', hsuffix⟩ := behind hstart
    exact ⟨by rw [List.cons_append, readClassStart_negated, hstart'], hsuffix.trans (List.suffix_cons _ _)⟩
  · rw [readClassStart_of_head?_ne ht] at h
    obtain ⟨rfl, hstart⟩ := Prod.mk.inj h
    obtain ⟨hne, hstart', hsuffix⟩ := behind hstart
    rw [readClassStart_of_head?_ne (by rwa [head?_append_of_ne_nil hne]), hstart']
    exact ⟨rfl, hsuffix⟩

/-! ## Named classes -/

theorem dropWhile_append_of_ne_nil {p : Char → Bool} (h : t.dropWhile p ≠ []) :
    (t ++ tail).dropWhile p = t.dropWhile p ++ tail := by
  rw [List.dropWhile_append, if_neg (by simpa using h)]

theorem takeWhile_append_of_ne_nil {p : Char → Bool} (h : t.dropWhile p ≠ []) :
    (t ++ tail).takeWhile p = t.takeWhile p := by
  rw [List.takeWhile_append, if_neg]
  intro hlength
  have := congrArg List.length (List.takeWhile_append_dropWhile (p := p) (l := t))
  rw [List.length_append, hlength] at this
  exact h (List.length_eq_zero_iff.1 (by omega))

theorem complementIf_usual (negated : Bool) : complementIf (usual all) negated = complementIf {} negated := by
  cases negated <;> rfl

theorem combine_usual (left : Option (ClassOp × Nested CharClass)) (a : Nested CharClass) :
    combine (usual all) left a = combine {} left a := by
  rcases left with _ | ⟨_ | _ | _, _⟩ <;> rfl

/-- What a named class is, behind the first colon and the sign of a complement. -/
def namedClass (negated : Bool) (t : Text) : Option (CharClass × Text) :=
  let inner := t.dropWhile (· != ':')
  if inner.take 2 = [':', ']'] then
    (namedClass? (String.ofList (t.takeWhile (· != ':')))).map fun a => (complementIf {} negated a, inner.drop 2)
  else none

theorem readNamedClass?_of_head?_ne (ht : t.head? ≠ some ':') : readNamedClass? (usual all) t = none := by
  unfold readNamedClass?
  split
  · exact absurd List.head?_cons ht
  · rfl

theorem match_named (negated : Bool) (t inner : Text) :
    (match inner with
    | ':' :: ']' :: rest => (namedClass? (String.ofList t)).map fun a => (complementIf {} negated a, rest)
    | _ => none) = if inner.take 2 = [':', ']'] then
      (namedClass? (String.ofList t)).map fun a => (complementIf {} negated a, inner.drop 2) else none := by
  split
  · rfl
  · rename_i hne
    rw [if_neg]
    intro htake
    obtain ⟨c, e, r, rfl⟩ : ∃ c e r, inner = c :: e :: r := by
      match inner, htake with
      | c :: e :: r, _ => exact ⟨c, e, r, rfl⟩
    obtain ⟨rfl, rfl⟩ : c = ':' ∧ e = ']' := by simpa using htake
    exact hne r rfl

theorem readNamedClass?_negated (all : Bool) (t : Text) :
    readNamedClass? (usual all) (':' :: '^' :: t) = namedClass true t := by
  simp only [readNamedClass?, complementIf_usual]
  exact match_named ..

theorem readNamedClass?_colon (ht : t.head? ≠ some '^') :
    readNamedClass? (usual all) (':' :: t) = namedClass false t := by
  have hpositive : ∀ cs : Text, t ≠ '^' :: cs := fun cs he => ht (by rw [he, List.head?_cons])
  simp only [readNamedClass?, complementIf_usual]
  exact match_named ..

/-- No name of a class holds a closing bracket. -/
theorem namedClass?_eq_none (h : ']' ∈ t) : namedClass? (String.ofList t) = none := by
  have hs : ']' ∈ (String.ofList t).toList := by rwa [String.toList_ofList]
  unfold namedClass?
  split
  case h_15 => rfl
  all_goals
    rename_i heq
    rw [heq] at hs
    exact absurd hs (by decide +kernel)

theorem namedClass_append (tail : Text) (negated : Bool) (ht : ']' ∈ t) :
    namedClass negated (t ++ tail) = (namedClass negated t).map fun x => (x.1, x.2 ++ tail) := by
  by_cases hname : ']' ∈ t.takeWhile (· != ':')
  · have hname' : ']' ∈ (t ++ tail).takeWhile (· != ':') := by
      rw [List.takeWhile_append]
      split
      · exact List.mem_append_left _ ht
      · exact hname
    simp [namedClass, namedClass?_eq_none hname, namedClass?_eq_none hname']
  · have hmem : ']' ∈ t.dropWhile (· != ':') := by
      rw [← List.takeWhile_append_dropWhile (p := (· != ':')) (l := t)] at ht
      exact (List.mem_append.1 ht).resolve_left hname
    have hne : t.dropWhile (· != ':') ≠ [] := List.ne_nil_of_mem hmem
    obtain ⟨e, r, hinner⟩ : ∃ e r, t.dropWhile (· != ':') = ':' :: e :: r := by
      have hcolon := List.head?_dropWhile_not (· != ':') t
      match t.dropWhile (· != ':'), hmem, hcolon with
      | [c], hmem, hcolon => simp_all
      | c :: e :: r, _, hcolon => exact ⟨e, r, by simpa using hcolon⟩
    unfold namedClass
    rw [dropWhile_append_of_ne_nil hne, takeWhile_append_of_ne_nil hne, hinner]
    by_cases he : e = ']' <;> simp [he, Function.comp_def]

/-- A name ends inside of a class, as the class has an end. -/
theorem readNamedClass?_append (all all' : Bool) (tail : Text) (ht : ']' ∈ t) :
    readNamedClass? (usual all') (t ++ tail) =
      (readNamedClass? (usual all) t).map fun x => (x.1, x.2 ++ tail) := by
  have behind {c d : Char} {r : Text} (hc : c ≠ d) (h : d ∈ c :: r) : d ∈ r :=
    (List.mem_cons.1 h).resolve_left hc.symm
  by_cases hcolon : t.head? = some ':'
  · obtain ⟨t, rfl⟩ := List.head?_eq_some_iff.1 hcolon
    replace ht := behind (by decide) ht
    by_cases hsign : t.head? = some '^'
    · obtain ⟨t, rfl⟩ := List.head?_eq_some_iff.1 hsign
      rw [List.cons_append, List.cons_append, readNamedClass?_negated, readNamedClass?_negated,
        namedClass_append tail true (behind (by decide) ht)]
    · rw [List.cons_append, readNamedClass?_colon hsign, ← namedClass_append tail false ht,
        readNamedClass?_colon (by rwa [head?_append_of_ne_nil (List.ne_nil_of_mem ht)])]
  · rw [readNamedClass?_of_head?_ne hcolon, Option.map_none,
      readNamedClass?_of_head?_ne (by rwa [head?_append_of_ne_nil (List.ne_nil_of_mem ht)])]

theorem namedClass_suffix {negated : Bool} {a : CharClass} (h : namedClass negated t = some (a, rest)) :
    rest <:+ t := by
  unfold namedClass at h
  dsimp only at h
  split at h
  · obtain ⟨_, -, ha⟩ := Option.map_eq_some_iff.1 h
    obtain ⟨-, rfl⟩ := Prod.mk.inj ha
    exact (List.drop_suffix _ _).trans (List.dropWhile_suffix _)
  · cases h

theorem readNamedClass?_suffix {a : CharClass} (h : readNamedClass? (usual all) t = some (a, rest)) :
    rest <:+ t := by
  by_cases hcolon : t.head? = some ':'
  · obtain ⟨t, rfl⟩ := List.head?_eq_some_iff.1 hcolon
    by_cases hsign : t.head? = some '^'
    · obtain ⟨t, rfl⟩ := List.head?_eq_some_iff.1 hsign
      rw [readNamedClass?_negated] at h
      exact (namedClass_suffix h).trans <| (List.suffix_cons _ _).trans <| List.suffix_cons _ _
    · rw [readNamedClass?_colon hsign] at h
      exact (namedClass_suffix h).trans (List.suffix_cons _ _)
  · rw [readNamedClass?_of_head?_ne hcolon] at h
    cases h

/-! ## Whole classes -/

/-- What is no sign of a class is a character or a range. -/
theorem readClassRest_range {negated : Bool} {left : Option (ClassOp × Nested CharClass)} {items : Listed}
    {c e : Char} {cs : Text} (fuel : Nat) (hclose : c ≠ ']') (hopen : c ≠ '[')
    (hop : c = e → c ∉ ['&', '-', '~']) :
    readClassRest (usual all) (fuel + 1) negated left items (c :: e :: cs) =
      (readClassRange (usual all) (c :: e :: cs)).bind fun x =>
        readClassRest (usual all) fuel negated left (items.add (.leaf x.1)) x.2 := by
  have hop' {d : Char} (hd : d ∈ ['&', '-', '~']) (cs' : Text) : c :: e :: cs ≠ d :: d :: cs' := by
    intro he
    obtain ⟨rfl, he⟩ := List.cons_eq_cons.1 he
    exact hop (List.cons.inj he).1.symm hd
  rw [readClassRest, skip_usual]
  split
  · rename_i heq
    cases heq
  · rename_i heq
    exact absurd (List.cons.inj heq).1 hclose
  · rename_i heq
    exact absurd (List.cons.inj heq).1 hopen
  · rename_i heq
    exact absurd heq (hop' (by decide) _)
  · rename_i heq
    exact absurd heq (hop' (by decide) _)
  · rename_i heq
    exact absurd heq (hop' (by decide) _)
  · rfl

/-- A class that is read has an end. -/
theorem mem_of_readClassRest {a : Nested CharClass} {n : Nat} {negated : Bool}
    {left : Option (ClassOp × Nested CharClass)} {items : Listed}
    (h : readClassRest (usual all) n negated left items t = .ok (a, rest)) : ']' ∈ t := by
  induction n generalizing a negated left items t rest with
  | zero => cases h
  | succ n ih =>
    rw [readClassRest, skip_usual] at h
    split at h
    · cases h
    · exact List.mem_cons_self
    · rename_i cs
      refine List.mem_cons_of_mem _ ?_
      split at h
      · rename_i hnamed
        exact (readNamedClass?_suffix hnamed).subset (ih h)
      · rcases hstart : readClassStart (usual all) cs with ⟨inner, start, r⟩
        rw [hstart] at h
        obtain ⟨_, hinner, -⟩ := Fault.bind_eq_ok h
        have hr := ih hinner
        exact (readClassStart_append all [] hstart (List.ne_nil_of_mem hr)).2.subset hr
    case h_7 =>
      obtain ⟨⟨b, r⟩, hrange, h⟩ := Fault.bind_eq_ok h
      have hr := ih h
      obtain ⟨-, c, e, cs, rfl, hsuffix⟩ := readClassRange_append all [] hrange (List.ne_nil_of_mem hr)
      exact List.mem_cons_of_mem _ (hsuffix.subset hr)
    -- an operator, which takes two characters
    all_goals exact List.mem_cons_of_mem _ (List.mem_cons_of_mem _ (ih h))

/-- The rest of a class, up to its end, in front of another text. -/
theorem readClassRest_append (all' : Bool) (tail : Text) {a : Nested CharClass} {n m : Nat} {negated : Bool}
    {left : Option (ClassOp × Nested CharClass)} {items : Listed} (hm : n ≤ m)
    (h : readClassRest (usual all) n negated left items t = .ok (a, rest)) :
    readClassRest (usual all') m negated left items (t ++ tail) = .ok (a, rest ++ tail) ∧ rest <:+ t := by
  induction n generalizing a m negated left items t rest with
  | zero => cases h
  | succ n ih =>
    obtain ⟨m, rfl⟩ : ∃ k, m = k + 1 := ⟨m - 1, by omega⟩
    replace hm := Nat.le_of_succ_le_succ hm
    rw [readClassRest, skip_usual] at h
    split at h
    · cases h
    · simp only [unicode_usual, Bool.not_true, Bool.and_false, Bool.false_eq_true, if_false] at h
      obtain ⟨rfl, rfl⟩ := Prod.mk.inj (Except.ok.inj h)
      refine ⟨?_, List.suffix_cons _ _⟩
      rw [List.cons_append, readClassRest, skip_usual, complementIf_usual, combine_usual]
      simp only [unicode_usual, Bool.not_true, Bool.and_false, Bool.false_eq_true, if_false,
        complementIf_usual, combine_usual]
    · rename_i cs
      split at h
      · rename_i b r hnamed
        have hsuffix := readNamedClass?_suffix hnamed
        obtain ⟨hrest, hsuffix'⟩ := ih hm h
        refine ⟨?_, hsuffix'.trans <| hsuffix.trans <| List.suffix_cons _ _⟩
        simp only [List.cons_append, readClassRest, skip_usual,
          readNamedClass?_append all all' tail (hsuffix.subset (mem_of_readClassRest h)), hnamed,
          Option.map_some, hrest]
      · rename_i hnamed
        rcases hstart : readClassStart (usual all) cs with ⟨inner, start, r⟩
        rw [hstart] at h
        obtain ⟨⟨b, r'⟩, hinner, h⟩ := Fault.bind_eq_ok h
        have hr := mem_of_readClassRest hinner
        obtain ⟨hstart', hsuffix⟩ := readClassStart_append all' tail hstart (List.ne_nil_of_mem hr)
        obtain ⟨hinner', hsuffix'⟩ := ih hm hinner
        obtain ⟨hrest, hsuffix''⟩ := ih hm h
        refine ⟨?_, hsuffix''.trans <| hsuffix'.trans <| hsuffix.trans <| List.suffix_cons _ _⟩
        simp only [List.cons_append, readClassRest, skip_usual,
          readNamedClass?_append all all' tail (hsuffix.subset hr), hnamed, Option.map_none, hstart', hinner']
        exact hrest
    case h_7 hnil hclose hopen hand hhyphen htilde =>
      obtain ⟨⟨b, r⟩, hrange, hfurther⟩ := Fault.bind_eq_ok h
      obtain ⟨hrange', c, e, cs, rfl, hsuffix⟩ :=
        readClassRange_append all' tail hrange (List.ne_nil_of_mem (mem_of_readClassRest hfurther))
      obtain ⟨hrest, hsuffix'⟩ := ih hm hfurther
      refine ⟨?_, hsuffix'.trans <| hsuffix.trans <| List.suffix_cons _ _⟩
      rw [List.cons_append, List.cons_append] at hrange' ⊢
      rw [readClassRest_range m (fun he => hclose (e :: cs) (by rw [he]))
        (fun he => hopen (e :: cs) (by rw [he])), hrange']
      · exact hrest
      · rintro rfl hop
        simp only [List.mem_cons, List.not_mem_nil, or_false] at hop
        rcases hop with rfl | rfl | rfl
        · exact hand _ rfl
        · exact hhyphen _ rfl
        · exact htilde _ rfl
    -- an operator, which takes two characters
    all_goals
      rw [combine_usual] at h
      obtain ⟨hrest, hsuffix⟩ := ih hm h
      refine ⟨?_, hsuffix.trans <| (List.suffix_cons _ _).trans <| List.suffix_cons _ _⟩
      rw [List.cons_append, List.cons_append, readClassRest, skip_usual]
      simp only [combine_usual, hrest]

theorem readClass_append (all' : Bool) (tail : Text) {a : Nested CharClass}
    (h : readClass (usual all) t = .ok (a, rest)) :
    readClass (usual all') (t ++ tail) = .ok (a, rest ++ tail) ∧ rest <:+ t := by
  simp only [readClass] at h ⊢
  rcases hstart : readClassStart (usual all) t with ⟨b, start, r⟩
  rw [hstart] at h
  obtain ⟨hstart', hsuffix⟩ :=
    readClassStart_append all' tail hstart (List.ne_nil_of_mem (mem_of_readClassRest h))
  obtain ⟨hrest, hsuffix'⟩ := readClassRest_append all' tail (m := (t ++ tail).length + 1) (by simp) h
  rw [hstart']
  exact ⟨hrest, hsuffix'.trans hsuffix⟩

end Interpolation.Pattern
