import Interpolation.Pattern.Property.Names
import Interpolation.Proofs.Pattern.Reading
import Interpolation.Proofs.Text.Cutting
import Mathlib.Data.List.TakeWhile

/-!
# The small parts of a pattern

The readers of numbers, counts, names and escapes look at nothing but the characters that they take. So they
read the same from two texts of which one has something more behind these characters, or between others.

* `Pattern.Keeps`: a relation between texts that keeps characters other than backslashes, opening brackets and
  stars. One text in front of others is an example (`Pattern.keeps_append`);
* `Pattern.Keeps.readCount` and `Pattern.Keeps.readEscape`: what is read of the first text is read of the
  second one, and the relation holds of what is left. It does not matter whether `.` accepts line feeds;
* `Pattern.isInert_of_writtenProperty?`: no name of a property holds one of the other characters.
-/

namespace Interpolation.Pattern

/-- What is read in two steps. -/
theorem Fault.bind_eq_ok {α β : Type} {r : Except Fault α} {f : α → Except Fault β} {b : β}
    (h : r >>= f = .ok b) : ∃ a, r = .ok a ∧ f a = .ok b := by
  cases r with
  | error e => cases h
  | ok a => exact ⟨a, rfl, h⟩

/-- A relation between texts that keeps the first character, and relates what follows an inert one. -/
structure Keeps (R : Text → Text → Prop) : Prop where
  head : ∀ {c : Char} {t t' : Text}, R (c :: t) t' → ∃ r, t' = c :: r
  tail : ∀ {c : Char} {t t' : Text}, isInert c → R (c :: t) (c :: t') → R t t'
  length_le : ∀ {t t' : Text}, R t t' → t.length ≤ t'.length

/-- What is left of a text, and the same in front of another one. -/
theorem keeps_append (tail t₀ : Text) : Keeps fun t t' => t' = t ++ tail ∧ t <:+ t₀ where
  head := fun h => ⟨_, h.1⟩
  tail := fun _ h => ⟨(List.cons.inj h.1).2, (List.suffix_cons _ _).trans h.2⟩
  length_le := fun h => by simp [h.1]

namespace Keeps

variable {R : Text → Text → Prop} {t t' rest : Text} {all : Bool} {c : Char}

theorem cons (h : Keeps R) (hc : isInert c) (ht : R (c :: t) t') : ∃ r, t' = c :: r ∧ R t r := by
  obtain ⟨r, rfl⟩ := h.head ht
  exact ⟨r, rfl, h.tail hc ht⟩

/-- Inert characters of a kind in front of another character. -/
theorem dropWhile (h : Keeps R) {p : Char → Bool} (hp : ∀ c ∈ t.takeWhile p, isInert c)
    (hne : t.dropWhile p ≠ []) (ht : R t t') :
    t'.takeWhile p = t.takeWhile p ∧ R (t.dropWhile p) (t'.dropWhile p) := by
  induction t generalizing t' with
  | nil => exact absurd rfl hne
  | cons c t ih =>
    by_cases hc : p c
    · rw [List.takeWhile_cons_of_pos hc] at hp ⊢
      rw [List.dropWhile_cons_of_pos hc] at hne ⊢
      obtain ⟨r, rfl, hr⟩ := h.cons (hp c List.mem_cons_self) ht
      obtain ⟨htake, hdrop⟩ := ih (fun d hd => hp d (List.mem_cons_of_mem c hd)) hne hr
      rw [List.takeWhile_cons_of_pos hc, List.dropWhile_cons_of_pos hc, htake]
      exact ⟨rfl, hdrop⟩
    · obtain ⟨r, rfl⟩ := h.head ht
      rw [List.takeWhile_cons_of_neg hc, List.takeWhile_cons_of_neg hc, List.dropWhile_cons_of_neg hc,
        List.dropWhile_cons_of_neg hc]
      exact ⟨rfl, ht⟩

end Keeps

/-! ## Inert characters -/

theorem isInert_of_isBlank {c : Char} (h : Unicode.isBlank c) : isInert c := by
  rw [isInert_iff]
  refine ⟨?_, ?_, ?_⟩ <;> (rintro rfl; exact absurd h (by decide +kernel))

theorem isInert_of_isDigit {c : Char} (h : c.isDigit) : isInert c := by
  rw [isInert_iff]
  refine ⟨?_, ?_, ?_⟩ <;> (rintro rfl; exact absurd h (by decide))

theorem isInert_of_hexDigit? {c : Char} {d : Nat} (h : hexDigit? c = some d) : isInert c := by
  have hsome := Option.isSome_of_eq_some h
  rw [isInert_iff]
  refine ⟨?_, ?_, ?_⟩ <;> (rintro rfl; exact absurd hsome (by decide))

/-! ## Numbers and counts -/

theorem ne_nil_of_dropWhile {t : Text} {p : Char → Bool} (h : t.dropWhile p ≠ []) : t ≠ [] := by
  rintro rfl
  exact h rfl

/-- Nothing is passed over behind the characters. -/
theorem readWhile_usual (all : Bool) (kind : Char → Bool) {fuel : Nat} {t : Text} (h : t.length ≤ fuel) :
    (usual all).readWhile kind fuel t = (t.takeWhile kind, t.dropWhile kind) := by
  induction t generalizing fuel with
  | nil => cases fuel <;> rfl
  | cons c t ih =>
    obtain ⟨fuel, rfl⟩ : ∃ n, fuel = n + 1 := ⟨fuel - 1, by simp at h; omega⟩
    by_cases hc : kind c
    · simp only [Flags.readWhile, skip_usual, if_pos hc, ih (Nat.le_of_succ_le_succ h),
        List.takeWhile_cons_of_pos hc, List.dropWhile_cons_of_pos hc]
    · simp only [Flags.readWhile, if_neg hc, List.takeWhile_cons_of_neg hc, List.dropWhile_cons_of_neg hc]

theorem readNumber_usual (all : Bool) (t : Text) : readNumber (usual all) t =
    (let digits := (t.dropWhile Unicode.isBlank).takeWhile Char.isDigit
      if digits.isEmpty || Text.digitsValue digits > maxCount then none
      else some (Text.digitsValue digits),
      ((t.dropWhile Unicode.isBlank).dropWhile Char.isDigit).dropWhile Unicode.isBlank) := by
  simp only [readNumber, readWhile_usual all _ (List.dropWhile_suffix Unicode.isBlank).length_le]

/-- The character with a number that has been read, if there is one. -/
def coded (x : Nat × Text) : Except Fault (Char × Text) :=
  match charOf? x.1 with
  | some c => .ok (c, x.2)
  | none => .error .badEscape

theorem readCodePoint_braced (all : Bool) (k : Nat) (cs : Text) : readCodePoint (usual all) k ('{' :: cs) =
    readHexBraced (usual all) (cs.length + 1) none cs >>= coded := rfl

theorem readCodePoint_of_ne {c : Char} (hc : c ≠ '{') (all : Bool) (k : Nat) (cs : Text) :
    readCodePoint (usual all) k (c :: cs) = readHex (usual all) k 0 (c :: cs) >>= coded := by
  simp only [readCodePoint, skip_usual]
  split
  · exact absurd (List.cons.inj ‹_›).1 hc
  · rfl

theorem readHexBraced_of_ne {c : Char} (hc : c ≠ '}') (all : Bool) (fuel : Nat) (n : Option Nat) (cs : Text) :
    readHexBraced (usual all) (fuel + 1) n (c :: cs) =
      match hexDigit? c with
      | some d => readHexBraced (usual all) fuel (some (16 * n.getD 0 + d)) cs
      | none => .error .badEscape :=
  readHexBraced.eq_5 _ _ _ _ _ hc

namespace Keeps

variable {R : Text → Text → Prop} {t t' rest : Text} {all : Bool} {c : Char}

/-- A number in front of something else. -/
theorem readNumber (h : Keeps R) (all' : Bool) (ht : R t t') {n : Option Nat}
    (hr : Pattern.readNumber (usual all) t = (n, rest)) (hrest : rest ≠ []) :
    ∃ rest', Pattern.readNumber (usual all') t' = (n, rest') ∧ R rest rest' := by
  rw [readNumber_usual] at hr
  obtain ⟨rfl, rfl⟩ := Prod.mk.inj hr
  have hdigits := ne_nil_of_dropWhile hrest
  have hblanks := ne_nil_of_dropWhile hdigits
  have isBlank (t : Text) : ∀ c ∈ t.takeWhile Unicode.isBlank, isInert c := fun _ hc =>
    isInert_of_isBlank (List.mem_takeWhile_imp hc)
  obtain ⟨-, h₁⟩ := h.dropWhile (isBlank t) hblanks ht
  obtain ⟨htake, h₂⟩ := h.dropWhile (fun _ hc => isInert_of_isDigit (List.mem_takeWhile_imp hc)) hdigits h₁
  obtain ⟨-, h₃⟩ := h.dropWhile (isBlank _) hrest h₂
  exact ⟨_, by rw [readNumber_usual, htake], h₃⟩

theorem readCount (h : Keeps R) (all' : Bool) (ht : R t t') {count : Count}
    (hr : Pattern.readCount (usual all) t = .ok (count, rest)) :
    ∃ rest', Pattern.readCount (usual all') t' = .ok (count, rest') ∧ R rest rest' := by
  simp only [Pattern.readCount, skip_usual] at hr ⊢
  split at hr
  · cases hr
  · rename_i n r hn
    obtain ⟨rfl, rfl⟩ := Prod.mk.inj (Except.ok.inj hr)
    obtain ⟨_, hn', hrest⟩ := h.readNumber all' ht hn (List.cons_ne_nil _ _)
    obtain ⟨r', rfl, hr'⟩ := h.cons (by decide) hrest
    exact ⟨r', by rw [hn']; rfl, hr'⟩
  · rename_i n r hn
    obtain ⟨_, hn', hrest⟩ := h.readNumber all' ht hn (List.cons_ne_nil _ _)
    obtain ⟨r', rfl, hr'⟩ := h.cons (by decide) hrest
    simp only [hn']
    split at hr
    · obtain ⟨rfl, rfl⟩ := Prod.mk.inj (Except.ok.inj hr)
      obtain ⟨r'', rfl, hr''⟩ := h.cons (by decide) hr'
      exact ⟨r'', rfl, hr''⟩
    · split at hr
      · rename_i hne _ m r'' hm
        obtain ⟨_, hm', hrest''⟩ := h.readNumber all' hr' hm (List.cons_ne_nil _ _)
        obtain ⟨s, rfl, hs⟩ := h.cons (by decide) hrest''
        split at hr
        · rename_i hle
          obtain ⟨rfl, rfl⟩ := Prod.mk.inj (Except.ok.inj hr)
          refine ⟨s, ?_, hs⟩
          cases r with
          | nil => cases (Prod.mk.inj hm).2
          | cons c r =>
            obtain ⟨r'', rfl⟩ := h.head hr'
            split
            · rename_i he
              exact absurd rfl ((List.cons.inj he).1 ▸ hne r)
            · rw [hm']
              exact if_pos hle
        · cases hr
      · cases hr
  · cases hr

/-! ## Numbers of characters -/

theorem readHex (h : Keeps R) (all' : Bool) {k n m : Nat} (ht : R t t')
    (hr : Pattern.readHex (usual all) k n t = .ok (m, rest)) :
    ∃ rest', Pattern.readHex (usual all') k n t' = .ok (m, rest') ∧ R rest rest' := by
  induction k generalizing n t t' with
  | zero =>
    obtain ⟨rfl, rfl⟩ := Prod.mk.inj (Except.ok.inj hr)
    exact ⟨t', rfl, ht⟩
  | succ k ih =>
    cases t with
    | nil => cases hr
    | cons c t =>
      simp only [Pattern.readHex, skip_usual] at hr ⊢
      split at hr
      · rename_i d hd
        obtain ⟨r, rfl, hr'⟩ := h.cons (isInert_of_hexDigit? hd) ht
        obtain ⟨rest', hrest', h'⟩ := ih hr' hr
        exact ⟨rest', by simp only [hd, hrest'], h'⟩
      · cases hr

/-- The fuel of the second text may be greater. -/
theorem readHexBraced (h : Keeps R) (all' : Bool) {fuel fuel' m : Nat} {n : Option Nat}
    (hfuel : fuel ≤ fuel') (ht : R t t') (hr : Pattern.readHexBraced (usual all) fuel n t = .ok (m, rest)) :
    ∃ rest', Pattern.readHexBraced (usual all') fuel' n t' = .ok (m, rest') ∧ R rest rest' := by
  induction fuel generalizing fuel' n t t' with
  | zero => cases hr
  | succ fuel ih =>
    obtain ⟨fuel', rfl⟩ : ∃ k, fuel' = k + 1 := ⟨fuel' - 1, by omega⟩
    cases t with
    | nil => cases hr
    | cons c t =>
      by_cases hc : c = '}'
      · subst hc
        obtain ⟨r, rfl, hr'⟩ := h.cons (by decide) ht
        cases n with
        | none => cases hr
        | some n =>
          obtain ⟨rfl, rfl⟩ := Prod.mk.inj (Except.ok.inj hr)
          exact ⟨r, rfl, hr'⟩
      · rw [readHexBraced_of_ne hc] at hr
        split at hr
        · rename_i d hd
          obtain ⟨r, rfl, hr'⟩ := h.cons (isInert_of_hexDigit? hd) ht
          obtain ⟨rest', hrest', h'⟩ := ih (Nat.le_of_succ_le_succ hfuel) hr' hr
          exact ⟨rest', by rw [readHexBraced_of_ne hc, hd]; exact hrest', h'⟩
        · cases hr

theorem readCodePoint (h : Keeps R) (all' : Bool) {k : Nat} (ht : R t t')
    (hr : Pattern.readCodePoint (usual all) (k + 1) t = .ok (c, rest)) :
    ∃ rest', Pattern.readCodePoint (usual all') (k + 1) t' = .ok (c, rest') ∧ R rest rest' := by
  have coded_ok {x : Nat × Text} (hx : coded x = .ok (c, rest)) : charOf? x.1 = some c ∧ x.2 = rest := by
    unfold coded at hx
    split at hx
    · rename_i hc
      obtain ⟨rfl, rfl⟩ := Prod.mk.inj (Except.ok.inj hx)
      exact ⟨hc, rfl⟩
    · cases hx
  cases t with
  | nil => cases hr
  | cons d t =>
    by_cases hd : d = '{'
    · subst hd
      obtain ⟨r, rfl, hr'⟩ := h.cons (by decide) ht
      rw [readCodePoint_braced] at hr
      obtain ⟨⟨n, _⟩, hn, hcoded⟩ := Fault.bind_eq_ok hr
      obtain ⟨hc, rfl⟩ := coded_ok hcoded
      obtain ⟨rest', hn', h'⟩ := h.readHexBraced all' (Nat.succ_le_succ (h.length_le hr')) hr' hn
      refine ⟨rest', ?_, h'⟩
      rw [readCodePoint_braced, hn']
      simp [coded, hc, bind, Except.bind]
    · rw [readCodePoint_of_ne hd] at hr
      obtain ⟨⟨n, _⟩, hn, hcoded⟩ := Fault.bind_eq_ok hr
      obtain ⟨hc, rfl⟩ := coded_ok hcoded
      obtain ⟨rest', hn', h'⟩ := h.readHex all' ht hn
      obtain ⟨r, rfl⟩ := h.head ht
      refine ⟨rest', ?_, h'⟩
      rw [readCodePoint_of_ne hd, hn']
      simp [coded, hc, bind, Except.bind]

end Keeps

/-! ## Names of properties -/

/-- Looking up a name leaves out hyphens, blanks and underscores, what is not ASCII, and `is` in front, but no other
characters. -/
theorem mem_propertyKey {t : Text} {c : Char} (hc : c ∈ t) (hinert : ¬isInert c) :
    c ∈ (propertyKey t).toList := by
  have hkept : isPropertyChar c ∧ c.toLower = c ∧ c ≠ 'i' ∧ c ≠ 's' := by
    simp only [isInert_iff, not_and_or, not_not] at hinert
    rcases hinert with rfl | rfl | rfl <;> decide
  obtain ⟨hkept, hlower, hi, hs⟩ := hkept
  have mem_part {t : Text} (h : c ∈ t) :
      c ∈ (t.filter isPropertyChar).map Char.toLower :=
    List.mem_map.2 ⟨c, List.mem_filter.2 ⟨h, hkept⟩, hlower⟩
  unfold propertyKey
  dsimp only
  split
  · rename_i i s rest
    split
    · rename_i his
      rw [String.toList_ofList]
      rcases List.mem_cons.1 hc with rfl | hc
      · exact absurd (hlower.symm.trans his.1) hi
      · rcases List.mem_cons.1 hc with rfl | hc
        · exact absurd (hlower.symm.trans his.2.1) hs
        · exact mem_part hc
    · rw [String.toList_ofList]
      exact mem_part hc
  · rw [String.toList_ofList]
    exact mem_part hc

theorem isInert_of_propertyKey {t : Text} (h : isInertName (propertyKey t)) {c : Char} (hc : c ∈ t) :
    isInert c := by
  by_contra hinert
  exact hinert (isInert_of_isInertName h (mem_propertyKey hc hinert))

/-- The names of properties are made of inert characters. -/
theorem isInert_of_writtenProperty? {t : Text} {a : CharClass} (h : writtenProperty? t = some a) {c : Char}
    (hc : c ∈ t) : isInert c := by
  rw [writtenProperty?] at h
  dsimp only at h
  split at h
  · exact isInert_of_propertyKey (isInertName_of_named? h) hc
  · rename_i property value hcut
    obtain ⟨sign, hsign, ht⟩ :
        ∃ sign : Text, (∀ d ∈ sign, isInert d) ∧ t = property ++ (sign ++ value) := by
      split at hcut
      · rename_i hunequal
        obtain rfl := Option.some.inj hcut
        exact ⟨['!', '='], by simp [isInert], Text.splitOnce?_eq_some hunequal⟩
      · rcases Option.or_eq_some_iff.1 hcut with hcolon | ⟨-, hequal⟩
        · exact ⟨[':'], by simp [isInert], Text.splitOnce?_eq_some hcolon⟩
        · exact ⟨['='], by simp [isInert], Text.splitOnce?_eq_some hequal⟩
    obtain ⟨b, hb, -⟩ := Option.map_eq_some_iff.1 h
    have hnames := isInertName_of_valued? hb
    rw [ht] at hc
    rcases List.mem_append.1 hc with hc | hc
    · exact isInert_of_propertyKey hnames.1 hc
    · rcases List.mem_append.1 hc with hc | hc
      · exact hsign c hc
      · exact isInert_of_propertyKey hnames.2 hc

theorem readProperty_of_ne {c : Char} (hc : c ≠ '{') (all : Bool) (cs : Text) :
    readProperty (usual all) (c :: cs) =
      if c = '\\' then .error .badEscape
      else match writtenProperty? [c] with
        | some set => .ok (set, cs)
        | none => .error .unknownProperty := by
  by_cases hescape : c = '\\'
  · subst hescape
    simp only [readProperty, skip_usual, if_true]
  · cases hname : writtenProperty? [c] <;>
      simp [readProperty, hescape, hname]

theorem isInert_of_isBoundaryChar {c : Char} (h : isBoundaryChar c) : isInert c := by
  rw [isInert_iff]
  refine ⟨?_, ?_, ?_⟩ <;> (rintro rfl; exact absurd h (by decide))

theorem readBoundaryName_of_head?_ne {t : Text} {all : Bool} (h : t.head? ≠ some '{') :
    readBoundaryName (usual all) t = .ok (none, t) := by
  unfold readBoundaryName
  split
  · exact absurd rfl h
  · rfl

/-- A name of a boundary ends at the first character that is not one of its kind. -/
theorem readBoundaryName_braced (all : Bool) (c : Char) (cs : Text) :
    readBoundaryName (usual all) ('{' :: c :: cs) =
      if !isBoundaryChar c then .ok (none, '{' :: c :: cs)
      else match (c :: cs).dropWhile isBoundaryChar with
        | '}' :: rest => .ok (some ((c :: cs).takeWhile isBoundaryChar), rest)
        | _ => .error .badEscape := by
  have hname := readWhile_usual all isBoundaryChar (Nat.le_refl (c :: cs).length)
  simp only [List.length_cons] at hname
  simp only [readBoundaryName, skip_usual, hname]
  refine if_congr Iff.rfl rfl ?_
  split
  · rename_i name rest h
    obtain ⟨rfl, hrest⟩ := Prod.mk.inj h
    simp only [hrest]
  · rename_i h
    split
    · rename_i rest hrest
      exact absurd (by rw [hrest]) (h _ rest)
    · rfl

theorem wordClass_usual (all : Bool) : (usual all).wordClass = .word := rfl

/-- The condition on a place that a name behind `\\b` stands for; the boundary of a word if there is no name. -/
def boundary (name : Option Text) : Except Fault Anchor :=
  match name.map String.ofList with
  | none => .ok (.wordBoundary .word)
  | some "start" => .ok (.wordStart .word)
  | some "end" => .ok (.wordEnd .word)
  | some "start-half" => .ok (.noWordBefore .word)
  | some "end-half" => .ok (.noWordAfter .word)
  | some _ => .error .badEscape

theorem readEscape_boundary (all : Bool) (t : Text) : readEscape (usual all) ('b' :: t) =
    readBoundaryName (usual all) t >>= fun x => (boundary x.1).map fun a => (.anchor a, x.2) := by
  simp only [readEscape, boundary, wordClass_usual]
  congr 1
  funext x
  generalize x.1.map String.ofList = name
  split <;> simp_all only [Except.map]

/-- What most characters stand for behind a backslash does not depend on what follows. -/
theorem readEscape_of_not_mem {c : Char} (hc : c ∉ ['x', 'u', 'U', 'p', 'P', 'b']) (all : Bool) (t : Text) :
    readEscape (usual all) (c :: t) = (readEscape {} [c]).map fun x => (x.1, t) := by
  by_cases hletter : c ∈ ['d', 'D', 's', 'S', 'w', 'W', 'a', 'f', 't', 'n', 'r', 'v', 'A', 'z', 'B', '<', '>']
  · simp only [List.mem_cons, List.not_mem_nil, or_false] at hletter
    rcases hletter with rfl | rfl | rfl | rfl | rfl | rfl | rfl | rfl | rfl | rfl | rfl | rfl | rfl | rfl |
      rfl | rfl | rfl <;> rfl
  · rw [readEscape, readEscape]
    · split <;> rfl
    all_goals
      rintro rfl
      revert hc hletter
      decide

namespace Keeps

variable {R : Text → Text → Prop} {t t' rest : Text} {all : Bool} {c : Char}

theorem readProperty (h : Keeps R) (all' : Bool) (ht : R t t') {a : CharClass}
    (hr : Pattern.readProperty (usual all) t = .ok (a, rest)) :
    ∃ rest', Pattern.readProperty (usual all') t' = .ok (a, rest') ∧ R rest rest' := by
  have of_found {name r : Text} (hfound : (match writtenProperty? name with
      | some set => .ok (set, r)
      | none => .error .unknownProperty) = (.ok (a, rest) : Except Fault (CharClass × Text))) :
      writtenProperty? name = some a ∧ r = rest := by
    split at hfound
    · rename_i hname
      obtain ⟨rfl, rfl⟩ := Prod.mk.inj (Except.ok.inj hfound)
      exact ⟨hname, rfl⟩
    · cases hfound
  cases t with
  | nil => cases hr
  | cons c t =>
    by_cases hbrace : c = '{'
    · subst hbrace
      obtain ⟨r, rfl, hr'⟩ := h.cons (by decide) ht
      simp only [Pattern.readProperty, skip_usual, unicode_usual, Bool.not_true, Bool.false_eq_true,
        if_false, readWhile_usual _ _ (Nat.le_refl _)] at hr ⊢
      split at hr
      · cases hr
      · rename_i name d r' hread
        obtain ⟨rfl, hdrop⟩ := Prod.mk.inj hread
        obtain ⟨hname, rfl⟩ := of_found hr
        obtain ⟨htake, hdrop'⟩ := h.dropWhile (fun _ hd => isInert_of_writtenProperty? hname hd)
          (by rw [hdrop]; exact List.cons_ne_nil _ _) hr'
        have hd : d = '}' := by
          have := List.head?_dropWhile_not (· != '}') t
          simpa [hdrop] using this
        rw [hdrop] at hdrop'
        subst hd
        obtain ⟨s, hs, hs'⟩ := h.cons (by decide) hdrop'
        exact ⟨s, by rw [hs, htake]; simp only [hname], hs'⟩
    · rw [readProperty_of_ne hbrace] at hr
      split at hr
      · cases hr
      · rename_i hc
        obtain ⟨hname, rfl⟩ := of_found hr
        obtain ⟨r, rfl, hr'⟩ := h.cons (isInert_of_writtenProperty? hname List.mem_cons_self) ht
        exact ⟨r, by rw [readProperty_of_ne hbrace, if_neg hc]; simp only [hname], hr'⟩

/-- Behind the last character of the first text, no character of the second one follows. -/
theorem readBoundaryName (h : Keeps R) (all' : Bool) (ht : R t t') (hend : t = [] → t' = [])
    {name : Option Text} (hr : Pattern.readBoundaryName (usual all) t = .ok (name, rest)) :
    ∃ rest', Pattern.readBoundaryName (usual all') t' = .ok (name, rest') ∧ R rest rest' := by
  by_cases hbrace : t.head? = some '{'
  · obtain ⟨t, rfl⟩ := List.head?_eq_some_iff.1 hbrace
    obtain ⟨r, rfl, hr'⟩ := h.cons (by decide) ht
    cases t with
    | nil => cases hr
    | cons c t =>
      obtain ⟨s, rfl⟩ := h.head hr'
      rw [readBoundaryName_braced] at hr ⊢
      split at hr
      · rename_i hc
        obtain ⟨rfl, rfl⟩ := Prod.mk.inj (Except.ok.inj hr)
        exact ⟨_, by rw [if_pos hc], ht⟩
      · rename_i hc
        rw [if_neg hc]
        split at hr
        · rename_i r hdrop
          obtain ⟨rfl, rfl⟩ := Prod.mk.inj (Except.ok.inj hr)
          obtain ⟨htake, hdrop'⟩ := h.dropWhile (fun _ hd => isInert_of_isBoundaryChar (List.mem_takeWhile_imp hd))
            (by rw [hdrop]; exact List.cons_ne_nil _ _) hr'
          rw [hdrop] at hdrop'
          obtain ⟨r', hr', hrest⟩ := h.cons (by decide) hdrop'
          rw [hr']
          exact ⟨r', by simp only [htake], hrest⟩
        · cases hr
  · rw [readBoundaryName_of_head?_ne hbrace] at hr
    obtain ⟨rfl, rfl⟩ := Prod.mk.inj (Except.ok.inj hr)
    refine ⟨t', readBoundaryName_of_head?_ne ?_, ht⟩
    cases t with
    | nil => rw [hend rfl]; exact hbrace
    | cons c t =>
      obtain ⟨r, rfl⟩ := h.head ht
      exact hbrace

/-! ## Escapes -/

/-- Behind the last character of the first text, no character of the second one follows. -/
theorem readEscape (h : Keeps R) (all' : Bool) (ht : R t t') (hend : t = [] → t' = []) {v : Escaped}
    (hr : Pattern.readEscape (usual all) (c :: t) = .ok (v, rest)) :
    ∃ rest', Pattern.readEscape (usual all') (c :: t') = .ok (v, rest') ∧ R rest rest' := by
  by_cases hc : c ∈ ['x', 'u', 'U', 'p', 'P', 'b']
  · simp only [List.mem_cons, List.not_mem_nil, or_false] at hc
    have wrapped {α : Type} {f g : Except Fault (α × Text)} (w : α → Escaped)
        (hstep : ∀ {a r}, f = .ok (a, r) → ∃ r', g = .ok (a, r') ∧ R r r')
        (h : (f >>= fun x => .ok (w x.1, x.2)) = .ok (v, rest)) :
        ∃ rest', (g >>= fun x => .ok (w x.1, x.2)) = .ok (v, rest') ∧ R rest rest' := by
      obtain ⟨⟨a, r⟩, hf, hv⟩ := Fault.bind_eq_ok h
      obtain ⟨rfl, rfl⟩ := Prod.mk.inj (Except.ok.inj hv)
      obtain ⟨r', hg, hr'⟩ := hstep hf
      exact ⟨r', by rw [hg]; rfl, hr'⟩
    rcases hc with rfl | rfl | rfl | rfl | rfl | rfl
    · exact wrapped .char (h.readCodePoint all' ht) hr
    · exact wrapped .char (h.readCodePoint all' ht) hr
    · exact wrapped .char (h.readCodePoint all' ht) hr
    · exact wrapped .set (h.readProperty all' ht) hr
    · exact wrapped (fun a => .set (.compl a)) (h.readProperty all' ht) hr
    · rw [readEscape_boundary] at hr
      obtain ⟨⟨name, r⟩, hname, hv⟩ := Fault.bind_eq_ok hr
      obtain ⟨rest', hname', hrest⟩ := h.readBoundaryName all' ht hend hname
      cases hanchor : boundary name with
      | error e =>
        rw [hanchor] at hv
        cases hv
      | ok a =>
        rw [hanchor] at hv
        obtain ⟨rfl, rfl⟩ := Prod.mk.inj (Except.ok.inj hv)
        refine ⟨rest', ?_, hrest⟩
        rw [readEscape_boundary, hname']
        exact congrArg (Except.map _) hanchor
  · rw [readEscape_of_not_mem hc] at hr ⊢
    cases hshort : Pattern.readEscape {} [c] with
    | error e =>
      rw [hshort] at hr
      cases hr
    | ok x =>
      rw [hshort] at hr
      obtain ⟨rfl, rfl⟩ := Prod.mk.inj (Except.ok.inj hr)
      exact ⟨t', rfl, ht⟩

end Keeps

end Interpolation.Pattern
