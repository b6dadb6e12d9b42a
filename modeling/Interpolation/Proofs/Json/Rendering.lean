import Interpolation.Json.Reader

/-!
# Reading JSON back

What is written as JSON is read back as the value that was written. A reader gives what it has read and
the text behind it, so each part is read in front of any other text; only a number must not run on into
what is behind it.

* `Json.readText_render`: texts in quotes, whatever characters are in them;
* `Json.Delimits` texts do not continue a number, and `Json.readNumber_append`: in front of them a number
  is read as it is alone;
* `Json.WellFormed` values have numbers that are written as numbers;
* `Json.readElements_render` and `Json.readMembers_render`: the parts of arrays and objects, if each of
  them is read back; `Json.WellFormed.readsBack` puts these together, by induction on the value;
* `Json.WellFormed.read_render`: a value that makes up a whole text.
-/

namespace Interpolation.Json

variable {t u rest : Text} {c : Char} {fuel : Nat}

/-! ## Texts in quotes -/

theorem hexValue?_hexChar : ∀ n < 16, hexValue? (hexChar n) = some n := by decide

/-- The unit of a control character is read as the character. -/
theorem readCodePoint_control (hc : c.toNat < 32) (u : Text) :
    readCodePoint ('0' :: '0' :: hexChar (c.toNat / 16) :: hexChar (c.toNat % 16) :: u) =
      some (c, u) := by
  have hzero : hexValue? '0' = some 0 := by decide
  have hhigh := hexValue?_hexChar (c.toNat / 16) (by omega)
  have hlow := hexValue?_hexChar (c.toNat % 16) (by omega)
  have hvalue : 4096 * 0 + 256 * 0 + 16 * (c.toNat / 16) + c.toNat % 16 = c.toNat := by omega
  have hunit : readUnit ('0' :: '0' :: hexChar (c.toNat / 16) :: hexChar (c.toNat % 16) :: u) =
      some (c.toNat, u) := by
    simp only [readUnit, hzero, hhigh, hlow, Option.bind_eq_bind, Option.bind_some, hvalue]
  simp only [readCodePoint, hunit, Option.bind_eq_bind, Option.bind_some,
    if_pos (show c.toNat < 0xD800 ∨ c.toNat > 0xDFFF by omega), Char.ofNat_toNat]

/-- A character is read back from the form that it has in quotes. -/
theorem readQuoted_escapeChar (fuel : Nat) (c : Char) (u : Text) :
    readQuoted (fuel + 1) (escapeChar c ++ u) =
      (readQuoted fuel u).map fun (t, rest) => (c :: t, rest) := by
  unfold escapeChar
  split
  · next h =>
    rw [Bool.or_eq_true, decide_eq_true_eq, decide_eq_true_eq] at h
    rcases h with rfl | rfl <;> rfl
  split
  · next h => subst h; rfl
  split
  · next h => subst h; rfl
  split
  · next h => subst h; rfl
  split
  · next h =>
    obtain rfl : c = Char.ofNat 8 := by rw [← h, Char.ofNat_toNat]
    rfl
  split
  · next h =>
    obtain rfl : c = Char.ofNat 12 := by rw [← h, Char.ofNat_toNat]
    rfl
  split
  · next h =>
    simp only [List.cons_append, List.nil_append]
    rw [readQuoted]
    simp only [readCodePoint_control h]
  · next hquote _ _ _ _ _ hcontrol =>
    simp only [Bool.or_eq_true, decide_eq_true_eq, not_or] at hquote
    have hplain : ¬(c = '\\' ∨ c.toNat < 32) := fun h => h.elim hquote.2 hcontrol
    rw [List.singleton_append, readQuoted]
    · rw [if_neg hplain]
    · exact hquote.1
    · exact fun _ _ hc _ => hquote.2 hc

theorem readQuoted_flatMap (t rest : Text) (hfuel : t.length < fuel) :
    readQuoted fuel (t.flatMap escapeChar ++ '"' :: rest) = some (t, rest) := by
  induction t generalizing fuel with
  | nil =>
    obtain ⟨fuel, rfl⟩ := Nat.exists_eq_add_one_of_ne_zero (Nat.ne_of_gt hfuel)
    rfl
  | cons c t ih =>
    obtain ⟨fuel, rfl⟩ := Nat.exists_eq_add_one_of_ne_zero (Nat.ne_of_gt (Nat.zero_lt_of_lt hfuel))
    rw [List.flatMap_cons, List.append_assoc, readQuoted_escapeChar,
      ih (Nat.lt_of_succ_lt_succ hfuel)]
    rfl

theorem length_le_flatMap_escapeChar (t : Text) : t.length ≤ (t.flatMap escapeChar).length := by
  induction t with
  | nil => exact Nat.le_refl 0
  | cons c t ih =>
    have hpos : 0 < (escapeChar c).length := by
      unfold escapeChar
      repeat' split
      all_goals simp
    rw [List.flatMap_cons, List.length_append, List.length_cons]
    omega

/-- A text is read back from behind its opening quote. -/
theorem readText_render (t rest : Text) :
    readText (t.flatMap escapeChar ++ '"' :: rest) = some (t, rest) := by
  refine readQuoted_flatMap t rest ?_
  have := length_le_flatMap_escapeChar t
  rw [List.length_append]
  omega

theorem renderText_append (t rest : Text) :
    renderText t ++ rest = '"' :: (t.flatMap escapeChar ++ '"' :: rest) := by
  simp [renderText]

/-! ## Numbers -/

/-- A text does not begin with a character that could continue a number. -/
def Delimits (t : Text) : Prop :=
  ∀ c ∈ t.head?, ¬c.isDigit ∧ c ∉ ['.', 'e', 'E', '+', '-']

theorem Delimits.head?_append (h : Delimits rest)
    (hc : c.isDigit ∨ c ∈ ['.', 'e', 'E', '+', '-']) (ht : t.head? ≠ some c) :
    (t ++ rest).head? ≠ some c := by
  cases t with
  | nil => exact fun hhead => hc.elim (h c hhead).1 (h c hhead).2
  | cons d t => exact ht

/-- What is read, with another text behind. -/
def withRest (rest : Text) : Text × Text → Text × Text := fun (t, u) => (t, u ++ rest)

theorem readDigits_append (h : Delimits rest) (t : Text) :
    readDigits (t ++ rest) = (readDigits t).map (withRest rest) := by
  have htake : (t ++ rest).takeWhile Char.isDigit = t.takeWhile Char.isDigit ∧
      (t ++ rest).dropWhile Char.isDigit = t.dropWhile Char.isDigit ++ rest := by
    induction t with
    | nil =>
      cases rest with
      | nil => simp
      | cons c rest => simp [(h c rfl).1]
    | cons c t ih =>
      rw [List.cons_append, List.takeWhile_cons, List.takeWhile_cons, List.dropWhile_cons,
        List.dropWhile_cons]
      split
      · exact ⟨by rw [ih.1], ih.2⟩
      · exact ⟨rfl, rfl⟩
  rw [readDigits, readDigits, htake.1, htake.2]
  split <;> rfl

theorem readFraction_append (h : Delimits rest) (t : Text) :
    readFraction (t ++ rest) = (readFraction t).map (withRest rest) := by
  cases t with
  | nil =>
    cases rest with
    | nil => rfl
    | cons c rest =>
      have hc : c ≠ '.' := fun hc => (h c rfl).2 (by simp [hc])
      simp [readFraction, hc, withRest]
  | cons c t =>
    by_cases hc : c = '.'
    · subst hc
      simp only [List.cons_append, readFraction, readDigits_append h, Option.map_map]
      rfl
    · simp [readFraction, hc, withRest]

theorem readExponent_append (h : Delimits rest) (t : Text) :
    readExponent (t ++ rest) = (readExponent t).map (withRest rest) := by
  cases t with
  | nil =>
    cases rest with
    | nil => rfl
    | cons c rest =>
      have hc : ¬(c = 'e' ∨ c = 'E') := fun hc => (h c rfl).2 (by rcases hc with rfl | rfl <;> simp)
      simp [readExponent, hc, withRest]
  | cons c t =>
    by_cases hc : c = 'e' ∨ c = 'E'
    · cases t with
      | nil =>
        have hnone : readDigits rest = none := readDigits_append h []
        cases rest with
        | nil => simp [readExponent, hc, hnone]
        | cons d rest =>
          have hplus : d ≠ '+' := fun hd => (h d rfl).2 (by simp [hd])
          have hminus : d ≠ '-' := fun hd => (h d rfl).2 (by simp [hd])
          have hempty : readDigits [] = none := rfl
          simp [readExponent, hc, hplus, hminus, hnone, hempty]
      | cons d t =>
        have hdigits := readDigits_append h (d :: t)
        rw [List.cons_append] at hdigits
        by_cases hplus : d = '+'
        · simp [readExponent, hc, hplus, readDigits_append h, Function.comp_def, withRest]
        by_cases hminus : d = '-'
        · simp [readExponent, hc, hminus, readDigits_append h, Function.comp_def, withRest]
        simp [readExponent, hc, hplus, hminus, hdigits, Function.comp_def, withRest]
    · simp [readExponent, hc, withRest]

/-- The digits in front of the fraction. -/
def readWhole : Text → Option (Text × Text)
  | '0' :: cs => some (['0'], cs)
  | t => readDigits t

/-- A number without its sign. -/
def readUnsigned (t : Text) : Option (Text × Text) := do
  let (whole, rest) ← readWhole t
  let (fraction, rest) ← readFraction rest
  let (exponent, rest) ← readExponent rest
  some (whole ++ fraction ++ exponent, rest)

theorem readNumber_minus (t : Text) :
    readNumber ('-' :: t) = (readUnsigned t).map fun (n, rest) => ('-' :: n, rest) := by
  simp only [readNumber, readUnsigned, readWhole]
  split <;>
    simp only [Option.bind_eq_bind, Option.bind_some, Option.map_bind, Function.comp_def,
      Option.map_some, List.cons_append, List.nil_append]

theorem readNumber_of_ne (h : t.head? ≠ some '-') : readNumber t = readUnsigned t := by
  unfold readNumber
  split
  rename_i hsign
  split at hsign
  · exact absurd rfl h
  cases hsign
  simp only [readUnsigned, readWhole]
  split <;> simp

theorem readWhole_append (h : Delimits rest) (t : Text) :
    readWhole (t ++ rest) = (readWhole t).map (withRest rest) := by
  by_cases ht : t.head? = some '0'
  · obtain ⟨t, rfl⟩ := List.head?_eq_some_iff.1 ht
    rfl
  have hrest : (t ++ rest).head? ≠ some '0' := h.head?_append (.inl rfl) ht
  have hdigits {u : Text} (hu : u.head? ≠ some '0') : readWhole u = readDigits u := by
    unfold readWhole
    split
    · exact absurd rfl hu
    · rfl
  rw [hdigits ht, hdigits hrest, readDigits_append h]

theorem readUnsigned_append (h : Delimits rest) (t : Text) :
    readUnsigned (t ++ rest) = (readUnsigned t).map (withRest rest) := by
  unfold readUnsigned
  rw [readWhole_append h]
  rcases readWhole t with _ | ⟨whole, u⟩
  · rfl
  simp only [Option.map_some, withRest, Option.bind_eq_bind, Option.bind_some]
  rw [readFraction_append h]
  rcases readFraction u with _ | ⟨fraction, u⟩
  · rfl
  simp only [Option.map_some, withRest, Option.bind_some]
  rw [readExponent_append h]
  rcases readExponent u with _ | ⟨exponent, u⟩ <;> rfl

/-- In front of a text that does not continue it, a number is read as it is alone. -/
theorem readNumber_append (h : Delimits rest) (t : Text) :
    readNumber (t ++ rest) = (readNumber t).map (withRest rest) := by
  by_cases ht : t.head? = some '-'
  · obtain ⟨t, rfl⟩ := List.head?_eq_some_iff.1 ht
    rw [List.cons_append, readNumber_minus, readNumber_minus, readUnsigned_append h, Option.map_map,
      Option.map_map]
    rfl
  have hrest : (t ++ rest).head? ≠ some '-' := h.head?_append (.inr (by simp)) ht
  rw [readNumber_of_ne ht, readNumber_of_ne hrest, readUnsigned_append h]

/-- A number begins with a sign or a digit. -/
theorem head?_of_readNumber {n : Text} (h : readNumber t = some (n, u)) :
    ∃ c ∈ t.head?, c = '-' ∨ c.isDigit := by
  cases t with
  | nil => cases h
  | cons c t =>
    refine ⟨c, rfl, Decidable.byContradiction fun hc => ?_⟩
    obtain ⟨hminus, hdigit⟩ := not_or.1 hc
    have hzero : c ≠ '0' := fun hc => hdigit (hc ▸ rfl)
    have hnone : readUnsigned (c :: t) = none := by
      simp [readUnsigned, readWhole, readDigits, hzero, hdigit]
    rw [readNumber_of_ne (by simpa using hminus), hnone] at h
    cases h

/-! ## Values -/

/-- Numbers are written as numbers. -/
inductive WellFormed : Json → Prop where
  | null : WellFormed .null
  | bool (b : Bool) : WellFormed (.bool b)
  | number {n : Text} (h : readNumber n = some (n, [])) : WellFormed (.number n)
  | text (t : Text) : WellFormed (.text t)
  | array {es : List Json} (h : ∀ e ∈ es, WellFormed e) : WellFormed (.array es)
  | object {ms : List (Text × Json)} (h : ∀ m ∈ ms, WellFormed m.2) : WellFormed (.object ms)

/-- A value is read back in front of a text. -/
def ReadsBack (v : Json) : Prop :=
  ∀ ⦃fuel rest⦄, 2 * v.render.length ≤ fuel → Delimits rest →
    readValue fuel (v.render ++ rest) = some (v, rest)

/-- A value that is written is not empty, so that there is fuel for a step. -/
theorem ReadsBack.of_succ {v : Json} (hv : v.render ≠ [])
    (h : ∀ fuel rest, 2 * v.render.length ≤ fuel + 1 → Delimits rest →
      readValue (fuel + 1) (v.render ++ rest) = some (v, rest)) : ReadsBack v := by
  intro fuel rest hfuel hrest
  cases fuel with
  | zero => exact absurd (List.length_eq_zero_iff.1 (by omega)) hv
  | succ fuel => exact h fuel rest hfuel hrest

/-- No blank and no closing bracket stands in front of a written value. -/
theorem WellFormed.head_render {v : Json} (h : v.WellFormed) :
    ∃ c t, v.render = c :: t ∧ ¬isBlank c ∧ c ≠ ']' := by
  cases h with
  | null => exact ⟨_, _, rfl, by decide, by decide⟩
  | bool b => cases b <;> exact ⟨_, _, rfl, by decide, by decide⟩
  | @number n h =>
    obtain ⟨c, hc, hnumber⟩ := head?_of_readNumber h
    obtain ⟨t, rfl⟩ := List.head?_eq_some_iff.1 hc
    refine ⟨c, t, rfl, ?_, ?_⟩
    · rintro hblank
      simp only [isBlank, Bool.or_eq_true, decide_eq_true_eq] at hblank
      rcases hblank with ((rfl | rfl) | rfl) | rfl <;> revert hnumber <;> decide
    · rintro rfl
      revert hnumber
      decide
  | text t => exact ⟨_, _, rfl, by decide, by decide⟩
  | @array es _ => cases es <;> exact ⟨'[', _, rfl, by decide, by decide⟩
  | @object ms _ => cases ms <;> exact ⟨'{', _, rfl, by decide, by decide⟩

theorem skipBlanks_cons (hc : ¬isBlank c) (t : Text) : skipBlanks (c :: t) = c :: t := by
  simp [skipBlanks, hc]

theorem readsBack_number {n : Text} (h : readNumber n = some (n, [])) : ReadsBack (.number n) := by
  obtain ⟨c, hc, hfirst⟩ := head?_of_readNumber h
  obtain ⟨t, rfl⟩ := List.head?_eq_some_iff.1 hc
  have hblank : ¬isBlank c := by
    obtain ⟨d, u, heq, hd, -⟩ := (WellFormed.number h).head_render
    cases heq
    exact hd
  refine .of_succ (List.cons_ne_nil c t) fun fuel rest _ hrest => ?_
  have hread : readNumber (c :: (t ++ rest)) = some (c :: t, rest) := by
    rw [← List.cons_append, readNumber_append hrest, h]
    rfl
  rw [render, List.cons_append, readValue, skipBlanks_cons hblank]
  -- no other value begins with a sign or a digit
  split
  case h_7 => rw [hread, Option.map_some]
  all_goals
    rename_i heq
    obtain rfl := (List.cons.inj heq).1
    exact absurd hfirst (by decide)

theorem readsBack_text (t : Text) : ReadsBack (.text t) := by
  refine .of_succ (List.cons_ne_nil _ _) fun fuel rest _ _ => ?_
  rw [render, renderText_append, readValue]
  simp (disch := decide) only [skipBlanks_cons, readText_render, Option.map_some]

/-- Brackets, braces and commas end what is in front of them. -/
theorem delimits_cons (hc : c ∈ [',', ']', '}']) (t : Text) : Delimits (c :: t) := by
  rintro _ ⟨⟩
  simp only [List.mem_cons, List.not_mem_nil, or_false] at hc
  rcases hc with rfl | rfl | rfl <;> exact ⟨by decide, by decide⟩

/-- Elements are read back up to the closing bracket, if each one is. -/
theorem readElements_render {e : Json} {es : List Json} (h : ∀ x ∈ e :: es, ReadsBack x)
    (hfuel : 2 * (e.render ++ renderElements es).length ≤ fuel) (rest : Text) :
    readElements fuel (e.render ++ (renderElements es ++ rest)) = some (e :: es, rest) := by
  induction es generalizing e fuel with
  | nil =>
    simp only [renderElements, List.length_append, List.length_singleton] at hfuel
    obtain ⟨fuel, rfl⟩ : ∃ k, fuel = k + 1 := ⟨fuel - 1, by omega⟩
    have hfirst : readValue fuel (e.render ++ ']' :: rest) = some (e, ']' :: rest) :=
      h e List.mem_cons_self (by omega) (delimits_cons (by simp) rest)
    rw [renderElements, List.singleton_append, readElements, hfirst]
    simp (disch := decide) only [skipBlanks_cons]
  | cons next es ih =>
    simp only [renderElements, List.length_append, List.length_cons] at hfuel
    obtain ⟨fuel, rfl⟩ : ∃ k, fuel = k + 1 := ⟨fuel - 1, by omega⟩
    have hfirst : readValue fuel (e.render ++ ',' :: (next.render ++ (renderElements es ++ rest))) =
        some (e, ',' :: (next.render ++ (renderElements es ++ rest))) :=
      h e List.mem_cons_self (by omega) (delimits_cons (by simp) _)
    have hothers : readElements fuel (next.render ++ (renderElements es ++ rest)) =
        some (next :: es, rest) :=
      ih (fun x hx => h x (List.mem_cons_of_mem e hx)) (by rw [List.length_append]; omega)
    rw [renderElements, List.cons_append, List.cons_append, List.append_assoc, readElements, hfirst]
    simp (disch := decide) only [skipBlanks_cons, hothers, Option.map_some]

/-- Members are read back up to the closing brace, if each value is. -/
theorem readMembers_render {name : Text} {v : Json} {ms : List (Text × Json)}
    (h : ∀ m ∈ (name, v) :: ms, ReadsBack m.2)
    (hfuel : 2 * (renderText name ++ ':' :: v.render ++ renderMembers ms).length ≤ fuel)
    (rest : Text) :
    readMembers fuel (renderText name ++ ':' :: (v.render ++ (renderMembers ms ++ rest))) =
      some ((name, v) :: ms, rest) := by
  induction ms generalizing name v fuel with
  | nil =>
    simp only [renderMembers, List.length_append, List.length_cons, List.length_nil] at hfuel
    obtain ⟨fuel, rfl⟩ : ∃ k, fuel = k + 1 := ⟨fuel - 1, by omega⟩
    have hvalue : readValue fuel (v.render ++ '}' :: rest) = some (v, '}' :: rest) :=
      h (name, v) List.mem_cons_self (by simp only; omega) (delimits_cons (by simp) rest)
    rw [renderMembers, List.singleton_append, renderText_append, readMembers]
    simp (disch := decide) only [skipBlanks_cons, readText_render, hvalue]
  | cons next ms ih =>
    obtain ⟨other, w⟩ := next
    simp only [renderMembers, List.length_append, List.length_cons] at hfuel
    obtain ⟨fuel, rfl⟩ : ∃ k, fuel = k + 1 := ⟨fuel - 1, by omega⟩
    have hvalue (u : Text) : readValue fuel (v.render ++ ',' :: u) = some (v, ',' :: u) :=
      h (name, v) List.mem_cons_self (by simp only; omega) (delimits_cons (by simp) u)
    have hothers : readMembers fuel
        (renderText other ++ ':' :: (w.render ++ (renderMembers ms ++ rest))) =
        some ((other, w) :: ms, rest) :=
      ih (fun m hm => h m (List.mem_cons_of_mem _ hm))
        (by simp only [List.length_append, List.length_cons]; omega)
    rw [renderText_append, readMembers]
    simp (disch := decide) only [renderMembers, List.cons_append, List.append_assoc, skipBlanks_cons,
      readText_render, hvalue, hothers, Option.map_some]

theorem readsBack_array {es : List Json} (h : ∀ e ∈ es, ReadsBack e)
    (hform : ∀ e ∈ es, e.WellFormed) : ReadsBack (.array es) := by
  cases es with
  | nil => exact .of_succ (List.cons_ne_nil _ _) fun _ _ _ _ => rfl
  | cons e es =>
    refine .of_succ (List.cons_ne_nil _ _) fun fuel rest hfuel _ => ?_
    simp only [render, List.length_append, List.length_cons] at hfuel
    have helements := readElements_render h
      (show _ ≤ fuel by rw [List.length_append]; omega) rest
    obtain ⟨c, t, hrender, hc, hbracket⟩ := (hform e List.mem_cons_self).head_render
    rw [hrender, List.cons_append] at helements
    have hwritten : (array (e :: es)).render ++ rest =
        '[' :: c :: (t ++ (renderElements es ++ rest)) := by
      simp only [render, hrender, List.cons_append, List.append_assoc]
    rw [hwritten, readValue]
    simp only [skipBlanks_cons (show ¬isBlank '[' by decide), skipBlanks_cons hc]
    split
    · next heq =>
      cases heq
      exact absurd rfl hbracket
    · rw [helements, Option.map_some]

theorem readsBack_object {ms : List (Text × Json)} (h : ∀ m ∈ ms, ReadsBack m.2) :
    ReadsBack (.object ms) := by
  cases ms with
  | nil => exact .of_succ (List.cons_ne_nil _ _) fun _ _ _ _ => rfl
  | cons m ms =>
    obtain ⟨name, v⟩ := m
    refine .of_succ (List.cons_ne_nil _ _) fun fuel rest hfuel _ => ?_
    simp only [render, List.length_append, List.length_cons] at hfuel
    have hmembers := readMembers_render h
      (show _ ≤ fuel by simp only [List.length_append, List.length_cons]; omega) rest
    rw [renderText_append] at hmembers
    have hwritten : (object ((name, v) :: ms)).render ++ rest =
        '{' :: '"' :: (name.flatMap escapeChar ++
          '"' :: ':' :: (v.render ++ (renderMembers ms ++ rest))) := by
      simp only [render, List.cons_append, List.append_assoc, renderText_append]
    rw [hwritten, readValue]
    simp (disch := decide) only [skipBlanks_cons]
    -- a quote is no closing brace
    change (readMembers fuel _).map _ = _
    rw [hmembers, Option.map_some]

/-- Every well-formed value is read back. -/
theorem WellFormed.readsBack {v : Json} (h : v.WellFormed) : ReadsBack v := by
  induction h with
  | null => exact .of_succ (List.cons_ne_nil _ _) fun _ _ _ _ => rfl
  | bool b => cases b <;> exact .of_succ (List.cons_ne_nil _ _) fun _ _ _ _ => rfl
  | number h => exact readsBack_number h
  | text t => exact readsBack_text t
  | array h ih => exact readsBack_array ih h
  | object _ ih => exact readsBack_object ih

/-- Writing a value and reading what is written gives the value. -/
theorem WellFormed.read_render {v : Json} (h : v.WellFormed) : read v.render = some v := by
  have hread : readValue (2 * v.render.length + 2) (v.render ++ []) = some (v, []) :=
    h.readsBack (Nat.le_add_right _ 2) nofun
  rw [List.append_nil] at hread
  rw [read, hread]
  rfl

end Interpolation.Json
