import Interpolation.Pattern.Reader

/-!
# Reading a pattern piece by piece

A pattern that is put together from several texts is read piece by piece. How a sign is read may depend
on the text behind it, so a piece is read with what really follows.

* `Pattern.Reader.Passes`: a piece of a text is read in front of the rest of it;
  `Pattern.Reader.Passes.trans` puts two pieces together, and `Pattern.readNested_of_passes` is the pattern
  once all is read;
* `Pattern.ReadsAs`: a fragment is read as a pattern inside a group where `.` accepts line feeds;
* `Pattern.readNested_front`, `Pattern.readNested_lead` and `Pattern.readNested_full` are the patterns that
  hold a fragment in such a group, with how deep they nest: deeper than the fragment by two, for the group
  and for the sequence around it;
* `Pattern.read_of_readNested` and `Pattern.read_eq_tooDeep`: so they are patterns if the fragment does not
  nest too deeply for that.
-/

namespace Interpolation.Pattern

namespace Reader

variable {r r₁ r₂ : Reader} {tail t u f : Text}

/-- A piece of a text is read, one sign after another, in front of the rest of the text. -/
inductive Passes (tail : Text) : Reader → Text → Reader → Prop
  | nil {r : Reader} : Passes tail r [] r
  | sign {r r₁ r₂ : Reader} {c : Char} {cs : Text} (rest : Text) (hr : r.flags.verbose = false)
      (h : readSign r c (cs ++ tail) = .ok (r₁, rest ++ tail)) (hrest : rest <:+ cs)
      (h' : Passes tail r₁ rest r₂) : Passes tail r (c :: cs) r₂

theorem Passes.trans (h : Passes (u ++ tail) r t r₁) (h' : Passes tail r₁ u r₂) :
    Passes tail r (t ++ u) r₂ := by
  induction h with
  | nil => exact h'
  | @sign r r₁ _ c cs rest hr hsign hrest _ ih =>
    obtain ⟨v, rfl⟩ := hrest
    refine .sign (rest ++ u) hr ?_ ⟨v, by simp⟩ (ih h')
    simpa using hsign

/-- A sign that is one character. -/
theorem Passes.cons {c : Char} (hr : r.flags.verbose = false)
    (h : readSign r c (t ++ tail) = .ok (r₁, t ++ tail)) (h' : Passes tail r₁ t r₂) :
    Passes tail r (c :: t) r₂ :=
  .sign t hr h (List.suffix_refl t) h'

theorem skip_of_not_verbose {flags : Flags} (h : flags.verbose = false) (t : Text) :
    flags.skip t = t := by
  rw [Flags.skip, h]
  rfl

/-- Reading goes on behind a piece. The fuel stays enough for the rest. -/
theorem run_of_passes (h : Passes tail r t r₁) : ∀ fuel, (t ++ tail).length < fuel →
    ∃ fuel', tail.length < fuel' ∧ run fuel r (t ++ tail) = run fuel' r₁ tail := by
  induction h with
  | nil => exact fun fuel hfuel => ⟨fuel, hfuel, rfl⟩
  | @sign r r₁ _ c cs rest hr hsign hrest _ ih =>
    intro fuel hfuel
    have hlength := hrest.length_le
    simp only [List.cons_append, List.length_cons, List.length_append] at hfuel
    obtain ⟨n, rfl⟩ : ∃ n, fuel = n + 1 := ⟨fuel - 1, by omega⟩
    obtain ⟨fuel', hfuel', hrun⟩ := ih n (by rw [List.length_append]; omega)
    refine ⟨fuel', hfuel', ?_⟩
    rw [← hrun, List.cons_append, run, skip_of_not_verbose hr]
    simp only [hsign]
    rfl

/-- Several parts are added to the group being read. -/
theorem foldl_push (ps : List (Nested Pattern)) (r : Reader) : ps.foldl push r =
    { r with level := { r.level with parts := ps.reverse.map some ++ r.level.parts } } := by
  induction ps generalizing r with
  | nil => rfl
  | cons p ps ih => simp [ih, push, Level.push]

/-- A group of nothing but these parts. -/
theorem nested_of_parts (ps : List (Nested Pattern)) :
    Level.nested { parts := ps.reverse.map some } =
      ⟨seqs (ps.map Nested.value), sideBySide (ps.map Nested.depth)⟩ := by
  simp [Level.nested, Level.joined, Level.last, List.filterMap_map, Function.comp_def]

theorem nested_foldl_push {r : Reader} (hr : r.level = {}) (ps : List (Nested Pattern)) :
    (ps.foldl push r).level.nested = ⟨seqs (ps.map Nested.value), sideBySide (ps.map Nested.depth)⟩ := by
  rw [← nested_of_parts]
  simp [foldl_push, hr]

end Reader

variable {r r₁ : Reader} {t f : Text}

open Reader

/-- All of a text is read. -/
theorem Reader.run_of_passes_nil (h : Passes [] r t r₁) (hr : r₁.flags.verbose = false) :
    run (t.length + 1) r t = r₁.finish := by
  obtain ⟨fuel, hfuel, hrun⟩ := run_of_passes h (t.length + 1) (by simp)
  obtain ⟨n, rfl⟩ : ∃ n, fuel = n + 1 := ⟨fuel - 1, by simp at hfuel; omega⟩
  rw [List.append_nil] at hrun
  rw [hrun, run, skip_of_not_verbose hr]

theorem readNested_of_passes (h : Passes [] {} t r) (hr : r.flags.verbose = false) :
    readNested t = r.finish :=
  run_of_passes_nil h hr

/-! ## How deep a pattern nests -/

theorem read_of_readNested {p : Nested Pattern} (h : readNested t = .ok p) (hp : p.depth ≤ maxDepth) :
    read t = .ok p.value := by
  rw [read, h]
  exact if_pos hp

theorem read_eq_tooDeep {p : Nested Pattern} (h : readNested t = .ok p) (hp : maxDepth < p.depth) :
    read t = .error .tooDeep := by
  rw [read, h]
  exact if_neg (Nat.not_le.2 hp)

theorem exists_readNested {p : Pattern} (h : read t = .ok p) :
    ∃ d ≤ maxDepth, readNested t = .ok ⟨p, d⟩ := by
  unfold read at h
  cases hp : readNested t with
  | error e =>
    rw [hp] at h
    cases h
  | ok q =>
    rw [hp] at h
    replace h : (if q.depth ≤ maxDepth then .ok q.value else .error .tooDeep : Except Fault Pattern) = .ok p := h
    split at h
    · obtain rfl := Except.ok.inj h
      exact ⟨q.depth, ‹_›, rfl⟩
    · cases h

theorem sideBySide_le {ds : List Nat} {n : Nat} (h : ∀ d ∈ ds, d ≤ n) : sideBySide ds ≤ n + 1 := by
  have hmax : ds.foldr max 0 ≤ n := by
    induction ds with
    | nil => exact Nat.zero_le n
    | cons d ds ih =>
      exact Nat.max_le.2 ⟨h d List.mem_cons_self, ih fun e he => h e (List.mem_cons_of_mem d he)⟩
  unfold sideBySide
  split <;> omega

/-! ## The usual settings -/

/-- The usual settings, but for whether `.` accepts line feeds. -/
def usual (all : Bool) : Flags := { dotAll := all }

@[simp] theorem skip_usual (all : Bool) (t : Text) : (usual all).skip t = t := rfl

@[simp] theorem closeCase_usual (all : Bool) (a : CharClass) : (usual all).closeCase a = a := rfl

@[simp] theorem unicode_usual (all : Bool) : (usual all).unicode = true := rfl

@[simp] theorem classOf_usual (all : Bool) (c : Char) : (usual all).classOf c = .one c := rfl

/-- A repetition is as the settings say, unless a question mark follows. -/
theorem readGreed_of_head?_ne {all : Bool} (h : t.head? ≠ some '?') :
    readGreed (usual all) t = (.greedy, t) := by
  cases t with
  | nil => rfl
  | cons c t =>
    have hc : c ≠ '?' := fun he => h (by rw [he, List.head?_cons])
    simp [readGreed, hc, usual]

/-- A group is a catching one, unless a question mark follows. -/
theorem readGroupStart_of_head?_ne {all : Bool} (hr : r.flags = usual all) (ht : t.head? ≠ some '?') :
    readGroupStart r t = .ok (r.openNumbered, t) := by
  unfold readGroupStart
  rw [hr, skip_usual]
  split
  all_goals first
    | exact absurd List.head?_cons ht
    | rfl

/-- A backslash makes a character stand for itself that can be escaped. -/
theorem readEscape_of_isEscapable {all : Bool} {c : Char} (h : isEscapable c) (t : Text) :
    readEscape (usual all) (c :: t) = .ok (.char c, t) := by
  rw [readEscape, if_pos h]
  -- no escape sequence begins with such a character
  all_goals
    rintro rfl
    exact absurd h (by decide)

/-! ## Fragments inside a group -/

/-- The state at the start of a group that does not catch, behind some patterns and the setting. -/
def Reader.inside (ps : List (Nested Pattern)) (groups : Nat) : Reader :=
  { opened := [⟨{ parts := ps.reverse.map some ++ [none] }, usual true, none⟩], flags := usual true, groups }

/-- In such a group and in front of its end, a fragment is read as a pattern, and there are so many
catching groups then. -/
def ReadsAs (tail : Text) (ps : List (Nested Pattern)) (groups : Nat) (f : Text) (q : Nested Pattern)
    (groups' : Nat) : Prop :=
  ∃ r, Passes tail (inside ps groups) f r ∧ r.opened = (inside ps groups).opened ∧ r.flags = usual true ∧
    r.groups = groups' ∧ r.level.nested = q

variable {q : Nested Pattern} {n : Nat}

/-- The start of the text, as a part. -/
abbrev atStart : Nested Pattern := .leaf (.anchor .textStart)

/-- The group that catches what is in front of a fragment, as a part. -/
abbrev caughtFirst (greed : Greed) : Nested Pattern := ⟨.group 1 (.star greed (.char .any)), 2⟩

/-- What stands in front of a fragment whose rest is caught. -/
theorem passes_front (t : Text) : Passes t {} "(?s)^(?:".toList (inside [atStart] 0) :=
  .sign "^(?:".toList rfl rfl ⟨"?s)".toList, rfl⟩ <| .cons rfl rfl <|
    .sign [] rfl rfl ⟨"?:".toList, rfl⟩ .nil

/-- The beginning of a pattern that catches what is in front of a fragment. -/
def lead : Greed → Text
  | .greedy => "(?s)^(.*)(?:".toList
  | .reluctant => "(?s)^(.*?)(?:".toList

theorem passes_lead (greed : Greed) (t : Text) : Passes t {} (lead greed)
    (inside [atStart, caughtFirst greed] 1) := by
  cases greed with
  | reluctant =>
    exact .sign "^(.*?)(?:".toList rfl rfl ⟨"?s)".toList, rfl⟩ <| .cons rfl rfl <| .cons rfl rfl <|
      .cons rfl rfl <| .sign ")(?:".toList rfl rfl ⟨"?".toList, rfl⟩ <| .cons rfl rfl <|
      .sign [] rfl rfl ⟨"?:".toList, rfl⟩ .nil
  | greedy =>
    exact .sign "^(.*)(?:".toList rfl rfl ⟨"?s)".toList, rfl⟩ <| .cons rfl rfl <| .cons rfl rfl <|
      .cons rfl rfl <| .cons rfl rfl <| .cons rfl rfl <| .sign [] rfl rfl ⟨"?:".toList, rfl⟩ .nil

/-- The pattern that catches what is behind a fragment. -/
theorem readNested_front (h : ReadsAs ")(.*)$".toList [atStart] 0 f q n) :
    readNested ("(?s)^(?:".toList ++ f ++ ")(.*)$".toList) =
      .ok ⟨seqs [.anchor .textStart, q.value, .group (n + 1) (.star .greedy (.char .any)), .anchor .textEnd],
        max q.depth 1 + 2⟩ := by
  obtain ⟨⟨level, opened, flags, groups, names⟩, h, hopened, hflags, rfl, rfl⟩ := h
  subst hopened hflags
  have close : Passes [] ⟨level, (inside [atStart] 0).opened, usual true, groups, names⟩
      ")(.*)$".toList ⟨{ parts := [some (.leaf (.anchor .textEnd)),
        some ⟨.group (groups + 1) (.star .greedy (.char .any)), 2⟩, some (level.nested.within id),
        some atStart, none] }, [], usual true, groups + 1, names⟩ :=
    .cons rfl rfl <| .cons rfl rfl <| .cons rfl rfl <| .cons rfl rfl <| .cons rfl rfl <|
      .cons rfl rfl .nil
  rw [List.append_assoc, readNested_of_passes ((passes_front _).trans (h.trans close)) rfl]
  simp [Reader.finish, Level.nested, Level.joined, Level.last, Nested.within, Nested.leaf, sideBySide]
  omega

/-- What is read up to the end of the text, when a fragment is the last but the end. -/
theorem readNested_close {source : Text} {ps : List (Nested Pattern)} {m : Nat}
    (hsource : ∀ t, Passes t {} source (inside ps m)) (h : ReadsAs ")$".toList ps m f q n) :
    readNested (source ++ f ++ ")$".toList) = .ok ⟨seqs (ps.map Nested.value ++ [q.value, .anchor .textEnd]),
      sideBySide (0 :: (ps.map Nested.depth ++ [q.depth + 1, 0]))⟩ := by
  obtain ⟨⟨level, opened, flags, groups, names⟩, h, hopened, hflags, rfl, rfl⟩ := h
  subst hopened hflags
  have close : Passes [] ⟨level, (inside ps m).opened, usual true, groups, names⟩ ")$".toList
      ⟨{ parts := some (.leaf (.anchor .textEnd)) :: some (level.nested.within id) ::
        (ps.reverse.map some ++ [none]) }, [], usual true, groups, names⟩ := .cons rfl rfl <| .cons rfl rfl .nil
  rw [List.append_assoc, readNested_of_passes ((hsource _).trans (h.trans close)) rfl]
  simp [Reader.finish, Level.nested, Level.joined, Level.last, Nested.within, Nested.leaf, List.filterMap_map,
    Function.comp_def]

/-- The pattern that catches what is in front of a fragment. -/
theorem readNested_lead (greed : Greed) (h : ReadsAs ")$".toList [atStart, caughtFirst greed] 1 f q n) :
    readNested (lead greed ++ f ++ ")$".toList) =
      .ok ⟨seqs [.anchor .textStart, .group 1 (.star greed (.char .any)), q.value, .anchor .textEnd],
        max q.depth 1 + 2⟩ := by
  rw [readNested_close (passes_lead greed) h]
  simp [Nested.leaf, sideBySide]
  omega

/-- The pattern of the texts of a fragment. -/
theorem readNested_full (h : ReadsAs ")$".toList [atStart] 0 f q n) :
    readNested ("(?s)^(?:".toList ++ f ++ ")$".toList) =
      .ok ⟨seqs [.anchor .textStart, q.value, .anchor .textEnd], q.depth + 2⟩ := by
  rw [readNested_close passes_front h]
  simp [Nested.leaf, sideBySide]

end Interpolation.Pattern
