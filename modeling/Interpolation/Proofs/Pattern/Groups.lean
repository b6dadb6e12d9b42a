import Interpolation.Proofs.Pattern.Recognition

/-!
# What the groups of a token are

The grammars of tokens are patterns one after another, most of them plain or a group around a plain
pattern.

* `Pattern.mem_ways_seqs_plain` and `Pattern.mem_ways_seqs_group`: the ways of such a grammar, one
  pattern after another;
* `Way.span?_catching` and its companions: what a group on such a way has caught, and
  `Pattern.texts_of_catching` where there are two of them;
* `Pattern.width` is the least number of characters that a pattern takes;
* `exists_split_of_recognize?`: a first group and what follows it make up the token;
* `length_lt_of_recognize?`: a first group that something follows is shorter than the token.
-/

namespace Interpolation

namespace Pattern

variable {p q : Pattern} {ps : List Pattern} {s : Place} {t u r : Text} {w : Way} {number : Nat}

/-! ## Ways, one pattern after another -/

/-- The way behind a text that a group catches. -/
def catching (number : Nat) (s : Place) (u r : Text) : Way :=
  ⟨s.past u r, [⟨number, .opening, s.index⟩, ⟨number, .closing, s.index + u.length⟩]⟩

theorem mem_ways_seqs_plain (hp : p.isPlain) :
    w ∈ (seqs (p :: ps)).ways s ↔
      ∃ u r, s.rest = u ++ r ∧ p.Takes u ∧ w ∈ (seqs ps).ways (s.past u r) := by
  rw [mem_ways_seqs_cons]
  constructor
  · rintro ⟨x, hx, y, hy, rfl⟩
    obtain ⟨u, r, hr, hu, rfl⟩ := (mem_ways_of_isPlain hp).1 hx
    exact ⟨u, r, hr, hu, hy⟩
  · rintro ⟨u, r, hr, hu, hw⟩
    exact ⟨_, (mem_ways_of_isPlain hp).2 ⟨u, r, hr, hu, rfl⟩, w, hw, rfl⟩

theorem mem_ways_seqs_group (hp : p.isPlain) :
    w ∈ (seqs (.group number p :: ps)).ways s ↔
      ∃ u r, s.rest = u ++ r ∧ p.Takes u ∧
        ∃ y ∈ (seqs ps).ways (s.past u r), w = (catching number s u r).andThen y := by
  rw [mem_ways_seqs_cons]
  constructor
  · rintro ⟨x, hx, y, hy, rfl⟩
    obtain ⟨u, r, hr, hu, rfl⟩ := (mem_ways_group_of_isPlain hp).1 hx
    exact ⟨u, r, hr, hu, y, hy, rfl⟩
  · rintro ⟨u, r, hr, hu, y, hy, rfl⟩
    exact ⟨_, (mem_ways_group_of_isPlain hp).2 ⟨u, r, hr, hu, rfl⟩, y, hy, rfl⟩

theorem mem_ways_seqs_anchor {a : Anchor} :
    w ∈ (seqs (.anchor a :: ps)).ways s ↔ a.holds s.before s.rest ∧ w ∈ (seqs ps).ways s := by
  rw [mem_ways_seqs_cons]
  simp only [ways]
  split
  · rename_i ha
    constructor
    · rintro ⟨_, hx, y, hy, rfl⟩
      obtain rfl := List.mem_singleton.1 hx
      exact ⟨ha, hy⟩
    · rintro ⟨-, hw⟩
      exact ⟨_, List.mem_singleton_self _, w, hw, rfl⟩
  · rename_i ha
    constructor
    · rintro ⟨_, hx, -⟩
      exact absurd hx List.not_mem_nil
    · rintro ⟨h, -⟩
      exact absurd h ha

/-! ## Marks -/

theorem Walks.number_mem (h : p.Walks s w) : ∀ m ∈ w.marks, m.number ∈ p.groupNumbers := by
  induction h with
  | empty | char | anchor | skip => exact nofun
  | group _ ih =>
    intro m hm
    simp only [Way.caughtBy, List.mem_append, List.mem_cons, List.not_mem_nil, or_false] at hm
    rcases hm with (rfl | hm) | rfl
    · exact List.mem_cons_self
    · exact List.mem_cons_of_mem _ (ih m hm)
    · exact List.mem_cons_self
  | seq _ _ ihx ihy => exact fun m hm => List.mem_append.2 ((List.mem_append.1 hm).imp (ihx m) (ihy m))
  | left _ ih => exact fun m hm => List.mem_append_left _ (ih m hm)
  | right _ ih => exact fun m hm => List.mem_append_right _ (ih m hm)
  | opt _ ih | once _ ih => exact ih
  | more _ _ ihx ihy => exact fun m hm => (List.mem_append.1 hm).elim (ihx m) (ihy m)

/-- The marks on a way are those of the groups of the pattern. -/
theorem number_mem_of_mem_marks (p : Pattern) :
    ∀ s, ∀ w ∈ p.ways s, ∀ m ∈ w.marks, m.number ∈ p.groupNumbers :=
  fun s w hw => (walks_of_mem_ways p s w hw).number_mem

theorem Walks.index_le (h : p.Walks s w) :
    s.index ≤ w.stop.index ∧ ∀ m ∈ w.marks, m.index ≤ w.stop.index := by
  induction h with
  | empty | anchor | skip => exact ⟨Nat.le_refl _, nofun⟩
  | char => exact ⟨Nat.le_succ _, nofun⟩
  | group _ ih =>
    refine ⟨ih.1, fun m hm => ?_⟩
    simp only [Way.caughtBy, List.mem_append, List.mem_cons, List.not_mem_nil, or_false] at hm
    rcases hm with (rfl | hm) | rfl
    · exact ih.1
    · exact ih.2 m hm
    · exact Nat.le_refl _
  | seq _ _ ihx ihy | more _ _ ihx ihy =>
    refine ⟨Nat.le_trans ihx.1 ihy.1, fun m hm => ?_⟩
    exact (List.mem_append.1 hm).elim (fun hm => Nat.le_trans (ihx.2 m hm) ihy.1) (ihy.2 m)
  | left _ ih | right _ ih | opt _ ih | once _ ih => exact ih

/-- The marks on a way are no further on than its end. -/
theorem index_le_of_mem_marks (h : w ∈ p.ways s) : ∀ m ∈ w.marks, m.index ≤ w.stop.index :=
  (walks_of_mem_ways p s w h).index_le.2

/-! ## Numbers of groups -/

theorem groupNumbers_seqs (ps : List Pattern) :
    (seqs ps).groupNumbers = ps.flatMap groupNumbers := by
  have fold (ps : List Pattern) : ∀ p : Pattern,
      (ps.foldl .seq p).groupNumbers = p.groupNumbers ++ ps.flatMap groupNumbers := by
    induction ps with
    | nil => simp
    | cons q qs ih => simp [ih, groupNumbers]
  cases ps with
  | nil => rfl
  | cons p ps => exact fold ps p

theorem lastGroup_le_iff {k : Nat} : p.lastGroup ≤ k ↔ ∀ n ∈ p.groupNumbers, n ≤ k := by
  have fold (ns : List Nat) : ∀ m, ns.foldl max m ≤ k ↔ m ≤ k ∧ ∀ n ∈ ns, n ≤ k := by
    induction ns with
    | nil => simp
    | cons n ns ih =>
      intro m
      rw [List.foldl_cons, ih, Nat.max_le, List.forall_mem_cons, and_assoc]
  rw [lastGroup, fold]
  simp

theorem le_lastGroup {n : Nat} (h : n ∈ p.groupNumbers) : n ≤ p.lastGroup :=
  lastGroup_le_iff.1 (Nat.le_refl _) n h

theorem lastGroup_eq {n : Nat} (h : n ∈ p.groupNumbers) (hle : ∀ m ∈ p.groupNumbers, m ≤ n) :
    p.lastGroup = n :=
  Nat.le_antisymm (lastGroup_le_iff.2 hle) (le_lastGroup h)

/-! ## Width -/

/-- The least number of characters that a pattern takes. -/
def width : Pattern → Nat
  | .empty | .anchor _ | .opt _ _ => 0
  | .char _ => 1
  | .group _ p | .plus _ p => p.width
  | .seq p q => p.width + q.width
  | .alt p q => min p.width q.width

theorem width_le_of_takes (h : p.Takes u) : p.width ≤ u.length := by
  induction h with
  | empty | anchor | skip => exact Nat.zero_le _
  | char => exact Nat.le_refl 1
  | group _ ih | once _ ih => exact ih
  | opt => exact Nat.zero_le _
  | seq _ _ ihu ihv =>
    rw [List.length_append]
    exact Nat.add_le_add ihu ihv
  | left _ ih => exact Nat.le_trans (Nat.min_le_left _ _) ih
  | right _ ih => exact Nat.le_trans (Nat.min_le_right _ _) ih
  | more _ _ ihu _ =>
    rw [List.length_append]
    exact Nat.le_trans ihu (Nat.le_add_right _ _)

/-- A way leads over at least as many characters as the pattern takes. -/
theorem width_le_of_mem_ways (h : w ∈ p.ways s) : p.width ≤ s.rest.length := by
  obtain ⟨u, hu, -, ht⟩ := p.takes_of_mem_ways s w h
  rw [hu, List.length_append]
  exact Nat.le_trans (width_le_of_takes ht) (Nat.le_add_right _ _)

end Pattern

/-! ## Groups -/

namespace Way

variable {number n : Nat} {s : Place} {u r : Text} {w x y : Way}

/-- What is known of a group when some marks have been passed: where it has last been opened, and
what it has last caught. -/
def note (number : Nat) (known : Nat × Option (Nat × Nat)) (m : Mark) : Nat × Option (Nat × Nat) :=
  if m.number = number then
    match m.edge with
    | .opening => (m.index, known.2)
    | .closing => (known.1, some (known.1, m.index))
  else known

theorem span?_eq (w : Way) (number : Nat) :
    w.span? number = (w.marks.foldl (note number) (0, none)).2 := rfl

theorem foldl_note_of_ne {ms : List Mark} (h : ∀ m ∈ ms, m.number ≠ number)
    (known : Nat × Option (Nat × Nat)) : ms.foldl (note number) known = known := by
  induction ms generalizing known with
  | nil => rfl
  | cons m ms ih =>
    rw [List.foldl_cons, note, if_neg (h m List.mem_cons_self),
      ih fun m hm => h m (List.mem_cons_of_mem _ hm)]

/-- Marks of other groups behind a way change nothing. -/
theorem span?_andThen_left (h : ∀ m ∈ y.marks, m.number ≠ number) :
    (x.andThen y).span? number = x.span? number := by
  rw [span?_eq, span?_eq, andThen, List.foldl_append, foldl_note_of_ne h]

/-- Marks of other groups in front of a way change nothing. -/
theorem span?_andThen_right (h : ∀ m ∈ x.marks, m.number ≠ number) :
    (x.andThen y).span? number = y.span? number := by
  rw [span?_eq, span?_eq, andThen, List.foldl_append, foldl_note_of_ne h]

theorem span?_catching (number : Nat) (s : Place) (u r : Text) :
    (Pattern.catching number s u r).span? number = some (s.index, s.index + u.length) := by
  simp [span?_eq, Pattern.catching, note]

/-- A group has caught nothing behind all marks. -/
theorem le_of_span? {bound start stop : Nat} (h : ∀ m ∈ w.marks, m.index ≤ bound)
    (hspan : w.span? number = some (start, stop)) : stop ≤ bound := by
  have fold : ∀ (ms : List Mark) (known : Nat × Option (Nat × Nat)), (∀ m ∈ ms, m.index ≤ bound) →
      (∀ x ∈ known.2, x.2 ≤ bound) → ∀ x ∈ (ms.foldl (note number) known).2, x.2 ≤ bound := by
    intro ms
    induction ms with
    | nil => exact fun _ _ hknown => hknown
    | cons m ms ih =>
      intro known hms hknown
      refine ih _ (fun m' hm' => hms m' (List.mem_cons_of_mem _ hm')) fun x hx => ?_
      rw [note] at hx
      split at hx
      · split at hx
        · exact hknown x hx
        · obtain rfl := Option.some.inj hx
          exact hms m List.mem_cons_self
      · exact hknown x hx
  exact fold w.marks (0, none) h nofun (start, stop) hspan

theorem marks_catching_ne (h : n ≠ number) :
    ∀ m ∈ (Pattern.catching number s u r).marks, m.number ≠ n := by
  simp [Pattern.catching, h.symm]

end Way

namespace Pattern

variable {p : Pattern} {ps : List Pattern} {s : Place} {t u r : Text} {w y : Way} {number : Nat}

/-- What a group has caught, if it took part. -/
theorem get?_groupsOf {first : Nat} (hn : number < p.lastGroup) :
    (p.groupsOf t first w).get? (number + 1) =
      (w.span? (number + 1)).map fun (start, stop) => slice t start stop := by
  simp [Groups.get?, groupsOf, hn]

/-- The text of a group that has caught one. -/
theorem text_groupsOf {first start stop : Nat} (h : w.span? (number + 1) = some (start, stop))
    (hn : number < p.lastGroup) :
    (p.groupsOf t first w).text (number + 1) = slice t start stop := by
  rw [Groups.text, get?_groupsOf hn, h]
  rfl

theorem length_slice_le (t : Text) (start stop : Nat) :
    (slice t start stop).length ≤ stop - start := by
  rw [slice, List.length_take]
  exact Nat.min_le_left _ _

/-- The text that a group has caught from the start of a token. -/
theorem slice_zero_append (u r : Text) : slice (u ++ r) 0 u.length = u := by
  simp [slice]

/-- The text that a group has caught behind another text. -/
theorem slice_append {start : Nat} (u m r : Text) (h : start = u.length) :
    slice (u ++ (m ++ r)) start (start + m.length) = m := by
  subst h
  simp [slice]

/-- A text that ends inside the first part of another one is part of it. -/
theorem slice_isInfix {start stop : Nat} (h : stop ≤ u.length) : slice (u ++ r) start stop <:+: u := by
  rw [slice, List.drop_append, List.take_append_of_le_length (by rw [List.length_drop]; omega)]
  exact (List.take_prefix _ _).isInfix.trans (List.drop_suffix _ _).isInfix

/-- What a group has caught last, wherever it stands in a way. -/
theorem text_groupsOf_catching {first : Nat} {v z : Text} {x : Way}
    (hw : w = x.andThen ((catching (number + 1) s u r).andThen y)) (hn : number < p.lastGroup)
    (hy : ∀ m ∈ y.marks, m.number ≠ number + 1) (ht : t = v ++ (u ++ z)) (hs : s.index = v.length) :
    (p.groupsOf t first w).text (number + 1) = u := by
  have hspan : w.span? (number + 1) = some (s.index, s.index + u.length) := by
    rw [hw, ← Way.andThen_assoc, Way.span?_andThen_left hy, Way.span?_eq, Way.andThen, List.foldl_append]
    simp [catching, Way.note]
  rw [text_groupsOf hspan hn, ht, slice_append v u z hs]

/-- What the first group has caught from the start of a token. -/
theorem text_one_of_catching {first : Nat} {z : Text} (hw : w = (catching 1 (.start t) u r).andThen y)
    (hn : 0 < p.lastGroup) (hy : ∀ m ∈ y.marks, m.number ≠ 1) (ht : t = u ++ z) :
    (p.groupsOf t first w).text 1 = u :=
  text_groupsOf_catching (hw.trans (Way.stay_andThen (.start t) _).symm) hn hy (v := []) ht rfl

/-- The texts that two groups have caught, the second one at the end of the token. -/
theorem texts_of_catching {number : Nat} {token u m v : Text} {w : Way} (ht : token = u ++ (m ++ v))
    (hs : s.index = u.length + m.length) (hl : p.lastGroup = 2)
    (hw : w = (catching 1 (.start token) u r).andThen (catching 2 s v [])) :
    (p.groupsOf token number w).text 1 = u ∧ (p.groupsOf token number w).text 2 = v := by
  constructor
  · exact text_one_of_catching hw (by rw [hl]; decide) (Way.marks_catching_ne (by decide)) ht
  · rw [← andThen_stay (catching 2 s v [])] at hw
    exact text_groupsOf_catching hw (by rw [hl]; decide) nofun (v := u ++ m) (z := [])
      (by simp [ht]) (by simp [hs])

end Pattern

open Pattern in
/-- A first group and what follows it make up the token. -/
theorem exists_split_of_recognize? {p : Pattern} {ps : List Pattern} {token : Text} {g : Groups}
    (hp : p.isPlain) (hn : 1 ∉ (seqs ps).groupNumbers)
    (hl : 0 < (seqs (.group 1 p :: ps)).lastGroup)
    (h : recognize? (seqs (.group 1 p :: ps)) token = some g) :
    ∃ u v, token = u ++ v ∧ p.Takes u ∧ (seqs ps).Takes v ∧ g.text 1 = u := by
  obtain ⟨-, w, hm, hstop, rfl⟩ := exists_way_of_recognize? h
  obtain ⟨u, r, hr, hu, y, hy, rfl⟩ := (mem_ways_seqs_group hp).1 hm
  have hr : token = u ++ r := hr
  obtain ⟨v, hv, -, ht⟩ := takes_of_mem_ways _ _ y hy
  rw [show y.stop.rest = [] from hstop, List.append_nil] at hv
  obtain rfl : r = v := hv
  have span : ((catching 1 (.start token) u r).andThen y).span? (0 + 1) =
      some (0, 0 + u.length) := by
    rw [Way.span?_andThen_left]
    · exact Way.span?_catching ..
    · intro m hm he
      have := number_mem_of_mem_marks _ _ y hy m hm
      rw [he] at this
      exact hn this
  refine ⟨u, r, hr, hu, ht, ?_⟩
  rw [text_groupsOf span hl, hr, Nat.zero_add, slice_zero_append]

/-- A first group that something follows is shorter than the token. -/
theorem length_lt_of_recognize? {p : Pattern} {ps : List Pattern} {token : Text} {g : Groups}
    (hp : p.isPlain) (hn : 1 ∉ (Pattern.seqs ps).groupNumbers) (hw : 0 < (Pattern.seqs ps).width)
    (hl : 0 < (Pattern.seqs (.group 1 p :: ps)).lastGroup)
    (h : recognize? (.seqs (.group 1 p :: ps)) token = some g) :
    (g.text 1).length < token.length := by
  obtain ⟨u, v, rfl, -, hv, hg⟩ := exists_split_of_recognize? hp hn hl h
  have := Pattern.width_le_of_takes hv
  rw [hg, List.length_append]
  omega

end Interpolation
