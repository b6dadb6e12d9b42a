import Interpolation.Proofs.Pattern.Groups
import Interpolation.Proofs.Pattern.Splitting

/-!
# The place that a repetition prefers

A repetition ends at the last place from which the patterns behind it lead on if it is greedy, and at
the first one if it is reluctant, as long as its ways stand in this order.

* `Greed.Prefers` compares two places by what follows there;
* `Pattern.ways_shortest` and `Pattern.ways_longest`: the ways of a repetition, by its first round;
* `Pattern.Ordered`: the ways of a pattern stand in the order of preference. Repetitions of characters
  do (`Pattern.ordered_star_char`);
* `Pattern.exists_preferred_of_best`: the place where an ordered pattern ends, and `Pattern.best_shortest`
  where it is known which is the first one that leads on;
* `Pattern.atEnd` asks for the end of the text, and `Pattern.captures?_whole` is the match of a whole
  text in these terms, `exists_best_of_recognize?` that of a token; `Pattern.exists_group_of_best` and
  `Pattern.exists_plain_of_best` follow the preferred way to the end, one pattern after another;
* `exists_recognize?_of_shortest`: a token whose name is as short as possible is cut where the patterns
  behind the name first take the rest.
-/

namespace Interpolation

/-- Whether a repetition that may end at two places of a text prefers the first one, given what follows
there. -/
def Greed.Prefers : Greed → Text → Text → Prop
  | .greedy, r, r' => r <:+ r'
  | .reluctant, r, r' => r' <:+ r

theorem Greed.Prefers.refl (greed : Greed) (r : Text) : greed.Prefers r r := by
  cases greed <;> exact List.suffix_refl r

namespace Pattern

variable {p q : Pattern} {ps : List Pattern} {s : Place} {t u v r : Text} {w : Way} {a : CharClass}
variable {onwards : Place → Option Way}

/-! ## Repetitions -/

theorem further_eq (hp : p.isPlain) (hne : ¬p.Takes []) (greed : Greed) (s : Place) :
    further p.ways greed s = (p.ways s).flatMap fun w => (Pattern.star greed p).ways w.stop := by
  rw [further, List.flatMap_def, List.flatMap_def]
  refine congrArg _ (List.map_congr_left fun w hw => ?_)
  obtain ⟨u, r, hr, hu, rfl⟩ := (mem_ways_of_isPlain hp).1 hw
  have hu : u.length ≠ 0 := fun h => hne (List.length_eq_zero_iff.1 h ▸ hu)
  rw [if_neg (by simpa [Way.stay] using hu), ways_star hne]
  exact List.map_id _

/-- As few rounds as possible: none, or one and then as few as possible. -/
theorem ways_shortest (hp : p.isPlain) (hne : ¬p.Takes []) (s : Place) :
    (Pattern.star .reluctant p).ways s =
      .stay s :: (p.ways s).flatMap fun w => (Pattern.star .reluctant p).ways w.stop := by
  rw [ways_star hne, onward_eq p.reaches_of_mem_ways, ← further_eq hp hne]

/-- As many rounds as possible: one and then as many as possible, or none. -/
theorem ways_longest (hp : p.isPlain) (hne : ¬p.Takes []) (s : Place) :
    (Pattern.star .greedy p).ways s =
      ((p.ways s).flatMap fun w => (Pattern.star .greedy p).ways w.stop) ++ [.stay s] := by
  rw [ways_star hne, onward_eq p.reaches_of_mem_ways, ← further_eq hp hne]

/-- The ways of a pattern stand in the order of preference. -/
def Ordered (greed : Greed) (p : Pattern) : Prop :=
  ∀ s, (p.ways s).Pairwise fun w v => greed.Prefers w.stop.rest v.stop.rest

theorem suffix_of_mem_ways (h : w ∈ p.ways s) : w.stop.rest <:+ s.rest := by
  obtain ⟨u, hu, -, -⟩ := p.takes_of_mem_ways s w h
  exact ⟨u, hu.symm⟩

/-- A repetition is ordered if it is after different first rounds. -/
theorem ordered_star {greed : Greed} (hp : p.isPlain) (hne : ¬p.Takes [])
    (h : ∀ s, (p.ways s).Pairwise fun w v => ∀ x ∈ (Pattern.star greed p).ways w.stop,
      ∀ y ∈ (Pattern.star greed p).ways v.stop, greed.Prefers x.stop.rest y.stop.rest) :
    (Pattern.star greed p).Ordered greed := by
  intro s
  generalize hn : s.rest.length = n
  induction n using Nat.strongRecOn generalizing s with
  | ind n ih =>
    have rounds : ((p.ways s).flatMap fun w => (Pattern.star greed p).ways w.stop).Pairwise
        fun w v => greed.Prefers w.stop.rest v.stop.rest := by
      refine List.pairwise_flatMap.2 ⟨fun w hw => ih w.stop.rest.length ?_ w.stop rfl, h s⟩
      obtain ⟨u, hu, -, htakes⟩ := p.takes_of_mem_ways s w hw
      have : u.length ≠ 0 := fun h => hne (List.length_eq_zero_iff.1 h ▸ htakes)
      rw [← hn, hu, List.length_append]
      omega
    have later : ∀ w ∈ (p.ways s).flatMap fun w => (Pattern.star greed p).ways w.stop,
        w.stop.rest <:+ s.rest := by
      intro w hw
      obtain ⟨x, hx, hw⟩ := List.mem_flatMap.1 hw
      exact (suffix_of_mem_ways hw).trans (suffix_of_mem_ways hx)
    cases greed with
    | greedy =>
      rw [ways_longest hp hne, List.pairwise_append]
      exact ⟨rounds, List.pairwise_singleton _ _, fun w hw v hv => by
        rw [List.mem_singleton.1 hv]
        exact later w hw⟩
    | reluctant =>
      rw [ways_shortest hp hne, List.pairwise_cons]
      exact ⟨later, rounds⟩

/-- There is at most one way over a character. -/
theorem pairwise_ways_char (R : Way → Way → Prop) (a : CharClass) (s : Place) :
    ((Pattern.char a).ways s).Pairwise R := by
  simp only [ways]
  split
  · exact .nil
  · split
    · exact List.pairwise_singleton _ _
    · exact .nil

theorem ordered_star_char (greed : Greed) (a : CharClass) : (Pattern.star greed (.char a)).Ordered greed :=
  ordered_star rfl not_takes_char_nil fun s => pairwise_ways_char _ a s

theorem ordered_plus_char (greed : Greed) (a : CharClass) : (Pattern.plus greed (.char a)).Ordered greed := by
  intro s
  have h := ordered_star_char greed a s
  cases greed with
  | greedy => exact (List.pairwise_append.1 h).1
  | reluctant => exact (List.pairwise_cons.1 h).2

/-- What may be there is preferred to nothing. -/
theorem best_opt_greedy : Way.best onwards ((Pattern.opt .greedy p).ways s) =
    (Way.best onwards (p.ways s)).or (onwards s) := by
  rw [ways, Way.best_append, Way.best_stay]

theorem best_eq_none_iff {ws : List Way} :
    Way.best onwards ws = none ↔ ∀ w ∈ ws, onwards w.stop = none := by
  simp [Way.best, List.findSome?_eq_none_iff]

/-- An ordered pattern ends at the preferred one of the places from which there is a way on. -/
theorem exists_preferred_of_best {greed : Greed} (hp : p.isPlain) (hordered : p.Ordered greed)
    (h : Way.best onwards (p.ways s) = some w) :
    ∃ u r, s.rest = u ++ r ∧ p.Takes u ∧ onwards (s.past u r) = some w ∧
      ∀ u' r', s.rest = u' ++ r' → p.Takes u' → onwards (s.past u' r') ≠ none → greed.Prefers r r' := by
  obtain ⟨ws, x, vs, hws, hx, hbefore⟩ := List.findSome?_eq_some_iff.1 h
  obtain ⟨u, r, hr, hu, rfl⟩ :=
    (mem_ways_of_isPlain hp).1 (hws ▸ List.mem_append_right ws List.mem_cons_self)
  refine ⟨u, r, hr, hu, ?_, fun u' r' hr' hu' hne => ?_⟩
  · rw [← Way.best_stay onwards, Way.best, List.findSome?_singleton]
    exact hx
  · have hsorted := hordered s
    rw [hws, List.pairwise_append] at hsorted
    have hmem : Way.stay (s.past u' r') ∈ ws ++ .stay (s.past u r) :: vs :=
      hws ▸ (mem_ways_of_isPlain hp).2 ⟨u', r', hr', hu', rfl⟩
    rcases List.mem_append.1 hmem with hmem | hmem
    · exact absurd (Option.map_eq_none_iff.1 (hbefore _ hmem)) hne
    · rcases List.mem_cons.1 hmem with heq | hmem
      · obtain rfl : r' = r := congrArg (fun w : Way => w.stop.rest) heq
        exact .refl greed r'
      · exact (List.pairwise_cons.1 hsorted.2.1).1 _ hmem

/-- A group around an ordered pattern ends there too. -/
theorem exists_preferred_of_best_group {greed : Greed} {number : Nat} (hp : p.isPlain)
    (hordered : p.Ordered greed) (h : Way.best onwards ((Pattern.group number p).ways s) = some w) :
    ∃ u r x, s.rest = u ++ r ∧ p.Takes u ∧ onwards (s.past u r) = some x ∧
      w = (catching number s u r).andThen x ∧
      ∀ u' r', s.rest = u' ++ r' → p.Takes u' → onwards (s.past u' r') ≠ none → greed.Prefers r r' := by
  rw [ways, Way.best_map_caughtBy, Option.map_eq_some_iff] at h
  obtain ⟨y, hy, rfl⟩ := h
  obtain ⟨u, r, hr, hu, hx, hpreferred⟩ := exists_preferred_of_best hp hordered hy
  obtain ⟨x, hx', rfl⟩ := Option.map_eq_some_iff.1 hx
  exact ⟨u, r, x, hr, hu, hx', rfl, fun u' r' hr' hu' hne => hpreferred u' r' hr' hu' (by simpa using hne)⟩

/-- The first place from where there is a way on is preferred. -/
theorem best_shortest (hs : s.rest = u ++ r) (hu : ∀ c ∈ u, a.contains c)
    (hskip : ∀ v v', u = v ++ v' → v' ≠ [] → onwards (s.past v (v' ++ r)) = none)
    (hstop : onwards (s.past u r) = some w) :
    Way.best onwards ((Pattern.star .reluctant (.char a)).ways s) = some w := by
  cases hbest : Way.best onwards ((Pattern.star .reluctant (.char a)).ways s) with
  | none =>
    have := best_eq_none_iff.1 hbest _
      ((mem_ways_of_isPlain rfl).2 ⟨u, r, hs, takes_star_char.2 hu, rfl⟩)
    exact absurd (this.symm.trans hstop) nofun
  | some x =>
    obtain ⟨v, r', hr', -, hx, hpreferred⟩ := exists_preferred_of_best rfl (ordered_star_char _ _) hbest
    obtain ⟨v', rfl⟩ : r <:+ r' := hpreferred u r hs (takes_star_char.2 hu) (by rw [hstop]; exact nofun)
    have huv : u = v ++ v' := List.append_cancel_right (by rw [← hs, hr', List.append_assoc])
    by_cases hv' : v' = []
    · subst hv'
      rw [List.append_nil] at huv
      rw [← hstop, ← hx, huv, List.nil_append]
    · exact absurd ((hskip v v' huv hv').symm.trans hx) nofun

/-! ## The way to the end of a text -/

/-- Patterns one after another: the first one has to end where the others lead on. -/
theorem best_seqs_cons : Way.best onwards ((seqs (p :: ps)).ways s) =
    Way.best (fun t => Way.best onwards ((seqs ps).ways t)) (p.ways s) := by
  rw [ways_seqs_cons, ways]
  exact Way.best_flatMap fun w _ => Way.best_map_andThen ..

/-- The end of the text is where there is nothing left to go. -/
def atEnd (s : Place) : Option Way := if s.rest.isEmpty then some (.stay s) else none

theorem best_atEnd (ws : List Way) :
    Way.best atEnd ws = ws.find? fun w => w.stop.rest.isEmpty := by
  induction ws with
  | nil => rfl
  | cons w ws ih =>
    rw [Way.best_cons, ih, List.find?_cons, atEnd]
    cases w.stop.rest.isEmpty with
    | true => simp [andThen_stay]
    | false => rfl

/-- The preferred way to the end of the text is one of the ways, and ends there. -/
theorem mem_of_best_atEnd {ws : List Way} (h : Way.best atEnd ws = some w) :
    w ∈ ws ∧ w.stop.rest = [] := by
  rw [best_atEnd] at h
  have hstop := List.find?_some h
  exact ⟨List.mem_of_find?_eq_some h, List.isEmpty_iff.1 hstop⟩

/-- If there is a way to the end of the text at all, one is preferred. -/
theorem exists_best_atEnd {ws : List Way} (h : w ∈ ws) (hstop : w.stop.rest = []) :
    ∃ y ∈ ws, y.stop.rest = [] ∧ Way.best atEnd ws = some y := by
  rw [best_atEnd]
  cases hfound : ws.find? fun w => w.stop.rest.isEmpty with
  | none => exact absurd (List.find?_eq_none.1 hfound w h) (by simp [hstop])
  | some y =>
    have hy := List.find?_some hfound
    exact ⟨y, List.mem_of_find?_eq_some hfound, List.isEmpty_iff.1 hy, rfl⟩

/-- The groups of a whole text are those of the preferred way to its end. -/
theorem captures?_whole (p : Pattern) (t : Text) :
    p.whole.captures? t = (Way.best atEnd (p.ways (.start t))).map (p.groupsOf t 0) := by
  rw [captures?_of_fromStart (fromStart_whole p), ways_whole, List.head?_filter, groupsOf_whole,
    best_atEnd]

/-- From a place without a text of the language there is no way to the end. -/
theorem best_atEnd_eq_none (h : ¬p.Takes s.rest) : Way.best atEnd (p.ways s) = none := by
  rw [best_atEnd, List.find?_eq_none]
  intro w hw hstop
  obtain ⟨u, hu, -, ht⟩ := p.takes_of_mem_ways s w hw
  rw [List.isEmpty_iff.1 hstop, List.append_nil] at hu
  exact h (hu ▸ ht)

/-- Where a text of the language stands at the end, there is a way to the end. -/
theorem exists_best_of_takes (hp : p.isUnanchored) (h : p.Takes s.rest) :
    ∃ y ∈ p.ways s, y.stop.rest = [] ∧ Way.best atEnd (p.ways s) = some y := by
  obtain ⟨w, hw, hstop⟩ := exists_way_of_takes h hp s [] (List.append_nil _).symm
  exact exists_best_atEnd hw (by rw [hstop]; rfl)

/-- Patterns to the end of the text, the first one being ordered and caught by a group: it ends at the
preferred one of the places where the others take the rest. -/
theorem exists_group_of_best {greed : Greed} {number : Nat} (hp : p.isPlain) (hordered : p.Ordered greed)
    (hps : (seqs ps).isUnanchored) (h : Way.best atEnd ((seqs (.group number p :: ps)).ways s) = some w) :
    ∃ u r x, s.rest = u ++ r ∧ p.Takes u ∧ Way.best atEnd ((seqs ps).ways (s.past u r)) = some x ∧
      w = (catching number s u r).andThen x ∧
      ∀ u' r', s.rest = u' ++ r' → p.Takes u' → (seqs ps).Takes r' → greed.Prefers r r' := by
  rw [best_seqs_cons] at h
  obtain ⟨u, r, x, hr, hu, hx, hw, hpreferred⟩ := exists_preferred_of_best_group hp hordered h
  refine ⟨u, r, x, hr, hu, hx, hw, fun u' r' hr' hu' htakes => hpreferred u' r' hr' hu' ?_⟩
  obtain ⟨y, -, -, hy⟩ := exists_best_of_takes (s := s.past u' r') hps htakes
  rw [hy]
  exact nofun

/-- Patterns to the end of the text, the first one being caught by no group. -/
theorem exists_plain_of_best (hp : p.isPlain) (h : Way.best atEnd ((seqs (p :: ps)).ways s) = some w) :
    ∃ u r, s.rest = u ++ r ∧ p.Takes u ∧ Way.best atEnd ((seqs ps).ways (s.past u r)) = some w := by
  rw [best_seqs_cons] at h
  obtain ⟨x, hx, hw⟩ := List.exists_of_findSome?_eq_some h
  obtain ⟨u, r, hr, hu, rfl⟩ := (mem_ways_of_isPlain hp).1 hx
  refine ⟨u, r, hr, hu, ?_⟩
  rw [← Way.best_stay (fun t => Way.best atEnd ((seqs ps).ways t)), Way.best, List.findSome?_singleton]
  exact hw

/-- No patterns to the end of the text: it has been reached. -/
theorem eq_stay_of_best_nil (h : Way.best atEnd ((seqs []).ways s) = some w) : s.rest = [] ∧ w = .stay s := by
  rw [seqs, ways, Way.best_stay, atEnd] at h
  split at h
  · rename_i hrest
    exact ⟨List.isEmpty_iff.1 hrest, (Option.some.inj h).symm⟩
  · cases h

/-- The preferred way over a group that repeats characters as few times as possible. -/
theorem best_group_shortest (number : Nat) (hs : s.rest = u ++ r) (hu : ∀ c ∈ u, a.contains c)
    (hskip : ∀ v v', u = v ++ v' → v' ≠ [] → onwards (s.past v (v' ++ r)) = none)
    (hstop : onwards (s.past u r) = some w) :
    Way.best onwards ((Pattern.group number (.star .reluctant (.char a))).ways s) =
      some ((catching number s u r).andThen w) := by
  rw [ways, Way.best_map_caughtBy, best_shortest hs hu (w := w.behind ⟨number, .closing, s.index + u.length⟩)
    (fun v v' hv hv' => by rw [hskip v v' hv hv']; rfl) (by rw [hstop]; rfl)]
  rfl

end Pattern

open Pattern

/-- The groups of a token are those of the preferred way to its end. -/
theorem exists_best_of_recognize? {p : Pattern} {t : Text} {g : Groups} (h : recognize? p t = some g) :
    ∃ w, Way.best atEnd (p.ways (.start t)) = some w ∧ g = p.groupsOf t 0 w := by
  have hne := (exists_way_of_recognize? h).1
  rw [recognize?_eq hne, ← best_atEnd, Option.map_eq_some_iff] at h
  obtain ⟨w, hw, rfl⟩ := h
  exact ⟨w, hw, rfl⟩

/-- A token whose name is as short as possible is cut where the patterns behind the name first take the
rest. -/
theorem exists_recognize?_of_shortest {ps : List Pattern} {u r : Text} {a : CharClass}
    (hps : (seqs ps).isUnanchored) (hn : 1 ∉ (seqs ps).groupNumbers)
    (hl : 0 < (seqs (.group 1 (.star .reluctant (.char a)) :: ps)).lastGroup)
    (he : u ++ r ≠ engineProperty) (hu : ∀ c ∈ u, a.contains c) (hr : (seqs ps).Takes r)
    (hfirst : ∀ v v', u = v ++ v' → v' ≠ [] → ¬(seqs ps).Takes (v' ++ r)) :
    ∃ g, recognize? (seqs (.group 1 (.star .reluctant (.char a)) :: ps)) (u ++ r) = some g ∧
      g.text 1 = u := by
  obtain ⟨y, hy, -, hbest⟩ := exists_best_of_takes (s := (Place.start (u ++ r)).past u r) hps hr
  have hway : Way.best (fun t => Way.best atEnd ((seqs ps).ways t))
        ((Pattern.group 1 (.star .reluctant (.char a))).ways (.start (u ++ r))) =
      some ((catching 1 (.start (u ++ r)) u r).andThen y) :=
    best_group_shortest 1 rfl hu (fun v v' hv hv' => best_atEnd_eq_none (hfirst v v' hv hv')) hbest
  have hspan : ((catching 1 (.start (u ++ r)) u r).andThen y).span? (0 + 1) = some (0, 0 + u.length) := by
    rw [Way.span?_andThen_left, Way.span?_catching]
    · rfl
    · intro m hm hone
      have hmem := number_mem_of_mem_marks _ _ y hy m hm
      rw [hone] at hmem
      exact hn hmem
  refine ⟨_, by rw [recognize?, if_neg he, captures?_whole, best_seqs_cons, hway, Option.map_some], ?_⟩
  rw [text_groupsOf hspan hl, Nat.zero_add, slice_zero_append]

end Interpolation
