import Interpolation.Proofs.Pattern.Preference
import Interpolation.Proofs.Pattern.Reading

/-!
# What a match leaves of a text

A pattern of a whole text that catches what stands behind a prefix, or in front of a suffix.

* `Pattern.captures?_anchored`: between the two ends of the text, the preferred way to its end counts;
* `Pattern.MatchesWhole`: a fragment of a pattern matches a text from end to end;
* `Pattern.answer_front` and `Pattern.answer_back`: the first group is what stands behind the prefix of the
  first way, and in front of the preferred one of the suffixes, if the other pattern has no first group;
* `Pattern.answer_front_of_groups`: else the first group is no more than a part of the prefix.
-/

namespace Interpolation

namespace Pattern

variable {p q : Pattern} {ps qs : List Pattern} {s : Place} {t u r v : Text} {w x : Way} {greed : Greed}

theorem ways_seqs_append (ps qs : List Pattern) :
    (seqs (ps ++ qs)).ways = (Pattern.seq (seqs ps) (seqs qs)).ways := by
  induction ps with
  | nil =>
    funext s
    simp only [List.nil_append, seqs, ways, List.flatMap_singleton]
    exact (List.map_id _).symm
  | cons p ps ih =>
    funext s
    have assoc (x y : Way) : (x.andThen y).andThen = x.andThen ∘ y.andThen :=
      funext fun z => Way.andThen_assoc x y z
    rw [List.cons_append, ways_seqs_cons]
    simp only [ways, ih, ways_seqs_cons, List.flatMap_assoc, List.flatMap_map, List.map_flatMap,
      List.map_map, assoc, Way.andThen_stop]

/-- The groups of a match depend on the ways of a pattern and on how many groups there are. -/
theorem captures?_congr (hways : p.ways = q.ways) (hlast : p.lastGroup = q.lastGroup) :
    p.captures? = q.captures? := by
  have hgroups : p.groupsOf = q.groupsOf := by
    funext t start w
    rw [groupsOf, groupsOf, hlast]
  funext t
  rw [captures?, captures?, find?, find?, pieces, pieces, survey_eq, survey_eq, hways, hgroups]

/-- The groups of a whole text, for patterns between the two ends. -/
theorem captures?_anchored (ps : List Pattern) (t : Text) :
    (seqs (.anchor .textStart :: (ps ++ [.anchor .textEnd]))).captures? t =
      (Way.best atEnd ((seqs ps).ways (.start t))).map ((seqs ps).groupsOf t 0) := by
  rw [← captures?_whole]
  refine congrFun (captures?_congr ?_ ?_) t
  · funext s
    rw [ways_seqs_cons, whole, ways_seqs_cons]
    simp only [ways, ways_seqs_append, ways_seqs_cons]
  · rw [lastGroup_whole, lastGroup, lastGroup, groupNumbers_seqs, groupNumbers_seqs]
    simp [groupNumbers]

/-- A pattern between the two ends accepts the texts that it takes. -/
theorem accepts_anchored (hq : q.isUnanchored) :
    (seqs [.anchor .textStart, q, .anchor .textEnd]).accepts t ↔ q.Takes t := by
  have hsome : (seqs [.anchor .textStart, q, .anchor .textEnd]).accepts t =
      (Way.best atEnd (q.ways (.start t))).isSome := by
    have hcaptures := congrArg Option.isSome (captures?_anchored [q] t)
    rwa [captures?, Option.isSome_map, Option.isSome_map] at hcaptures
  rw [hsome]
  constructor
  · refine fun h => Classical.byContradiction fun hnot => ?_
    rw [best_atEnd_eq_none (s := .start t) hnot] at h
    cases h
  · intro h
    obtain ⟨y, -, -, hbest⟩ := exists_best_of_takes (s := .start t) hq h
    rw [hbest]
    rfl

/-! ## Whole texts -/

/-- The texts that a fragment of a pattern matches from end to end, where `.` accepts line feeds. -/
def MatchesWhole (f u : Text) : Prop :=
  ∃ p, read ("(?s)^(?:".toList ++ f ++ ")$".toList) = .ok p ∧ p.accepts u

theorem matchesWhole_iff {f : Text} {n : Nat} {q : Nested Pattern} (h : ReadsAs ")$".toList [atStart] 0 f q n)
    (hq : q.value.isUnanchored) (hdepth : q.depth + 2 ≤ maxDepth) (u : Text) :
    MatchesWhole f u ↔ q.value.Takes u := by
  have hread := read_of_readNested (readNested_full h) hdepth
  constructor
  · rintro ⟨p, hp, hu⟩
    rw [hread] at hp
    obtain rfl := Except.ok.inj hp
    exact (accepts_anchored hq).1 hu
  · exact fun hu => ⟨_, hread, (accepts_anchored hq).2 hu⟩

/-! ## Remainders -/

/-- A group that catches any text in front of the end catches all of it. -/
theorem best_rest (number : Nat) (s : Place) :
    Way.best atEnd ((seqs [.group number (.star .greedy (.char .any))]).ways s) =
      some (catching number s s.rest []) := by
  have htakes : (Pattern.star .greedy (.char .any)).Takes s.rest := takes_star_char.2 fun _ _ => rfl
  obtain ⟨y, hy, hstop, hbest⟩ := exists_best_of_takes
    (p := seqs [.group number (.star .greedy (.char .any))]) (s := s) rfl (.group htakes)
  obtain ⟨u, r, hr, -, z, hz, rfl⟩ := (mem_ways_seqs_group rfl).1 hy
  obtain rfl := mem_ways_seqs_nil.1 hz
  obtain rfl : r = [] := hstop
  rw [List.append_nil] at hr
  rw [hbest, hr]
  exact congrArg some (andThen_stay _)

/-- Where there is a way on from everywhere, the first way is preferred. -/
theorem best_some (f : Place → Way) (ws : List Way) :
    Way.best (fun s => some (f s)) ws = ws.head?.map fun w => w.andThen (f w.stop) := by
  cases ws with
  | nil => rfl
  | cons w ws => rw [Way.best_cons, Option.map_some, Option.some_or, List.head?_cons, Option.map_some]

/-- The groups of a pattern that catches what is behind a prefix. -/
theorem captures?_front (q : Pattern) (number : Nat) (t : Text) :
    (seqs [.anchor .textStart, q, .group number (.star .greedy (.char .any)), .anchor .textEnd]).captures? t =
      (q.ways (.start t)).head?.map fun w =>
        (seqs [q, .group number (.star .greedy (.char .any))]).groupsOf t 0
          (w.andThen (catching number w.stop w.stop.rest [])) := by
  have := captures?_anchored [q, .group number (.star .greedy (.char .any))] t
  rw [best_seqs_cons] at this
  simp only [best_rest, best_some, Option.map_map] at this
  exact this

/-- What is behind a prefix is caught in the last group. -/
theorem lastGroup_front {m : Nat} (hq : ∀ n ∈ q.groupNumbers, n ≤ m) :
    (seqs [.anchor .textStart, q, .group (m + 1) (.star .greedy (.char .any)),
      .anchor .textEnd]).lastGroup = m + 1 := by
  refine lastGroup_eq (by simp [groupNumbers_seqs, groupNumbers]) fun n hn => ?_
  have hn : n ∈ q.groupNumbers ∨ n = m + 1 := by
    simpa [groupNumbers_seqs, groupNumbers, star] using hn
  exact hn.elim (fun hn => Nat.le_succ_of_le (hq n hn)) Nat.le_of_eq

theorem lastGroup_back (hq : ∀ n ∈ q.groupNumbers, n ≤ 1) :
    (seqs [.anchor .textStart, .group 1 (.star greed (.char .any)), q, .anchor .textEnd]).lastGroup = 1 := by
  refine lastGroup_eq (by simp [groupNumbers_seqs, groupNumbers]) fun n hn => ?_
  have hn : n = 1 ∨ n ∈ q.groupNumbers := by
    simpa [groupNumbers_seqs, groupNumbers, star] using hn
  exact hn.elim Nat.le_of_eq (hq n)

/-- The groups of a pattern that catches what is in front of a suffix. -/
theorem captures?_back (q : Pattern) (greed : Greed) (t : Text) :
    (seqs [.anchor .textStart, .group 1 (.star greed (.char .any)), q, .anchor .textEnd]).captures? t =
      (Way.best (fun s => Way.best atEnd (q.ways s))
        ((Pattern.group 1 (.star greed (.char .any))).ways (.start t))).map
          ((seqs [.group 1 (.star greed (.char .any)), q]).groupsOf t 0) := by
  have := captures?_anchored [.group 1 (.star greed (.char .any)), q] t
  rwa [best_seqs_cons] at this

theorem get?_one_front (q : Pattern) {number : Nat} (hn : 0 < number) (t : Text) :
    ((seqs [.anchor .textStart, q, .group number (.star .greedy (.char .any)),
      .anchor .textEnd]).captures? t).bind (·.get? 1) =
      (q.ways (.start t)).head?.bind fun w =>
        ((w.andThen (catching number w.stop w.stop.rest [])).span? 1).map fun (start, stop) =>
          slice t start stop := by
  have hlast : 0 < (seqs [q, .group number (.star .greedy (.char .any))]).lastGroup :=
    Nat.lt_of_lt_of_le hn (le_lastGroup (by simp [groupNumbers_seqs, groupNumbers]))
  rw [captures?_front, Option.bind_map]
  exact congrArg _ (funext fun w => get?_groupsOf hlast)

/-- The first way through a pattern leads over a text that the pattern takes. -/
theorem exists_prefix_of_head? (hw : (q.ways (.start t)).head? = some w) :
    ∃ u, t = u ++ w.stop.rest ∧ w.stop.index = u.length ∧ q.Takes u := by
  obtain ⟨u, hu, hstop, htakes⟩ := takes_of_mem_ways q _ w (List.mem_of_mem_head? hw)
  exact ⟨u, hu, by rw [hstop, Place.past_index, Place.start, Nat.zero_add], htakes⟩

/-- The first group of a pattern that catches what is behind a prefix. -/
theorem answer_front (hq : q.isUnanchored) (hn : 1 ∉ q.groupNumbers) (t : Text) :
    let answer := (((seqs [.anchor .textStart, q, .group 1 (.star .greedy (.char .any)),
      .anchor .textEnd]).captures? t).bind (·.get? 1)).getD t
    (answer = t ∧ ∀ u r, t = u ++ r → ¬q.Takes u) ∨
      ∃ u, t = u ++ answer ∧ q.Takes u ∧
        ∃ w, (q.ways (.start t)).head? = some w ∧ w.stop.rest = answer := by
  intro answer
  have hget := get?_one_front q Nat.one_pos t
  cases hw : (q.ways (.start t)).head? with
  | none =>
    refine .inl ⟨by simp only [answer, hget, hw, Option.bind_none, Option.getD_none], fun u r hr hu => ?_⟩
    obtain ⟨w, hmem, -⟩ := exists_way_of_takes hu hq (.start t) r hr
    exact List.not_mem_nil (List.head?_eq_none_iff.1 hw ▸ hmem)
  | some w =>
    obtain ⟨u, hu, hindex, htakes⟩ := exists_prefix_of_head? hw
    have hspan : (w.andThen (catching 1 w.stop w.stop.rest [])).span? 1 =
        some (w.stop.index, w.stop.index + w.stop.rest.length) := by
      rw [Way.span?_andThen_right, Way.span?_catching]
      intro m hm he
      have := number_mem_of_mem_marks q _ w (List.mem_of_mem_head? hw) m hm
      rw [he] at this
      exact hn this
    have hanswer : answer = w.stop.rest := by
      have hslice := slice_append u w.stop.rest [] hindex
      rw [List.append_nil, ← hu] at hslice
      simp only [answer, hget, hw, Option.bind_some, hspan, Option.map_some, Option.getD_some, hslice]
    exact .inr ⟨u, by rw [hanswer]; exact hu, htakes, w, rfl, hanswer.symm⟩

/-- The first group of a pattern that catches what is behind a prefix in a later group. -/
theorem answer_front_of_groups {number : Nat} (hn : 1 < number) (t : Text) :
    let answer := (((seqs [.anchor .textStart, q, .group number (.star .greedy (.char .any)),
      .anchor .textEnd]).captures? t).bind (·.get? 1)).getD t
    answer = t ∨ ∃ u r, t = u ++ r ∧ q.Takes u ∧ answer <:+: u := by
  intro answer
  have hget := get?_one_front q (Nat.zero_lt_of_lt hn) t
  cases hw : (q.ways (.start t)).head? with
  | none => exact .inl (by simp only [answer, hget, hw, Option.bind_none, Option.getD_none])
  | some w =>
    obtain ⟨u, hu, hindex, htakes⟩ := exists_prefix_of_head? hw
    have hspan : (w.andThen (catching number w.stop w.stop.rest [])).span? 1 = w.span? 1 :=
      Way.span?_andThen_left (Way.marks_catching_ne (Nat.ne_of_lt hn))
    cases hcaught : w.span? 1 with
    | none =>
      exact .inl (by simp only [answer, hget, hw, Option.bind_some, hspan, hcaught, Option.map_none,
        Option.getD_none])
    | some x =>
      have hle := Way.le_of_span? (index_le_of_mem_marks (List.mem_of_mem_head? hw)) hcaught
      refine .inr ⟨u, w.stop.rest, hu, htakes, ?_⟩
      simp only [answer, hget, hw, Option.bind_some, hspan, hcaught, Option.map_some, Option.getD_some]
      exact hu ▸ slice_isInfix (hindex ▸ hle)

/-- The first group of a pattern that catches what is in front of a suffix. -/
theorem answer_back (hq : q.isUnanchored) (hn : 1 ∉ q.groupNumbers) (greed : Greed) (t : Text) :
    let answer := (((seqs [.anchor .textStart, .group 1 (.star greed (.char .any)), q,
      .anchor .textEnd]).captures? t).bind (·.get? 1)).getD t
    (answer = t ∧ ∀ u r, t = u ++ r → ¬q.Takes r) ∨
      ∃ r, t = answer ++ r ∧ q.Takes r ∧ ∀ u r', t = u ++ r' → q.Takes r' → greed.Prefers r r' := by
  intro answer
  have onwards {r : Text} (u : Text) (hr : q.Takes r) :
      Way.best atEnd (q.ways ((Place.start t).past u r)) ≠ none := by
    obtain ⟨y, -, -, hy⟩ := exists_best_of_takes (s := (Place.start t).past u r) hq hr
    rw [hy]
    exact nofun
  cases hw : Way.best (fun s => Way.best atEnd (q.ways s))
      ((Pattern.group 1 (.star greed (.char .any))).ways (.start t)) with
  | none =>
    refine .inl ⟨?_, fun u r hr hm => onwards u hm ?_⟩
    · simp only [answer, captures?_back, hw]
      rfl
    · exact best_eq_none_iff.1 hw _ ((mem_ways_group_of_isPlain rfl).2
        ⟨u, r, hr, takes_star_char.2 fun _ _ => rfl, rfl⟩)
  | some w =>
    obtain ⟨u, r, x, hr, -, hx, hwx, hpreferred⟩ := exists_preferred_of_best_group rfl (ordered_star_char _ _) hw
    replace hr : t = u ++ r := hr
    obtain ⟨hmem, hstop⟩ := mem_of_best_atEnd hx
    obtain ⟨v, hv, -, htakes⟩ := takes_of_mem_ways q _ x hmem
    rw [hstop, List.append_nil] at hv
    have hspan : w.span? (0 + 1) = some (0, 0 + u.length) := by
      rw [hwx, Way.span?_andThen_left, Way.span?_catching]
      · rfl
      · intro m hm he
        have := number_mem_of_mem_marks q _ x hmem m hm
        rw [he] at this
        exact hn this
    have hlast : 0 < (seqs [.group 1 (.star greed (.char .any)), q]).lastGroup :=
      le_lastGroup (by simp [groupNumbers_seqs, groupNumbers])
    have hanswer : answer = u := by
      simp only [answer, captures?_back, hw, Option.map_some, Option.bind_some]
      rw [get?_groupsOf hlast, hspan, Option.map_some, Option.getD_some, Nat.zero_add, hr]
      exact slice_zero_append u r
    refine .inr ⟨r, by rw [hanswer]; exact hr, ?_, fun u' r' hr' hm => ?_⟩
    · exact (show r = v from hv) ▸ htakes
    · exact hpreferred u' r' hr' (takes_star_char.2 fun _ _ => rfl) (onwards u' hm)

end Pattern

end Interpolation
