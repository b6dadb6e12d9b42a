import Interpolation.Proofs.Pattern.Preference

/-!
# Greed decides which match is preferred

A greedy repetition tries another round first, a reluctant one tries it last. That is an order among the ways
of a pattern, and it does not matter for whether there is a way, or for where the ways end.

* `Pattern.greedy` is a pattern with all repetitions greedy;
* `Pattern.alike_greedy`: the ways of the two end at the same places;
* `Pattern.accepts_iff`: a text has a match if there is a way from one of its places. So patterns that differ
  by greed accept the same texts (`Pattern.accepts_congr`).
-/

namespace Interpolation.Pattern

variable {p q : Pattern} {s x : Place} {t : Text}

/-- A pattern with all repetitions greedy. -/
def greedy : Pattern → Pattern
  | .empty => .empty
  | .char a => .char a
  | .anchor a => .anchor a
  | .group number p => .group number p.greedy
  | .seq p q => .seq p.greedy q.greedy
  | .alt p q => .alt p.greedy q.greedy
  | .opt _ p => .opt .greedy p.greedy
  | .plus _ p => .plus .greedy p.greedy

/-! ## Where ways end -/

/-- Two lists of ways from every place that end at the same places. -/
def Alike (round round' : Place → List Way) : Prop :=
  ∀ s x, (∃ w ∈ round s, w.stop = x) ↔ ∃ w ∈ round' s, w.stop = x

namespace Alike

variable {round round' next next' : Place → List Way}

theorem symm (h : Alike round round') : Alike round' round := fun s x => (h s x).symm

/-- It is enough to find ways of the second list. -/
theorem of_imp (h : ∀ s, ∀ w ∈ round s, ∃ v ∈ round' s, v.stop = w.stop)
    (h' : ∀ s, ∀ w ∈ round' s, ∃ v ∈ round s, v.stop = w.stop) : Alike round round' := by
  refine fun s x => ⟨?_, ?_⟩
  · rintro ⟨w, hw, rfl⟩
    exact h s w hw
  · rintro ⟨w, hw, rfl⟩
    exact h' s w hw

theorem exists_of_mem (h : Alike round round') {w : Way} (hw : w ∈ round s) : ∃ v ∈ round' s, v.stop = w.stop :=
  (h s _).1 ⟨w, hw, rfl⟩

/-- Further rounds, however they are preferred. -/
theorem exists_of_mem_onward (h : Alike round round') (greed greed' : Greed) (n : Nat) :
    ∀ s, ∀ w ∈ onward round greed n s, ∃ v ∈ onward round' greed' n s, v.stop = w.stop := by
  induction n with
  | zero =>
    intro s w hw
    exact ⟨.stay s, stay_mem_onward .., by rw [List.mem_singleton.1 hw]⟩
  | succ n ih =>
    intro s w hw
    rcases mem_onward_succ.1 hw with rfl | ⟨y, hy, hindex, z, hz, rfl⟩
    · exact ⟨.stay s, stay_mem_onward .., rfl⟩
    · obtain ⟨y', hy', hstop⟩ := h.exists_of_mem hy
      obtain ⟨z', hz', hstop'⟩ := ih _ z hz
      rw [← hstop] at hindex hz'
      exact ⟨_, mem_onward_succ.2 (.inr ⟨y', hy', hindex, z', hz', rfl⟩), hstop'⟩

theorem exists_of_mem_rounds (h : Alike round round') (greed greed' : Greed) (s : Place) :
    ∀ w ∈ rounds round greed s, ∃ v ∈ rounds round' greed' s, v.stop = w.stop := by
  intro w hw
  obtain ⟨y, hy, hw⟩ := List.mem_flatMap.1 hw
  obtain ⟨y', hy', hstop⟩ := h.exists_of_mem hy
  have of_mem {v : Way} (hv : v ∈ if y'.stop.index = s.index then [y']
      else (onward round' greed' s.rest.length y'.stop).map y'.andThen) : v ∈ rounds round' greed' s :=
    List.mem_flatMap.2 ⟨y', hy', hv⟩
  rw [hstop] at of_mem
  split at hw
  · obtain rfl := List.mem_singleton.1 hw
    rename_i hindex
    exact ⟨y', of_mem (by rw [if_pos hindex]; exact List.mem_singleton_self _), hstop⟩
  · rename_i hindex
    obtain ⟨z, hz, rfl⟩ := List.mem_map.1 hw
    obtain ⟨z', hz', hstop'⟩ := h.exists_of_mem_onward greed greed' _ _ z hz
    exact ⟨y'.andThen z', of_mem (by rw [if_neg hindex]; exact List.mem_map_of_mem hz'), hstop'⟩

theorem exists_of_mem_seq (h : Alike round round') (h' : Alike next next') (s : Place) :
    ∀ w ∈ (round s).flatMap (fun w => (next w.stop).map w.andThen),
      ∃ v ∈ (round' s).flatMap (fun w => (next' w.stop).map w.andThen), v.stop = w.stop := by
  intro w hw
  obtain ⟨y, hy, hw⟩ := List.mem_flatMap.1 hw
  obtain ⟨z, hz, rfl⟩ := List.mem_map.1 hw
  obtain ⟨y', hy', hstop⟩ := h.exists_of_mem hy
  obtain ⟨z', hz', hstop'⟩ := h'.exists_of_mem hz
  rw [← hstop] at hz'
  exact ⟨y'.andThen z', List.mem_flatMap.2 ⟨y', hy', List.mem_map_of_mem hz'⟩, hstop'⟩

end Alike

/-- The ways of a pattern end where they end if all repetitions are greedy. -/
theorem alike_greedy (p : Pattern) : Alike p.ways p.greedy.ways := by
  induction p with
  | empty | char | anchor => exact fun _ _ => Iff.rfl
  | group number p ih =>
    have caught {p q : Pattern} (h : Alike p.ways q.ways) (s : Place) :
        ∀ w ∈ (Pattern.group number p).ways s, ∃ v ∈ (Pattern.group number q).ways s, v.stop = w.stop := by
      intro w hw
      obtain ⟨y, hy, rfl⟩ := List.mem_map.1 hw
      obtain ⟨y', hy', hstop⟩ := h.exists_of_mem hy
      exact ⟨_, List.mem_map_of_mem hy', hstop⟩
    exact .of_imp (caught ih) (caught ih.symm)
  | seq p q ihp ihq => exact .of_imp (ihp.exists_of_mem_seq ihq) (ihp.symm.exists_of_mem_seq ihq.symm)
  | alt p q ihp ihq =>
    refine fun s x => ?_
    simp only [greedy, ways, List.mem_append, or_and_right, exists_or]
    exact or_congr (ihp s x) (ihq s x)
  | opt greed p ih =>
    refine fun s x => ?_
    simp only [greedy, mem_ways_opt, or_and_right, exists_or]
    exact or_congr_right (ih s x)
  | plus greed p ih =>
    exact .of_imp (ih.exists_of_mem_rounds greed .greedy) (ih.symm.exists_of_mem_rounds .greedy greed)

/-- There is a way of a pattern if there is one of the greedy pattern. -/
theorem ways_eq_nil_iff (p : Pattern) (s : Place) : p.ways s = [] ↔ p.greedy.ways s = [] := by
  simp only [List.eq_nil_iff_forall_not_mem]
  constructor
  · intro h w hw
    obtain ⟨v, hv, -⟩ := (alike_greedy p).symm.exists_of_mem hw
    exact h v hv
  · intro h w hw
    obtain ⟨v, hv, -⟩ := (alike_greedy p).exists_of_mem hw
    exact h v hv

/-! ## Matches in a text -/

/-- The first way that is found makes a match. -/
theorem isSome_findSome?_cut {found : List (Option Way)} (index : Nat) (hlength : found.length ≤ t.length + 1) :
    ((cut index 0 false t found).findSome? Piece.hit?).isSome = found.any Option.isSome := by
  induction t generalizing index found with
  | nil =>
    match found, hlength with
    | [], _ => rfl
    | [none], _ => rfl
    | [some w], _ => rfl
  | cons c t ih =>
    match found with
    | [] => rfl
    | none :: later =>
      rw [cut, List.findSome?_cons_of_isNone rfl, ih _ (Nat.le_of_succ_le_succ hlength)]
      rfl
    | some w :: later =>
      rw [cut]
      split <;> rfl

theorem length_placesFrom (t : Text) (index : Nat) (before : Option Char) :
    (placesFrom index before t).length = t.length + 1 := by
  induction t generalizing index before with
  | nil => rfl
  | cons c t ih => rw [placesFrom, List.length_cons, ih, List.length_cons]

/-- A text has a match if there is a way from one of its places. -/
theorem accepts_iff (p : Pattern) (t : Text) : p.accepts t ↔ ∃ s ∈ places t, p.ways s ≠ [] := by
  rw [accepts, find?, pieces, survey_eq,
    isSome_findSome?_cut 0 (Nat.le_of_eq (by rw [List.length_map, places, length_placesFrom]))]
  simp

/-- Patterns that differ by greed have a match in the same texts. -/
theorem accepts_congr (h : p.greedy = q.greedy) (t : Text) : p.accepts t = q.accepts t := by
  rw [Bool.eq_iff_iff, accepts_iff, accepts_iff]
  simp only [ne_eq, ways_eq_nil_iff p, ways_eq_nil_iff q, h]

/-! ## Composed patterns -/

theorem greedy_foldl (ps : List Pattern) (p : Pattern) :
    (ps.foldl .seq p).greedy = (ps.map greedy).foldl .seq p.greedy := by
  induction ps generalizing p with
  | nil => rfl
  | cons q ps ih => exact ih (.seq p q)

theorem greedy_seqs (ps : List Pattern) : (seqs ps).greedy = seqs (ps.map greedy) := by
  cases ps with
  | nil => rfl
  | cons p ps => exact greedy_foldl ps p

theorem greedy_times (p : Pattern) (n : Nat) : (p.times n).greedy = p.greedy.times n := by
  rw [times, times, greedy_seqs, List.map_replicate]

theorem greedy_upTo (greed : Greed) (p : Pattern) : ∀ n, (p.upTo greed n).greedy = p.greedy.upTo .greedy n
  | 0 => rfl
  | 1 => rfl
  | n + 2 => congrArg (fun q => Pattern.opt .greedy (.seq p.greedy q)) (greedy_upTo greed p (n + 1))

theorem greedy_repeated (greed : Greed) (p : Pattern) (count : Count) :
    (repeated greed p count).greedy = repeated .greedy p.greedy count := by
  unfold repeated
  split
  · rfl
  · exact greedy_times ..
  · rfl
  · rfl
  · simp only [greedy, greedy_times]
  · exact greedy_upTo ..
  · split
    · exact greedy_times ..
    · simp only [greedy, greedy_times, greedy_upTo]

/-- Patterns that differ by greed match the same whole texts. -/
theorem greedy_whole (p : Pattern) : p.whole.greedy = p.greedy.whole := rfl

end Interpolation.Pattern
