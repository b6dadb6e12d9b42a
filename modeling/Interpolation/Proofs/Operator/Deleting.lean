import Interpolation.Proofs.Glob.Wildcards
import Interpolation.Proofs.Operator.Slicing
import Interpolation.Proofs.Pattern.Fragments
import Interpolation.Proofs.Pattern.Remainders

/-!
# Deletions

An operator that deletes puts a glob into a pattern of the whole value, whose first group is meant to be
what stays.

* `Deletion.Leaves`: what stays without the longest or shortest part of a kind, and
  `Operator.evaluate_delete_wildcards` for the parts that a glob of wildcards matches;
* `Deletion.Deletes`: what stays without some part of a kind, and `Operator.evaluate_delete_fragment` for
  globs that are fragments of patterns. `Pattern.MatchesWhole` are the texts of such a fragment, and
  `Glob.tame_translate` says which globs can be read in place.

At the front, the part that stays is caught behind the glob, so groups in the glob come first. The pattern
of the whole value nests deeper than the glob, so it may nest too deeply where the glob alone does not.
-/

namespace Interpolation

/-! ## Fragments -/

open Pattern in
/-- A glob without anchors and backslashes is translated to a tame fragment. -/
theorem Glob.tame_translate (greedy : Bool) {g : Text} (h : ∀ c ∈ g, c ∉ ['^', '$', '\\']) :
    Tame (translate greedy g) := by
  fun_induction translate greedy g with
  | case1 => exact trivial
  | case2 | case3 | case4 => exact absurd (by simp) (h '\\' List.mem_cons_self)
  | case5 cs ih | case6 cs ih | case7 cs ih =>
    have ht := ih fun c hc => h c (List.mem_cons_of_mem _ hc)
    simp [separatorClass, Tame, ht]
  | case8 cs ih =>
    have ht := ih fun c hc => h c (List.mem_cons_of_mem _ hc)
    cases greedy <;> simp [Tame, ht]
  | case9 c cs _ _ _ _ _ _ _ ih =>
    have ht := ih fun c hc => h c (List.mem_cons_of_mem _ hc)
    have hc := h c List.mem_cons_self
    simp only [List.mem_cons, List.not_mem_nil, or_false, not_or] at hc
    exact ⟨hc.1, hc.2.1, fun _ => head?_translate_ne greedy cs, fun he => absurd he hc.2.2, ht⟩

theorem Glob.open_not_mem_translate (greedy : Bool) {g : Text} (h : '(' ∉ g) :
    '(' ∉ translate greedy g := by
  fun_induction translate greedy g with
  | case8 cs ih => cases greedy <;> simp_all
  | _ => simp_all [separatorClass]

/-! ## Tokens -/

namespace Deletion

open Pattern Grammar

variable {d : Deletion} {x glob token : Text} {g : Groups}

/-- The groups of the token of a deletion are what stands in front of the operator and behind it. -/
theorem exists_groups_of_recognize? (h : recognize? d.grammar token = some g) :
    ∃ u v, token = u ++ (d.sign ++ v) ∧ g.text 1 = u ∧ g.text 2 = v := by
  obtain ⟨-, w, hw, hstop, rfl⟩ := exists_way_of_recognize? h
  obtain ⟨u, r, hr, -, y, hy, rfl⟩ := (mem_ways_seqs_group rfl).1 hw
  have hplain : (Pattern.literal d.sign).isPlain := by rcases d with ⟨_ | _, _ | _⟩ <;> rfl
  obtain ⟨_, r', hr', hsign, hy⟩ := (mem_ways_seqs_plain hplain).1 hy
  obtain ⟨v, r'', hr'', -, z, hz, rfl⟩ := (mem_ways_seqs_group rfl).1 hy
  obtain rfl := mem_ways_seqs_nil.1 hz
  obtain rfl : r'' = [] := hstop
  obtain rfl := (takes_literal _).1 hsign
  replace hr' : r = d.sign ++ r' := hr'
  replace hr'' : r' = v ++ [] := hr''
  rw [List.append_nil] at hr''
  subst hr' hr''
  have hr : token = u ++ (d.sign ++ r') := hr
  have hlast : d.grammar.lastGroup = 2 := by rcases d with ⟨_ | _, _ | _⟩ <;> rfl
  exact ⟨u, r', hr, texts_of_catching hr (by simp [Place.start]) hlast rfl⟩

/-- A token is cut at the operator that stands behind a name without its sign. -/
theorem exists_recognize? (hx : '\n' ∉ x) (hsign : ∀ c ∈ d.sign, c ∉ x) (hglob : '\n' ∉ glob) :
    ∃ g, recognize? d.grammar (x ++ (d.sign ++ glob)) = some g ∧ g.text 1 = x ∧ g.text 2 = glob := by
  obtain ⟨c, cs, hc⟩ : ∃ c cs, d.sign = c :: cs := by rcases d with ⟨_ | _, _ | _⟩ <;> exact ⟨_, _, rfl⟩
  have hengine : x ++ (d.sign ++ glob) ≠ engineProperty := fun he => by
    have hmem : c ∈ engineProperty := by rw [← he, hc]; simp
    rcases d with ⟨_ | _, _ | _⟩ <;> (obtain ⟨rfl, -⟩ := List.cons.inj hc) <;> exact absurd hmem (by decide)
  have hunanchored : (seqs [.literal d.sign, .group 2 longest]).isUnanchored := by
    rcases d with ⟨_ | _, _ | _⟩ <;> rfl
  obtain ⟨g, hg, hname⟩ := exists_recognize?_of_shortest hunanchored
    (by rcases d with ⟨_ | _, _ | _⟩ <;> decide) (by rcases d with ⟨_ | _, _ | _⟩ <;> decide) hengine
    (contains_notNewline hx)
    (takes_seqs_cons.2 ⟨d.sign, glob, rfl, (takes_literal _).2 rfl, .group (takes_dots.2 hglob)⟩) <| by
    rintro v v' rfl hv' h
    obtain ⟨_, w, hw, hliteral, -⟩ := takes_seqs_cons.1 h
    obtain ⟨e, v', rfl⟩ := List.exists_cons_of_ne_nil hv'
    rw [(takes_literal _).1 hliteral, hc] at hw
    simp only [List.cons_append, List.cons.injEq] at hw
    exact hsign c (hc ▸ List.mem_cons_self) (by simp [hw.1])
  refine ⟨g, hg, hname, ?_⟩
  obtain ⟨u, v, ht, hu, hv⟩ := exists_groups_of_recognize? hg
  obtain rfl : x = u := hname.symm.trans hu
  rw [hv, List.append_cancel_left (List.append_cancel_left ht)]

end Deletion

/-! ## What stays of a value -/

/-- A value, put together from the part at one end that is deleted and from what stays. -/
def Side.join : Side → Text → Text → Text
  | .front, u, w => u ++ w
  | .back, u, w => w ++ u

/-- Whether a part of a value is at least as long as another one, or at most as long. -/
def Greed.Favours : Greed → Text → Text → Prop
  | .greedy, u, u' => u'.length ≤ u.length
  | .reluctant, u, u' => u.length ≤ u'.length

namespace Deletion

open Pattern

variable {d : Deletion} {kind : Text → Prop} {v w : Text}

/-- What stays of a value without its longest or shortest part of a kind at one end: all of it if it has
no such part there. -/
def Leaves (d : Deletion) (kind : Text → Prop) (v w : Text) : Prop :=
  (∃ u, v = d.side.join u w ∧ kind u ∧
    ∀ u' w', v = d.side.join u' w' → kind u' → d.greed.Favours u u') ∨
  w = v ∧ ∀ u w', v = d.side.join u w' → ¬kind u

/-- What stays of a value without some part of a kind at one end: all of it if it has no such part
there. -/
def Deletes (d : Deletion) (kind : Text → Prop) (v w : Text) : Prop :=
  (∃ u, v = d.side.join u w ∧ kind u) ∨ w = v ∧ ∀ u w', v = d.side.join u w' → ¬kind u

theorem favours_of_prefers {greed : Greed} {u u' r r' : Text} (h : greed.Prefers r r')
    (hv : u ++ r = u' ++ r') : greed.Favours u u' ∧ greed.swap.Favours r r' := by
  have hlength := congrArg List.length hv
  rw [List.length_append, List.length_append] at hlength
  cases greed with
  | greedy =>
    have := List.IsSuffix.length_le h
    exact ⟨by simp only [Greed.Favours]; omega, this⟩
  | reluctant =>
    have := List.IsSuffix.length_le h
    exact ⟨by simp only [Greed.Favours]; omega, this⟩

theorem specialize_back (greed : Greed) (fragment : Text) :
    specialize ⟨.back, greed⟩ fragment = lead greed.swap ++ fragment ++ ")$".toList := by
  cases greed <;> rfl

/-- What stays of a value is what the first group of the pattern catches, if there is a match. -/
theorem apply_of_read {glob : Text} {p : Pattern}
    (h : Pattern.read (d.specialize (Glob.translate (d.greed = .greedy) glob)) = .ok p) :
    d.apply glob v = .ok (((p.captures? v).bind (·.get? 1)).getD v) := by
  rw [apply, h]

/-- The pattern of a whole value that catches what stays in front of a fragment. -/
theorem readNested_back {f : Text} {q : Nested Pattern} {n : Nat} (greed : Greed)
    (h : ReadsAs ")$".toList [atStart, caughtFirst greed.swap] 1 f q n) :
    readNested (specialize ⟨.back, greed⟩ f) = .ok ⟨seqs [.anchor .textStart,
      .group 1 (.star greed.swap (.char .any)), q.value, .anchor .textEnd], max q.depth 1 + 2⟩ :=
  specialize_back greed f ▸ readNested_lead greed.swap h

/-- Where a fragment leaves room for a group and a sequence around it, so it does for the rest of the
pattern of a whole value. -/
theorem max_depth_le {n : Nat} (h : n + 2 ≤ maxDepth) : max n 1 + 2 ≤ maxDepth := by
  have hone : 1 + 2 ≤ maxDepth := by decide
  omega

/-- Of a value the wildcards of a glob delete the longest or the shortest part that the glob matches. -/
theorem exists_apply_wildcards (d : Deletion) (ps : List Glob.Part) (v : Text) :
    ∃ w, d.apply (Glob.text ps) v = .ok w ∧ d.Leaves (Glob.Matches ps) v w := by
  obtain ⟨side, greed⟩ := d
  have hq := Glob.isUnanchored_pattern greed ps
  have hn : 1 ∉ (Glob.pattern greed ps).groupNumbers := by simp [Glob.groupNumbers_pattern]
  have hdepth := max_depth_le ((Glob.shape ps).depth_add_le (n := 2) (by decide))
  cases side with
  | front =>
    have hread := readNested_front (Glob.readsAs_translate (by decide) greed ps [atStart] 0)
    refine ⟨_, apply_of_read (read_of_readNested hread hdepth), ?_⟩
    rcases answer_front hq hn v with ⟨hanswer, hnone⟩ | ⟨u, hu, hm, x, hx, hrest⟩
    · exact .inr ⟨hanswer, fun u w' hv hm => hnone u w' hv (Glob.takes_pattern.2 hm)⟩
    · refine .inl ⟨u, hu, Glob.takes_pattern.1 hm, fun u' w' hv hm' => ?_⟩
      have hprefers := Glob.prefers_of_ways hx (r := w') ⟨u', hv, hm'⟩
      rw [hrest] at hprefers
      exact (favours_of_prefers hprefers (hu.symm.trans hv)).1
  | back =>
    have hread := readNested_back greed
      (Glob.readsAs_translate (by decide) greed ps [atStart, caughtFirst greed.swap] 1)
    refine ⟨_, apply_of_read (read_of_readNested hread hdepth), ?_⟩
    rcases answer_back hq hn greed.swap v with ⟨hanswer, hnone⟩ | ⟨r, hr, hm, hpreferred⟩
    · exact .inr ⟨hanswer, fun u w' hv hm => hnone w' u hv (Glob.takes_pattern.2 hm)⟩
    · refine .inl ⟨r, hr, Glob.takes_pattern.1 hm, fun u' w' hv hm' => ?_⟩
      have hprefers := hpreferred w' u' hv (Glob.takes_pattern.2 hm')
      have hfavours := (favours_of_prefers hprefers (hr.symm.trans hv)).2
      cases greed <;> exact hfavours

/-- What a deletion comes to when the glob is a fragment of a pattern that leaves room for the pattern of
the whole value. At the back the part that stays is all that is caught. At the front it is caught in the
last group, behind those of the fragment, and the first group counts. -/
theorem exists_apply_fragment (d : Deletion) {glob : Text} (v : Text) {p : Nested Pattern}
    (hfree : ∀ c ∈ glob, c ∉ ['^', '$', '\\'])
    (hread : readNested (Glob.translate (d.greed = .greedy) glob) = .ok p) (hdepth : p.depth + 2 ≤ maxDepth) :
    ∃ P w, Pattern.read (d.specialize (Glob.translate (d.greed = .greedy) glob)) = .ok P ∧
      d.apply glob v = .ok w ∧
      (d.side = .back ∨ P.lastGroup = 1 →
        d.Deletes (MatchesWhole (Glob.translate (d.greed = .greedy) glob)) v w) ∧
      (d.side = .back ∨ P.lastGroup = 1 ∨ w = v ∨
        ∃ u r, v = u ++ r ∧ MatchesWhole (Glob.translate (d.greed = .greedy) glob) u ∧ w <:+: u) ∧
      ('(' ∉ glob → P.lastGroup = 1) := by
  obtain ⟨side, greed⟩ := d
  obtain ⟨p', hcopies⟩ := exists_readsAs (Glob.tame_translate _ hfree) hread
  obtain ⟨q₀, _, hfull, hdepth₀, hcopy₀, -⟩ := hcopies _ .back [atStart] 0
  have matches_iff {k m : Nat} {q : Pattern} (hcopy : Copy k true true m p' q) (u : Text) :
      MatchesWhole (Glob.translate (greed = .greedy) glob) u ↔ q.Takes u :=
    (matchesWhole_iff hfull hcopy₀.isUnanchored (hdepth₀ ▸ hdepth) u).trans <|
      (hcopy₀.takes_iff u).symm.trans (hcopy.takes_iff u)
  cases side with
  | front =>
    obtain ⟨q, m, hq, hdepth', hcopy, hm⟩ := hcopies _ .front [atStart] 0
    have hspecialize := read_of_readNested (readNested_front hq) (max_depth_le (hdepth' ▸ hdepth))
    have hlast := lastGroup_front fun n hn => (hcopy.bounds n hn).2
    rcases Nat.eq_zero_or_pos m with rfl | hpos
    · -- the fragment has no groups
      have hn : 1 ∉ q.value.groupNumbers := fun h => absurd (hcopy.bounds 1 h).2 (by decide)
      refine ⟨_, _, hspecialize, apply_of_read hspecialize, fun _ => ?_, .inr (.inl hlast), fun _ => hlast⟩
      rcases answer_front hcopy.isUnanchored hn v with ⟨hanswer, hnone⟩ | ⟨u, hu, htakes, -⟩
      · exact .inr ⟨hanswer, fun u w' hv hm => hnone u w' hv ((matches_iff hcopy u).1 hm)⟩
      · exact .inl ⟨u, hu, (matches_iff hcopy u).2 htakes⟩
    · -- the first group is one of the fragment's own
      refine ⟨_, _, hspecialize, apply_of_read hspecialize, fun h => ?_, .inr (.inr ?_), fun hg => ?_⟩
      · have hone : m + 1 = 1 := hlast.symm.trans (h.resolve_left nofun)
        omega
      · exact (answer_front_of_groups (Nat.succ_lt_succ hpos) v).imp_right fun ⟨u, r, hr, htakes, hw⟩ =>
          ⟨u, r, hr, (matches_iff hcopy u).2 htakes, hw⟩
      · exact absurd (hm (Glob.open_not_mem_translate _ hg)) (Nat.ne_of_gt hpos)
  | back =>
    obtain ⟨q, m, hq, hdepth', hcopy, hm⟩ := hcopies _ .back [atStart, caughtFirst greed.swap] 1
    have hspecialize := read_of_readNested (readNested_back greed hq) (max_depth_le (hdepth' ▸ hdepth))
    have hn : 1 ∉ q.value.groupNumbers := fun h => absurd (hcopy.bounds 1 h).1 (by decide)
    refine ⟨_, _, hspecialize, apply_of_read hspecialize, fun _ => ?_, .inl rfl, fun hg => ?_⟩
    · rcases answer_back hcopy.isUnanchored hn greed.swap v with ⟨hanswer, hnone⟩ | ⟨r, hr, htakes, -⟩
      · exact .inr ⟨hanswer, fun u w' hv hm => hnone w' u hv ((matches_iff hcopy u).1 hm)⟩
      · exact .inl ⟨r, hr, (matches_iff hcopy r).2 htakes⟩
    · obtain rfl := hm (Glob.open_not_mem_translate _ hg)
      exact lastGroup_back fun n hn => Nat.le_trans (hcopy.bounds n hn).2 (by decide)

/-- A fragment that leaves no room for the pattern of the whole value. -/
theorem apply_eq_tooDeep (d : Deletion) {glob : Text} (v : Text) {p : Nested Pattern}
    (hfree : ∀ c ∈ glob, c ∉ ['^', '$', '\\'])
    (hread : readNested (Glob.translate (d.greed = .greedy) glob) = .ok p) (hdepth : maxDepth < p.depth + 2) :
    d.apply glob v = .error (.pattern .tooDeep) := by
  obtain ⟨side, greed⟩ := d
  obtain ⟨_, hcopies⟩ := exists_readsAs (Glob.tame_translate _ hfree) hread
  have tooDeep {P : Pattern} {q : Nested Pattern} (hq : q.depth = p.depth)
      (h : readNested (specialize ⟨side, greed⟩ (Glob.translate (greed = .greedy) glob)) =
        .ok ⟨P, max q.depth 1 + 2⟩) : apply ⟨side, greed⟩ glob v = .error (.pattern .tooDeep) := by
    have hlt : maxDepth < max q.depth 1 + 2 := by omega
    simp only [apply, read_eq_tooDeep h hlt]
  cases side with
  | front =>
    obtain ⟨q, _, hq, hdepth', -⟩ := hcopies _ .front [atStart] 0
    exact tooDeep hdepth' (readNested_front hq)
  | back =>
    obtain ⟨q, _, hq, hdepth', -⟩ := hcopies _ .back [atStart, caughtFirst greed.swap] 1
    exact tooDeep hdepth' (readNested_back greed hq)

end Deletion

namespace Operator

variable {d : Deletion} {host : Host} {st st' : State} {x v glob : Text}

/-- What a token of a deletion answers, if the value is there. -/
theorem run_evaluate_delete (hx : '\n' ∉ x) (hsign : ∀ c ∈ d.sign, c ∉ x) (hglob : '\n' ∉ glob)
    (hv : Operand.lookup host.toProperties x st = some (.ok (.set v), st')) :
    (Operator.delete d).evaluate host (x ++ (d.sign ++ glob)) st =
      some ((d.apply glob v).map (some ∘ .text), st') := by
  obtain ⟨g, hg, hname, hpart⟩ := Deletion.exists_recognize? hx hsign hglob
  simp only [evaluate, grammar, hg, apply, hname, hpart]
  exact run_onValue hv

/-- The operators that delete leave a value without the longest or the shortest beginning or end that a
glob of wildcards matches, and all of it if there is none. -/
theorem evaluate_delete_wildcards (hx : '\n' ∉ x) (hsign : ∀ c ∈ d.sign, c ∉ x)
    (hv : Operand.lookup host.toProperties x st = some (.ok (.set v), st')) (ps : List Glob.Part) :
    ∃ w, (Operator.delete d).evaluate host (x ++ (d.sign ++ Glob.text ps)) st =
      some (.ok (some (.text w)), st') ∧ d.Leaves (Glob.Matches ps) v w := by
  obtain ⟨w, hw, hleaves⟩ := d.exists_apply_wildcards ps v
  refine ⟨w, ?_, hleaves⟩
  rw [run_evaluate_delete hx hsign (Glob.newline_not_mem_text ps) hv, hw]
  rfl

/-- The file of a path. -/
theorem evaluate_delete_wildcards_file :
    let st : State := { State.empty with properties := TextMap.insert ∅ "p".toList "a/b/c".toList }
    let d : Deletion := ⟨.front, .greedy⟩
    '\n' ∉ "p".toList ∧ (∀ c ∈ d.sign, c ∉ "p".toList) ∧
      Operand.lookup Host.plain.toProperties "p".toList st = some (.ok (.set "a/b/c".toList), st) ∧
      (Operator.delete d).evaluate Host.plain "p##*/".toList st = some (.ok (some (.text "c".toList)), st) ∧
      d.Leaves (Glob.Matches [.star, .slash]) "a/b/c".toList "c".toList := by
  intro st d
  have hx : '\n' ∉ "p".toList := by decide
  have hsign : ∀ c ∈ d.sign, c ∉ "p".toList := by simp [d, Deletion.sign]
  have hv : Operand.lookup Host.plain.toProperties "p".toList st =
      some (.ok (.set "a/b/c".toList), st) := rfl
  obtain ⟨w, hw, hleaves⟩ := evaluate_delete_wildcards hx hsign hv [.star, .slash]
  have hrun : ((Operator.delete d).evaluate Host.plain "p##*/".toList st).map (·.1) =
      some (.ok (some (.text "c".toList))) := by decide +kernel
  replace hw : (Operator.delete d).evaluate Host.plain "p##*/".toList st =
      some (.ok (some (.text w)), st) := hw
  rw [hw, Option.map_some] at hrun
  obtain rfl : w = "c".toList := by simpa using hrun
  exact ⟨hx, hsign, hv, hw, hleaves⟩

/-- The operators that delete leave a value without a beginning or an end that a fragment of a pattern
matches, and all of it if there is none, as long as the first group is the one behind the fragment. It is
not if groups of a fragment stand in front of it: then all of the value stays, or a part of the beginning
that the fragment has matched. A fragment that nests so deeply that there is no room for the two levels
around it is a fault. -/
theorem evaluate_delete_fragment (hx : '\n' ∉ x) (hsign : ∀ c ∈ d.sign, c ∉ x)
    (hv : Operand.lookup host.toProperties x st = some (.ok (.set v), st')) {p : Pattern.Nested Pattern}
    (hfree : ∀ c ∈ glob, c ∉ ['^', '$', '\\', '\n'])
    (hread : Pattern.readNested (Glob.translate (d.greed = .greedy) glob) = .ok p) :
    (p.depth + 2 ≤ Pattern.maxDepth →
      ∃ P w, Pattern.read (d.specialize (Glob.translate (d.greed = .greedy) glob)) = .ok P ∧
        (Operator.delete d).evaluate host (x ++ (d.sign ++ glob)) st = some (.ok (some (.text w)), st') ∧
        (d.side = .back ∨ P.lastGroup = 1 →
          d.Deletes (Pattern.MatchesWhole (Glob.translate (d.greed = .greedy) glob)) v w) ∧
        (d.side = .back ∨ P.lastGroup = 1 ∨ w = v ∨ ∃ u r, v = u ++ r ∧
          Pattern.MatchesWhole (Glob.translate (d.greed = .greedy) glob) u ∧ w <:+: u) ∧
        ('(' ∉ glob → P.lastGroup = 1)) ∧
    (Pattern.maxDepth < p.depth + 2 →
      (Operator.delete d).evaluate host (x ++ (d.sign ++ glob)) st =
        some (.error (.pattern .tooDeep), st')) := by
  have hline : '\n' ∉ glob := fun h => hfree _ h (by decide)
  have hfree' : ∀ c ∈ glob, c ∉ ['^', '$', '\\'] := fun c hc h => hfree c hc (by simp_all)
  refine ⟨fun hdepth => ?_, fun hdepth => ?_⟩
  · obtain ⟨P, w, hP, hw, hfacts⟩ := d.exists_apply_fragment v hfree' hread hdepth
    refine ⟨P, w, hP, ?_, hfacts⟩
    rw [run_evaluate_delete hx hsign hline hv, hw]
    rfl
  · rw [run_evaluate_delete hx hsign hline hv, d.apply_eq_tooDeep v hfree' hread hdepth]
    rfl

/-- A group of the fragment: its text is the answer, and not what stands behind the fragment. -/
theorem evaluate_delete_fragment_group :
    let st : State := { State.empty with properties := TextMap.insert ∅ "p".toList "abc".toList }
    let d : Deletion := ⟨.front, .reluctant⟩
    '\n' ∉ "p".toList ∧ (∀ c ∈ d.sign, c ∉ "p".toList) ∧
      Operand.lookup Host.plain.toProperties "p".toList st = some (.ok (.set "abc".toList), st) ∧
      (∀ c ∈ "(a)b".toList, c ∉ ['^', '$', '\\', '\n']) ∧
      (∃ p, Pattern.readNested (Glob.translate false "(a)b".toList) = .ok p ∧ p.depth + 2 ≤ Pattern.maxDepth) ∧
      (Operator.delete d).evaluate Host.plain "p#(a)b".toList st = some (.ok (some (.text "a".toList)), st) ∧
      (∃ P, Pattern.read (d.specialize (Glob.translate false "(a)b".toList)) = .ok P ∧ P.lastGroup ≠ 1) ∧
      (∃ u r, "abc".toList = u ++ r ∧ Pattern.MatchesWhole (Glob.translate false "(a)b".toList) u ∧
        "a".toList <:+: u) ∧
      ¬d.Deletes (Pattern.MatchesWhole (Glob.translate false "(a)b".toList)) "abc".toList "a".toList := by
  intro st d
  have hx : '\n' ∉ "p".toList := by decide
  have hsign : ∀ c ∈ d.sign, c ∉ "p".toList := by simp [d, Deletion.sign]
  have hv : Operand.lookup Host.plain.toProperties "p".toList st =
      some (.ok (.set "abc".toList), st) := rfl
  have hfree : ∀ c ∈ "(a)b".toList, c ∉ ['^', '$', '\\', '\n'] := by simp
  have hread : Pattern.readNested (Glob.translate (d.greed = .greedy) "(a)b".toList) =
      .ok ⟨.seq (.group 1 (.char (.one 'a'))) (.char (.one 'b')), 2⟩ := rfl
  have hdepth : 2 + 2 ≤ Pattern.maxDepth := by decide
  obtain ⟨P, w, hP, hw, hdeletes, hpart, -⟩ := (evaluate_delete_fragment hx hsign hv hfree hread).1 hdepth
  have hrun : ((Operator.delete d).evaluate Host.plain "p#(a)b".toList st).map (·.1) =
      some (.ok (some (.text "a".toList))) := by decide +kernel
  replace hw : (Operator.delete d).evaluate Host.plain "p#(a)b".toList st =
      some (.ok (some (.text w)), st) := hw
  rw [hw, Option.map_some] at hrun
  obtain rfl : w = "a".toList := by simpa using hrun
  have hnot : ¬d.Deletes (Pattern.MatchesWhole (Glob.translate false "(a)b".toList)) "abc".toList
      "a".toList := by
    rintro (⟨u, hu, -⟩ | ⟨hne, -⟩)
    · replace hu : "abc".toList = u ++ "a".toList := hu
      have hlast := congrArg List.getLast? hu
      rw [List.getLast?_append] at hlast
      exact absurd hlast (by simp)
    · exact absurd hne (by decide)
  have hlast : P.lastGroup ≠ 1 := fun h => hnot (hdeletes (.inr h))
  exact ⟨hx, hsign, hv, hfree, ⟨_, hread, hdepth⟩, hw, ⟨P, hP, hlast⟩,
    ((hpart.resolve_left nofun).resolve_left hlast).resolve_left (by decide), hnot⟩

end Operator

end Interpolation
