import Interpolation.Pattern.Preferred.Lemmas

/-!
# The texts that a pattern takes

The ways of a pattern say how a text is matched and in which order of preference. Which texts are
matched at all depends on neither:

* `Pattern.Walks`: a way is made of ways of the parts of a pattern, as every way of the pattern is
  (`Pattern.walks_of_mem_ways`); what holds of ways is shown by induction on this;
* `Pattern.Takes` is the language of a pattern;
* `Pattern.takes_of_mem_ways` and `Pattern.exists_way_of_takes`: the ways from a place lead behind
  exactly the texts of the language that stand there;
* `Pattern.mem_ways_of_isPlain`: a pattern without groups and anchors has one way for each such
  text.
-/

namespace Interpolation

namespace Place

/-- The place behind a text that stands at a place, the rest being given. -/
def past (s : Place) (u rest : Text) : Place :=
  ⟨s.index + u.length, u.getLast?.or s.before, rest⟩

@[simp] theorem past_index (s : Place) (u r : Text) : (s.past u r).index = s.index + u.length := rfl

@[simp] theorem past_rest (s : Place) (u r : Text) : (s.past u r).rest = r := rfl

theorem past_nil {s : Place} {r : Text} (h : s.rest = r) : s.past [] r = s := by
  subst h
  rfl

theorem past_past (s : Place) (u v r r' : Text) : (s.past u r).past v r' = s.past (u ++ v) r' := by
  simp [past, Nat.add_assoc, List.getLast?_append, Option.or_assoc]

end Place

namespace Pattern

variable {p q : Pattern} {greed : Greed} {s : Place} {u v r : Text} {w : Way}

/-! ## Ways of composed patterns -/

theorem mem_ways_seq :
    w ∈ (Pattern.seq p q).ways s ↔ ∃ x ∈ p.ways s, ∃ y ∈ q.ways x.stop, w = x.andThen y := by
  simp only [ways, List.mem_flatMap, List.mem_map, eq_comm]

theorem mem_ways_opt : w ∈ (Pattern.opt greed p).ways s ↔ w = .stay s ∨ w ∈ p.ways s := by
  cases greed
  · simp only [ways, List.mem_append, List.mem_singleton, or_comm]
  · simp only [ways, List.mem_cons]

theorem andThen_stay (w : Way) : w.andThen (.stay w.stop) = w := by
  simp [Way.andThen, Way.stay]

theorem ways_foldl_seq (ps : List Pattern) : ∀ p : Pattern,
    (ps.foldl .seq p).ways = (Pattern.seq p (seqs ps)).ways := by
  induction ps with
  | nil =>
    intro p
    funext s
    simp [seqs, ways, andThen_stay]
  | cons q qs ih =>
    intro p
    funext s
    have assoc : ∀ x y : Way, (x.andThen y).andThen = x.andThen ∘ y.andThen := fun x y =>
      funext fun z => Way.andThen_assoc x y z
    rw [List.foldl_cons, ih, show seqs (q :: qs) = qs.foldl .seq q from rfl]
    simp only [ways, ih, List.flatMap_assoc, List.flatMap_map, List.map_flatMap, List.map_map, assoc,
      Way.andThen_stop]

/-- Patterns one after another: the first one, and then the others. -/
theorem ways_seqs_cons (p : Pattern) (ps : List Pattern) :
    (seqs (p :: ps)).ways = (Pattern.seq p (seqs ps)).ways :=
  ways_foldl_seq ps p

theorem mem_ways_seqs_cons {ps : List Pattern} :
    w ∈ (seqs (p :: ps)).ways s ↔
      ∃ x ∈ p.ways s, ∃ y ∈ (seqs ps).ways x.stop, w = x.andThen y := by
  rw [ways_seqs_cons, mem_ways_seq]

theorem mem_ways_seqs_nil : w ∈ (seqs []).ways s ↔ w = .stay s := by
  simp [seqs, ways]

/-! ## Rounds of a repetition -/

theorem stay_mem_onward (round : Place → List Way) (greed : Greed) (fuel : Nat) (s : Place) :
    .stay s ∈ onward round greed fuel s := by
  cases fuel <;> cases greed <;> simp [onward]

theorem mem_onward_succ {round : Place → List Way} {fuel : Nat} :
    w ∈ onward round greed (fuel + 1) s ↔ w = .stay s ∨ ∃ x ∈ round s, x.stop.index ≠ s.index ∧
      ∃ y ∈ onward round greed fuel x.stop, w = x.andThen y := by
  have more : (w ∈ (round s).flatMap fun x => if x.stop.index = s.index then []
      else (onward round greed fuel x.stop).map x.andThen) ↔ ∃ x ∈ round s,
        x.stop.index ≠ s.index ∧ ∃ y ∈ onward round greed fuel x.stop, w = x.andThen y := by
    rw [List.mem_flatMap]
    refine exists_congr fun x => and_congr_right fun _ => ?_
    split <;> simp_all [eq_comm]
  cases greed
  · simp only [onward, List.mem_append, List.mem_singleton, more, or_comm]
  · simp only [onward, List.mem_cons, more]

/-- A round that consumes something, and then further ones. -/
theorem andThen_mem_onward {round : Place → List Way}
    (h : ∀ s, ∀ w ∈ round s, s.Reaches w.stop) {x y : Way} (hx : x ∈ round s)
    (hi : x.stop.index ≠ s.index) (hy : y ∈ onward round greed x.stop.rest.length x.stop) :
    x.andThen y ∈ onward round greed s.rest.length s := by
  have hm : x.andThen y ∈ further round greed s :=
    List.mem_flatMap.2 ⟨x, hx, by rw [if_neg hi]; exact List.mem_map_of_mem hy⟩
  rw [onward_eq h]
  cases greed with
  | greedy => exact List.mem_append_left _ hm
  | reluctant => exact List.mem_cons_of_mem _ hm

theorem mem_rounds {round : Place → List Way} (h : ∀ s, ∀ w ∈ round s, s.Reaches w.stop) :
    w ∈ rounds round greed s ↔ ∃ x ∈ round s,
      if x.stop.index = s.index then w = x
      else ∃ y ∈ onward round greed x.stop.rest.length x.stop, w = x.andThen y := by
  rw [rounds_eq h, List.mem_flatMap]
  refine exists_congr fun x => and_congr_right fun _ => ?_
  split <;> simp [eq_comm]

/-- What one round or more reach can also be reached by rounds behind another one. -/
theorem exists_mem_onward {round : Place → List Way} (h : ∀ s, ∀ w ∈ round s, s.Reaches w.stop)
    (hw : w ∈ rounds round greed s) :
    ∃ y ∈ onward round greed s.rest.length s, y.stop = w.stop := by
  obtain ⟨x, hx, hw⟩ := (mem_rounds h).1 hw
  split at hw
  · rename_i hi
    subst hw
    exact ⟨_, stay_mem_onward .., ((h s w hx).eq_of_index hi).symm⟩
  · rename_i hi
    obtain ⟨y, hy, rfl⟩ := hw
    exact ⟨_, andThen_mem_onward h hx hi hy, rfl⟩

/-! ## Walks along a pattern -/

/-- A way that a pattern allows, made of ways of its parts. Not all of these are ways of the pattern: the
condition of an anchor may not hold, and a repetition may have a round that consumes nothing. -/
inductive Walks : Pattern → Place → Way → Prop where
  | empty {s : Place} : Walks .empty s (.stay s)
  | char {a : CharClass} {s : Place} {c : Char} {cs : Text} (hr : s.rest = c :: cs) (hc : a.contains c) :
    Walks (.char a) s (.stay (s.advance c cs))
  | anchor {a : Anchor} {s : Place} : Walks (.anchor a) s (.stay s)
  | group {number : Nat} {p : Pattern} {s : Place} {w : Way} (h : Walks p s w) :
    Walks (.group number p) s (w.caughtBy number s)
  | seq {p q : Pattern} {s : Place} {x y : Way} (hx : Walks p s x) (hy : Walks q x.stop y) :
    Walks (.seq p q) s (x.andThen y)
  | left {p q : Pattern} {s : Place} {w : Way} (h : Walks p s w) : Walks (.alt p q) s w
  | right {p q : Pattern} {s : Place} {w : Way} (h : Walks q s w) : Walks (.alt p q) s w
  | skip {greed : Greed} {p : Pattern} {s : Place} : Walks (.opt greed p) s (.stay s)
  | opt {greed : Greed} {p : Pattern} {s : Place} {w : Way} (h : Walks p s w) :
    Walks (.opt greed p) s w
  | once {greed : Greed} {p : Pattern} {s : Place} {w : Way} (h : Walks p s w) :
    Walks (.plus greed p) s w
  | more {greed : Greed} {p : Pattern} {s : Place} {x y : Way} (hx : Walks p s x)
    (hy : Walks (.plus greed p) x.stop y) : Walks (.plus greed p) s (x.andThen y)

theorem walks_onward (h : ∀ s, ∀ w ∈ p.ways s, p.Walks s w) :
    ∀ fuel s, ∀ w ∈ onward p.ways greed fuel s, w = .stay s ∨ (Pattern.plus greed p).Walks s w := by
  intro fuel
  induction fuel with
  | zero =>
    intro s w hw
    exact .inl (by simpa [onward] using hw)
  | succ fuel ih =>
    intro s w hw
    obtain rfl | ⟨x, hx, -, y, hy, rfl⟩ := mem_onward_succ.1 hw
    · exact .inl rfl
    · right
      rcases ih _ y hy with rfl | hy
      · rw [andThen_stay]
        exact .once (h s x hx)
      · exact .more (h s x hx) hy

/-- Every way of a pattern is made of ways of its parts. -/
theorem walks_of_mem_ways (p : Pattern) : ∀ s, ∀ w ∈ p.ways s, p.Walks s w := by
  induction p with
  | empty =>
    intro s w hw
    obtain rfl : w = .stay s := by simpa [ways] using hw
    exact .empty
  | char accepted =>
    intro s w hw
    simp only [ways] at hw
    split at hw
    · simp at hw
    · rename_i c cs hr
      split at hw
      · rename_i hc
        obtain rfl : w = .stay (s.advance c cs) := by simpa using hw
        exact .char hr hc
      · simp at hw
  | anchor a =>
    intro s w hw
    simp only [ways] at hw
    split at hw
    · obtain rfl : w = .stay s := by simpa using hw
      exact .anchor
    · simp at hw
  | group number p ih =>
    intro s w hw
    obtain ⟨x, hx, rfl⟩ := List.mem_map.1 hw
    exact .group (ih s x hx)
  | seq p q ihp ihq =>
    intro s w hw
    obtain ⟨x, hx, y, hy, rfl⟩ := mem_ways_seq.1 hw
    exact .seq (ihp s x hx) (ihq _ y hy)
  | alt p q ihp ihq =>
    intro s w hw
    exact (List.mem_append.1 hw).elim (.left <| ihp s w ·) (.right <| ihq s w ·)
  | opt greed p ih =>
    intro s w hw
    rcases mem_ways_opt.1 hw with rfl | hw
    · exact .skip
    · exact .opt (ih s w hw)
  | plus greed p ih =>
    intro s w hw
    obtain ⟨x, hx, hw⟩ := (mem_rounds p.reaches_of_mem_ways).1 hw
    split at hw
    · exact hw ▸ .once (ih s x hx)
    · obtain ⟨y, hy, rfl⟩ := hw
      rcases walks_onward ih _ _ y hy with rfl | hy
      · rw [andThen_stay]
        exact .once (ih s x hx)
      · exact .more (ih s x hx) hy

/-! ## The language -/

/-- The texts that a pattern takes, whatever its anchors ask of the surroundings. -/
inductive Takes : Pattern → Text → Prop where
  | empty : Takes .empty []
  | char {a : CharClass} {c : Char} (h : a.contains c) : Takes (.char a) [c]
  | anchor {a : Anchor} : Takes (.anchor a) []
  | group {number : Nat} {p : Pattern} {u : Text} (h : Takes p u) : Takes (.group number p) u
  | seq {p q : Pattern} {u v : Text} (hu : Takes p u) (hv : Takes q v) : Takes (.seq p q) (u ++ v)
  | left {p q : Pattern} {u : Text} (h : Takes p u) : Takes (.alt p q) u
  | right {p q : Pattern} {u : Text} (h : Takes q u) : Takes (.alt p q) u
  | skip {greed : Greed} {p : Pattern} : Takes (.opt greed p) []
  | opt {greed : Greed} {p : Pattern} {u : Text} (h : Takes p u) : Takes (.opt greed p) u
  | once {greed : Greed} {p : Pattern} {u : Text} (h : Takes p u) : Takes (.plus greed p) u
  | more {greed : Greed} {p : Pattern} {u v : Text} (hu : Takes p u) (hv : Takes (.plus greed p) v) :
    Takes (.plus greed p) (u ++ v)

theorem takes_empty : Takes .empty u ↔ u = [] := by
  constructor
  · intro h
    cases h
    rfl
  · rintro rfl
    exact .empty

theorem takes_char {a : CharClass} : Takes (.char a) u ↔ ∃ c, a.contains c ∧ u = [c] := by
  constructor
  · intro h
    cases h with
    | char h => exact ⟨_, h, rfl⟩
  · rintro ⟨c, h, rfl⟩
    exact .char h

theorem takes_group {number : Nat} : Takes (.group number p) u ↔ Takes p u := by
  constructor
  · intro h
    cases h with
    | group h => exact h
  · exact .group

theorem takes_seq : Takes (.seq p q) u ↔ ∃ v w, u = v ++ w ∧ Takes p v ∧ Takes q w := by
  constructor
  · intro h
    cases h with
    | seq hu hv => exact ⟨_, _, rfl, hu, hv⟩
  · rintro ⟨v, w, rfl, hv, hw⟩
    exact .seq hv hw

theorem takes_alt : Takes (.alt p q) u ↔ Takes p u ∨ Takes q u := by
  constructor
  · intro h
    cases h with
    | left h => exact .inl h
    | right h => exact .inr h
  · exact fun h => h.elim .left .right

theorem takes_opt : Takes (.opt greed p) u ↔ u = [] ∨ Takes p u := by
  constructor
  · intro h
    cases h with
    | skip => exact .inl rfl
    | opt h => exact .inr h
  · rintro (rfl | h)
    · exact .skip
    · exact .opt h

theorem takes_foldl_seq (ps : List Pattern) : ∀ {p : Pattern} {u : Text},
    Takes (ps.foldl .seq p) u ↔ ∃ v w, u = v ++ w ∧ Takes p v ∧ Takes (seqs ps) w := by
  induction ps with
  | nil =>
    intro p u
    constructor
    · exact fun h => ⟨u, [], (List.append_nil u).symm, h, .empty⟩
    · rintro ⟨v, w, rfl, hv, hw⟩
      obtain rfl := takes_empty.1 hw
      rwa [List.append_nil]
  | cons q qs ih =>
    intro p u
    rw [List.foldl_cons, ih, show seqs (q :: qs) = qs.foldl .seq q from rfl]
    simp only [takes_seq, ih]
    constructor
    · rintro ⟨_, w, rfl, ⟨v, v', rfl, hv, hv'⟩, hw⟩
      exact ⟨v, v' ++ w, List.append_assoc .., hv, v', w, rfl, hv', hw⟩
    · rintro ⟨v, _, rfl, hv, v', w, rfl, hv', hw⟩
      exact ⟨v ++ v', w, (List.append_assoc ..).symm, ⟨v, v', rfl, hv, hv'⟩, hw⟩

theorem takes_seqs_nil : Takes (seqs []) u ↔ u = [] := takes_empty

theorem takes_seqs_cons {ps : List Pattern} :
    Takes (seqs (p :: ps)) u ↔ ∃ v w, u = v ++ w ∧ Takes p v ∧ Takes (seqs ps) w :=
  takes_foldl_seq ps

/-- One character or more of a class. -/
theorem takes_plus_char {a : CharClass} :
    Takes (.plus greed (.char a)) u ↔ u ≠ [] ∧ ∀ c ∈ u, a.contains c := by
  constructor
  · intro h
    generalize hp : Pattern.plus greed (.char a) = p at h
    induction h with
    | once h =>
      obtain ⟨rfl, rfl⟩ := Pattern.plus.inj hp
      obtain ⟨c, hc, rfl⟩ := takes_char.1 h
      simp [hc]
    | more hu _ _ ih =>
      obtain ⟨rfl, rfl⟩ := Pattern.plus.inj hp
      obtain ⟨c, hc, rfl⟩ := takes_char.1 hu
      obtain ⟨-, ih⟩ := ih rfl
      simpa [hc] using ih
    | _ => cases hp
  · rintro ⟨hu, h⟩
    induction u with
    | nil => exact absurd rfl hu
    | cons c cs ih =>
      have hc : Takes (.char a) [c] := .char (h c List.mem_cons_self)
      cases cs with
      | nil => exact .once hc
      | cons d cs => exact .more hc (ih nofun fun e he => h e (List.mem_cons_of_mem _ he))

/-- Any number of rounds: none, or a first one and then any number. -/
theorem takes_star_iff : Takes (.star greed p) u ↔
    u = [] ∨ ∃ v w, u = v ++ w ∧ Takes p v ∧ Takes (.star greed p) w := by
  rw [star, takes_opt]
  refine or_congr_right ?_
  constructor
  · intro h
    cases h with
    | once h => exact ⟨u, [], (List.append_nil u).symm, h, .skip⟩
    | more hv hw => exact ⟨_, _, rfl, hv, .opt hw⟩
  · rintro ⟨v, w, rfl, hv, hw⟩
    rcases takes_opt.1 hw with rfl | hw
    · rw [List.append_nil]
      exact .once hv
    · exact .more hv hw

/-- Any number of characters of a class. -/
theorem takes_star_char {a : CharClass} :
    Takes (.star greed (.char a)) u ↔ ∀ c ∈ u, a.contains c := by
  rw [star, takes_opt, takes_plus_char]
  constructor
  · rintro (rfl | h)
    · exact nofun
    · exact h.2
  · intro h
    by_cases hu : u = []
    · exact .inl hu
    · exact .inr ⟨hu, h⟩

/-- A text and nothing else. -/
theorem takes_literal (t : Text) : (Pattern.literal t).Takes u ↔ u = t := by
  rw [literal]
  induction t generalizing u with
  | nil => exact takes_seqs_nil
  | cons c cs ih =>
    rw [List.map_cons, takes_seqs_cons]
    simp only [takes_char, ih, CharClass.contains, decide_eq_true_eq]
    constructor
    · rintro ⟨_, _, rfl, ⟨_, rfl, rfl⟩, rfl⟩
      rfl
    · rintro rfl
      exact ⟨[c], cs, rfl, ⟨c, rfl, rfl⟩, rfl⟩

/-- A way leads behind a text of the language. -/
def Leads (p : Pattern) (s t : Place) : Prop :=
  ∃ u, s.rest = u ++ t.rest ∧ t = s.past u t.rest ∧ p.Takes u

theorem leads_of_takes_nil (h : p.Takes []) (s : Place) : p.Leads s s :=
  ⟨[], rfl, rfl, h⟩

/-- Two texts one after another. -/
theorem Leads.trans {p q o : Pattern} {s t t' : Place} (h : p.Leads s t) (h' : q.Leads t t')
    (ho : ∀ u v, p.Takes u → q.Takes v → o.Takes (u ++ v)) : o.Leads s t' := by
  obtain ⟨u, hu, ht, hp⟩ := h
  obtain ⟨v, hv, ht', hq⟩ := h'
  refine ⟨u ++ v, by rw [hu, hv, List.append_assoc], ?_, ho u v hp hq⟩
  rw [← Place.past_past s u v t.rest, ← ht, ← ht']

theorem Leads.mono {s t : Place} (h : p.Leads s t) (ho : ∀ u, p.Takes u → q.Takes u) :
    q.Leads s t := by
  obtain ⟨u, hu, ht, hp⟩ := h
  exact ⟨u, hu, ht, ho u hp⟩

theorem Walks.leads (h : p.Walks s w) : p.Leads s w.stop := by
  induction h with
  | empty => exact leads_of_takes_nil .empty _
  | char hr hc => exact ⟨[_], hr, rfl, .char hc⟩
  | anchor => exact leads_of_takes_nil .anchor _
  | skip => exact leads_of_takes_nil .skip _
  | group _ ih => exact ih.mono fun _ => .group
  | left _ ih => exact ih.mono fun _ => .left
  | right _ ih => exact ih.mono fun _ => .right
  | opt _ ih => exact ih.mono fun _ => .opt
  | once _ ih => exact ih.mono fun _ => .once
  | seq _ _ ihx ihy => exact ihx.trans ihy fun _ _ => .seq
  | more _ _ ihx ihy => exact ihx.trans ihy fun _ _ => .more

/-- Every way leads behind a text that the pattern takes. -/
theorem takes_of_mem_ways (p : Pattern) : ∀ s, ∀ w ∈ p.ways s, p.Leads s w.stop :=
  fun s w hw => (walks_of_mem_ways p s w hw).leads

/-! ## Patterns without anchors -/

/-- Whether a pattern has no anchors, so that its surroundings do not matter. -/
def isUnanchored : Pattern → Bool
  | .empty | .char _ => true
  | .anchor _ => false
  | .seq p q | .alt p q => p.isUnanchored && q.isUnanchored
  | .group _ p | .opt _ p | .plus _ p => p.isUnanchored

theorem isUnanchored_seqs (ps : List Pattern) : (seqs ps).isUnanchored = ps.all isUnanchored := by
  have fold (ps : List Pattern) :
      ∀ p : Pattern, (ps.foldl .seq p).isUnanchored = (p.isUnanchored && ps.all isUnanchored) := by
    induction ps with
    | nil => simp
    | cons q qs ih => simp [ih, isUnanchored, Bool.and_assoc]
  cases ps with
  | nil => rfl
  | cons p ps => exact fold ps p

/-- Where a text of the language stands there is a way behind it. -/
theorem exists_way_of_takes (h : p.Takes u) (hp : p.isUnanchored) :
    ∀ (s : Place) (r : Text), s.rest = u ++ r → ∃ w ∈ p.ways s, w.stop = s.past u r := by
  induction h with
  | empty => exact fun s r hr => ⟨.stay s, by simp [ways], (Place.past_nil hr).symm⟩
  | @char a c hc =>
    intro s r hr
    exact ⟨.stay (s.advance c r), by simp [ways, hr, hc], rfl⟩
  | anchor => simp [isUnanchored] at hp
  | @group number _ _ _ ih =>
    intro s r hr
    obtain ⟨w, hw, hs⟩ := ih hp s r hr
    exact ⟨w.caughtBy number s, List.mem_map_of_mem hw, hs⟩
  | @seq p q u v _ _ ihu ihv =>
    simp only [isUnanchored, Bool.and_eq_true] at hp
    intro s r hr
    obtain ⟨x, hx, hs⟩ := ihu hp.1 s (v ++ r) (by rw [hr, List.append_assoc])
    obtain ⟨y, hy, hs'⟩ := ihv hp.2 x.stop r (by rw [hs]; rfl)
    exact ⟨_, mem_ways_seq.2 ⟨x, hx, y, hy, rfl⟩, by
      rw [Way.andThen_stop, hs', hs, Place.past_past]⟩
  | left _ ih =>
    simp only [isUnanchored, Bool.and_eq_true] at hp
    intro s r hr
    obtain ⟨w, hw, hs⟩ := ih hp.1 s r hr
    exact ⟨w, List.mem_append_left _ hw, hs⟩
  | right _ ih =>
    simp only [isUnanchored, Bool.and_eq_true] at hp
    intro s r hr
    obtain ⟨w, hw, hs⟩ := ih hp.2 s r hr
    exact ⟨w, List.mem_append_right _ hw, hs⟩
  | skip => exact fun s r hr => ⟨.stay s, mem_ways_opt.2 (.inl rfl), (Place.past_nil hr).symm⟩
  | opt _ ih =>
    intro s r hr
    obtain ⟨w, hw, hs⟩ := ih hp s r hr
    exact ⟨w, mem_ways_opt.2 (.inr hw), hs⟩
  | @once greed p u _ ih =>
    intro s r hr
    obtain ⟨x, hx, hs⟩ := ih hp s r hr
    by_cases hi : x.stop.index = s.index
    · exact ⟨x, (mem_rounds p.reaches_of_mem_ways).2 ⟨x, hx, by rw [if_pos hi]⟩, hs⟩
    · exact ⟨x, (mem_rounds p.reaches_of_mem_ways).2 ⟨x, hx, by
        rw [if_neg hi]; exact ⟨_, stay_mem_onward .., (andThen_stay x).symm⟩⟩, hs⟩
  | @more greed p u v _ _ ihu ihv =>
    intro s r hr
    obtain ⟨x, hx, hs⟩ := ihu hp s (v ++ r) (by rw [hr, List.append_assoc])
    obtain ⟨y, hy, hs'⟩ := ihv hp x.stop r (by rw [hs]; rfl)
    by_cases hi : x.stop.index = s.index
    · -- an empty round adds nothing: the other rounds can start here
      have hxs : x.stop = s := (p.reaches_of_mem_ways s x hx).eq_of_index hi
      obtain rfl : u = [] := by
        have := congrArg Place.index hs
        rw [hi, Place.past_index] at this
        exact List.length_eq_zero_iff.1 (by omega)
      rw [hxs] at hy hs'
      exact ⟨y, hy, by rw [hs', List.nil_append]⟩
    · obtain ⟨z, hz, hzs⟩ := exists_mem_onward p.reaches_of_mem_ways hy
      exact ⟨_, (mem_rounds p.reaches_of_mem_ways).2 ⟨x, hx, by rw [if_neg hi]; exact ⟨z, hz, rfl⟩⟩, by
        rw [Way.andThen_stop, hzs, hs', hs, Place.past_past]⟩

/-! ## Patterns without groups and anchors -/

/-- Whether a pattern has neither groups nor anchors. -/
def isPlain : Pattern → Bool
  | .empty | .char _ => true
  | .anchor _ | .group _ _ => false
  | .seq p q | .alt p q => p.isPlain && q.isPlain
  | .opt _ p | .plus _ p => p.isPlain

theorem isPlain_seqs (ps : List Pattern) : (seqs ps).isPlain = ps.all isPlain := by
  have fold (ps : List Pattern) : ∀ p : Pattern,
      (ps.foldl .seq p).isPlain = (p.isPlain && ps.all isPlain) := by
    induction ps with
    | nil => simp
    | cons q qs ih => simp [ih, isPlain, Bool.and_assoc]
  cases ps with
  | nil => rfl
  | cons p ps => exact fold ps p

theorem isUnanchored_of_isPlain (hp : p.isPlain) : p.isUnanchored := by
  induction p with
  | empty | char => rfl
  | anchor | group => simp [isPlain] at hp
  | seq p q ihp ihq | alt p q ihp ihq =>
    simp only [isPlain, Bool.and_eq_true] at hp
    simp only [isUnanchored, ihp hp.1, ihq hp.2, Bool.and_self]
  | opt _ p ih | plus _ p ih => exact ih hp

theorem Walks.marks_eq_nil (h : p.Walks s w) (hp : p.isPlain) : w.marks = [] := by
  induction h with
  | empty | char | skip => rfl
  | anchor | group => simp [isPlain] at hp
  | seq _ _ ihx ihy =>
    simp only [isPlain, Bool.and_eq_true] at hp
    simp [Way.andThen, ihx hp.1, ihy hp.2]
  | left _ ih =>
    simp only [isPlain, Bool.and_eq_true] at hp
    exact ih hp.1
  | right _ ih =>
    simp only [isPlain, Bool.and_eq_true] at hp
    exact ih hp.2
  | opt _ ih | once _ ih => exact ih hp
  | more _ _ ihx ihy => simp [Way.andThen, ihx hp, ihy hp]

theorem marks_of_isPlain (hp : p.isPlain) : ∀ s, ∀ w ∈ p.ways s, w.marks = [] :=
  fun s w hw => (walks_of_mem_ways p s w hw).marks_eq_nil hp

/-- Without groups and anchors there is one way for each text of the language. -/
theorem mem_ways_of_isPlain (hp : p.isPlain) :
    w ∈ p.ways s ↔ ∃ u r, s.rest = u ++ r ∧ p.Takes u ∧ w = .stay (s.past u r) := by
  have stay_of_marks : ∀ w : Way, w.marks = [] → w = .stay w.stop := by
    rintro ⟨stop, marks⟩ rfl
    rfl
  constructor
  · intro hw
    obtain ⟨u, hu, hs, ht⟩ := p.takes_of_mem_ways s w hw
    exact ⟨u, w.stop.rest, hu, ht, by rw [← hs]; exact stay_of_marks w (marks_of_isPlain hp s w hw)⟩
  · rintro ⟨u, r, hr, ht, rfl⟩
    obtain ⟨x, hx, hs⟩ := exists_way_of_takes ht (isUnanchored_of_isPlain hp) s r hr
    rw [← hs, ← stay_of_marks x (marks_of_isPlain hp s x hx)]
    exact hx

/-- A group around such a pattern marks the text. -/
theorem mem_ways_group_of_isPlain {number : Nat} (hp : p.isPlain) :
    w ∈ (Pattern.group number p).ways s ↔ ∃ u r, s.rest = u ++ r ∧ p.Takes u ∧
      w = ⟨s.past u r, [⟨number, .opening, s.index⟩, ⟨number, .closing, s.index + u.length⟩]⟩ := by
  simp only [ways, List.mem_map, mem_ways_of_isPlain hp]
  constructor
  · rintro ⟨x, ⟨u, r, hr, ht, rfl⟩, rfl⟩
    exact ⟨u, r, hr, ht, rfl⟩
  · rintro ⟨u, r, hr, ht, rfl⟩
    exact ⟨_, ⟨u, r, hr, ht, rfl⟩, rfl⟩

end Pattern

end Interpolation
