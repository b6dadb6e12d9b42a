import Interpolation.Pattern.Preferred

/-!
# The survey of a text lists the preferred ways

`Pattern.survey_eq`: in every place of a text the survey has the first one of the ways of the
pattern from there.

* `Place.Reaches` orders the places of a text, `Pattern.reaches_of_mem_ways` says that ways lead
  on;
* `Way.best` is the preferred way on along several ways, when it is known how to go on from where
  they end;
* `Prospects.Fit` says what prospects keep; `Pattern.preferred_eq` and `Pattern.fit_prospects` are
  the two steps of the survey.
-/

namespace Interpolation

/-! ## Ways lead on -/

/-- A place is another one, or lies before it in the same text. -/
def Place.Reaches (s t : Place) : Prop :=
  t = s ∨ s.index < t.index ∧ t.index + t.rest.length = s.index + s.rest.length

namespace Place

theorem Reaches.refl (s : Place) : s.Reaches s := .inl rfl

theorem Reaches.trans {s t u : Place} (h : s.Reaches t) (h' : t.Reaches u) : s.Reaches u := by
  rcases h with rfl | h
  · exact h'
  · rcases h' with rfl | h'
    · exact .inr h
    · exact .inr ⟨by omega, by omega⟩

theorem Reaches.eq_of_index {s t : Place} (h : s.Reaches t) (hi : t.index = s.index) : t = s := by
  rcases h with h | h
  · exact h
  · omega

theorem Reaches.index_le {s t : Place} (h : s.Reaches t) : s.index ≤ t.index := by
  rcases h with rfl | h
  · exact Nat.le_refl _
  · omega

theorem Reaches.length_lt {s t : Place} (h : s.Reaches t) (hi : t.index ≠ s.index) :
    t.rest.length < s.rest.length := by
  rcases h with rfl | h
  · exact absurd rfl hi
  · omega

theorem reaches_advance {s : Place} {c : Char} {cs : Text} (h : s.rest = c :: cs) :
    s.Reaches (s.advance c cs) := by
  refine .inr ⟨Nat.lt_succ_self _, ?_⟩
  simp only [advance, h, List.length_cons]
  omega

end Place

namespace Pattern

theorem reaches_of_mem_onward {round : Place → List Way} {greed : Greed}
    (h : ∀ s, ∀ w ∈ round s, s.Reaches w.stop) :
    ∀ fuel s, ∀ w ∈ onward round greed fuel s, s.Reaches w.stop := by
  intro fuel
  induction fuel with
  | zero =>
    intro s w hw
    obtain rfl : w = .stay s := by simpa [onward] using hw
    exact .refl s
  | succ fuel ih =>
    intro s w hw
    have more : ∀ w ∈ (round s).flatMap (fun w =>
        if w.stop.index = s.index then [] else (onward round greed fuel w.stop).map w.andThen),
        s.Reaches w.stop := by
      intro w hw
      obtain ⟨v, hv, hw⟩ := List.mem_flatMap.1 hw
      split at hw
      · simp at hw
      · obtain ⟨u, hu, rfl⟩ := List.mem_map.1 hw
        exact (h s v hv).trans (ih _ u hu)
    cases greed with
    | greedy =>
      rcases List.mem_append.1 hw with hw | hw
      · exact more w hw
      · obtain rfl : w = .stay s := by simpa using hw
        exact .refl s
    | reluctant =>
      rcases List.mem_cons.1 hw with rfl | hw
      · exact .refl s
      · exact more w hw

theorem reaches_of_mem_rounds {round : Place → List Way} {greed : Greed}
    (h : ∀ s, ∀ w ∈ round s, s.Reaches w.stop) {s : Place} {w : Way}
    (hw : w ∈ rounds round greed s) : s.Reaches w.stop := by
  obtain ⟨v, hv, hw⟩ := List.mem_flatMap.1 hw
  split at hw
  · obtain rfl : w = v := by simpa using hw
    exact h s w hv
  · obtain ⟨u, hu, rfl⟩ := List.mem_map.1 hw
    exact (h s v hv).trans (reaches_of_mem_onward h _ _ u hu)

/-- Every way leads on from where it starts. -/
theorem reaches_of_mem_ways (p : Pattern) :
    ∀ s, ∀ w ∈ p.ways s, s.Reaches w.stop := by
  have atStay : ∀ (s : Place) (w : Way), w = .stay s → s.Reaches w.stop := by
    rintro s _ rfl
    exact .refl s
  induction p with
  | empty => exact fun s w hw => atStay s w (by simpa [ways] using hw)
  | char accepted =>
    intro s w hw
    simp only [ways] at hw
    split at hw
    · simp at hw
    · rename_i c cs hr
      split at hw
      · obtain rfl : w = .stay (s.advance c cs) := by simpa using hw
        exact Place.reaches_advance hr
      · simp at hw
  | anchor a =>
    intro s w hw
    simp only [ways] at hw
    split at hw
    · exact atStay s w (by simpa using hw)
    · simp at hw
  | group number p ih =>
    intro s w hw
    obtain ⟨v, hv, rfl⟩ := List.mem_map.1 hw
    exact ih s v hv
  | seq p q ihp ihq =>
    intro s w hw
    obtain ⟨v, hv, hw⟩ := List.mem_flatMap.1 hw
    obtain ⟨u, hu, rfl⟩ := List.mem_map.1 hw
    exact (ihp s v hv).trans (ihq _ u hu)
  | alt p q ihp ihq =>
    intro s w hw
    exact (List.mem_append.1 hw).elim (ihp s w) (ihq s w)
  | opt greed p ih =>
    intro s w hw
    cases greed with
    | greedy =>
      exact (List.mem_append.1 hw).elim (ih s w) fun h => atStay s w (by simpa using h)
    | reluctant => exact (List.mem_cons.1 hw).elim (atStay s w) (ih s w)
  | plus greed p ih => exact fun s w hw => reaches_of_mem_rounds ih hw

/-! ## Rounds of a repetition -/

theorem onward_fuel {round : Place → List Way} {greed : Greed}
    (h : ∀ s, ∀ w ∈ round s, s.Reaches w.stop) :
    ∀ fuel s, s.rest.length ≤ fuel →
      onward round greed fuel s = onward round greed s.rest.length s := by
  intro fuel
  induction fuel using Nat.strongRecOn with
  | ind fuel ih =>
    intro s hs
    rcases Nat.eq_or_lt_of_le hs with hs | hs
    · rw [hs]
    · obtain ⟨fuel, rfl⟩ : ∃ n, fuel = n + 1 := ⟨fuel - 1, by omega⟩
      have step : ∀ m, s.rest.length ≤ m + 1 → m ≤ fuel →
          (round s).flatMap (fun w => if w.stop.index = s.index then []
            else (onward round greed m w.stop).map w.andThen)
          = (round s).flatMap (fun w => if w.stop.index = s.index then []
            else (onward round greed w.stop.rest.length w.stop).map w.andThen) := by
        intro m hm hf
        simp only [List.flatMap_def]
        congr 1
        refine List.map_congr_left fun w hw => ?_
        split
        · rfl
        · rename_i hi
          have := (h s w hw).length_lt hi
          rw [ih m (by omega) w.stop (by omega)]
      rcases hl : s.rest.length with _ | m
      · have none : (round s).flatMap (fun w => if w.stop.index = s.index then []
            else (onward round greed fuel w.stop).map w.andThen) = [] := by
          refine List.flatMap_eq_nil_iff.2 fun w hw => ?_
          split
          · rfl
          · rename_i hi
            have := (h s w hw).length_lt hi
            omega
        cases greed <;> simp [onward, none]
      · simp only [onward, step fuel (by omega) (Nat.le_refl _), step m (by omega) (by omega)]

/-- The ways of further rounds from a place. -/
def further (round : Place → List Way) (greed : Greed) (s : Place) : List Way :=
  (round s).flatMap fun w =>
    if w.stop.index = s.index then []
    else (onward round greed w.stop.rest.length w.stop).map w.andThen

theorem onward_eq {round : Place → List Way} {greed : Greed}
    (h : ∀ s, ∀ w ∈ round s, s.Reaches w.stop) (s : Place) :
    onward round greed s.rest.length s =
      match greed with
      | .greedy => further round greed s ++ [.stay s]
      | .reluctant => .stay s :: further round greed s := by
  rw [← onward_fuel h (s.rest.length + 1) s (Nat.le_succ _)]
  have : (round s).flatMap (fun w => if w.stop.index = s.index then []
      else (onward round greed s.rest.length w.stop).map w.andThen) = further round greed s := by
    simp only [further, List.flatMap_def]
    congr 1
    refine List.map_congr_left fun w hw => ?_
    split
    · rfl
    · rename_i hi
      rw [onward_fuel h _ _ (Nat.le_of_lt ((h s w hw).length_lt hi))]
  cases greed <;> simp only [onward, this]

theorem rounds_eq {round : Place → List Way} {greed : Greed}
    (h : ∀ s, ∀ w ∈ round s, s.Reaches w.stop) (s : Place) :
    rounds round greed s = (round s).flatMap fun w =>
      if w.stop.index = s.index then [w]
      else (onward round greed w.stop.rest.length w.stop).map w.andThen := by
  simp only [rounds, List.flatMap_def]
  congr 1
  refine List.map_congr_left fun w hw => ?_
  split
  · rfl
  · rename_i hi
    rw [onward_fuel h _ _ (Nat.le_of_lt ((h s w hw).length_lt hi))]

end Pattern

/-! ## The best way on along several ways -/

namespace Way

theorem andThen_assoc (w v u : Way) : (w.andThen v).andThen u = w.andThen (v.andThen u) := by
  simp [andThen]

@[simp] theorem stay_andThen (s : Place) (w : Way) : (stay s).andThen w = w := rfl

@[simp] theorem andThen_stop (w v : Way) : (w.andThen v).stop = v.stop := rfl

theorem caughtBy_andThen (w v : Way) (number : Nat) (s : Place) :
    (w.caughtBy number s).andThen v =
      (w.andThen (v.behind ⟨number, .closing, w.stop.index⟩)).behind
        ⟨number, .opening, s.index⟩ := by
  simp [andThen, caughtBy, behind]

/-- The first of several ways from whose end there is a way on, and the way on from there. -/
def best (onwards : Place → Option Way) (ws : List Way) : Option Way :=
  ws.findSome? fun w => (onwards w.stop).map w.andThen

theorem best_nil (onwards : Place → Option Way) : best onwards [] = none := rfl

theorem best_append (onwards : Place → Option Way) (ws vs : List Way) :
    best onwards (ws ++ vs) = (best onwards ws).or (best onwards vs) :=
  List.findSome?_append

theorem best_cons (onwards : Place → Option Way) (w : Way) (ws : List Way) :
    best onwards (w :: ws) = ((onwards w.stop).map w.andThen).or (best onwards ws) := by
  rw [← List.singleton_append, best_append]
  simp [best]

theorem best_stay (onwards : Place → Option Way) (s : Place) :
    best onwards [.stay s] = onwards s := by
  cases h : onwards s <;> simp [best, stay, h, andThen]

theorem best_stay_cons (onwards : Place → Option Way) (s : Place) (ws : List Way) :
    best onwards (.stay s :: ws) = (onwards s).or (best onwards ws) := by
  rw [← best_stay onwards s, ← best_append]
  rfl

theorem best_congr {f g : Place → Option Way} {ws : List Way} (h : ∀ w ∈ ws, f w.stop = g w.stop) :
    best f ws = best g ws := by
  induction ws with
  | nil => rfl
  | cons w ws ih =>
    rw [best_cons, best_cons, h w List.mem_cons_self,
      ih fun v hv => h v (List.mem_cons_of_mem _ hv)]

theorem best_singleton (onwards : Place → Option Way) (w : Way) :
    best onwards [w] = (onwards w.stop).map w.andThen := by
  rw [best_cons, best_nil, Option.or_none]

theorem best_map_andThen (onwards : Place → Option Way) (w : Way) (ws : List Way) :
    best onwards (ws.map w.andThen) = (best onwards ws).map w.andThen := by
  have assoc (v : Way) : (w.andThen v).andThen = w.andThen ∘ v.andThen := by
    funext u
    exact andThen_assoc ..
  induction ws with
  | nil => rfl
  | cons v ws ih =>
    rw [List.map_cons, best_cons, best_cons, ih, Option.map_or, Option.map_map, andThen_stop,
      assoc]

/-- Ways that are each continued by several others. -/
theorem best_flatMap {f g : Place → Option Way} {continued : Way → List Way} {ws : List Way}
    (h : ∀ w ∈ ws, best f (continued w) = (g w.stop).map w.andThen) :
    best f (ws.flatMap continued) = best g ws := by
  induction ws with
  | nil => rfl
  | cons w ws ih =>
    rw [List.flatMap_cons, best_append, best_cons, h w List.mem_cons_self,
      ih fun v hv => h v (List.mem_cons_of_mem _ hv)]

theorem best_map_caughtBy (onwards : Place → Option Way) (number : Nat) (s : Place)
    (ws : List Way) :
    best onwards (ws.map fun w => w.caughtBy number s) =
      (best (fun t => (onwards t).map (.behind ⟨number, .closing, t.index⟩)) ws).map
        (.behind ⟨number, .opening, s.index⟩) := by
  induction ws with
  | nil => rfl
  | cons w ws ih =>
    rw [List.map_cons, best_cons, best_cons, ih, Option.map_or, Option.map_map, Option.map_map]
    congr 2
    funext v
    exact caughtBy_andThen ..

end Way

/-! ## The survey -/

/-- How to go on from a place and those behind it, when the way on from the place itself is
given. -/
def Place.orLater (s : Place) (here : Option Way) (later : Place → Option Way) :
    Place → Option Way :=
  fun t => if t.index = s.index then here else later t

theorem Place.orLater_self (s : Place) (here : Option Way) (later : Place → Option Way) :
    s.orLater here later s = here := if_pos rfl

theorem Place.orLater_of_ne {s t : Place} (here : Option Way) (later : Place → Option Way)
    (h : t.index ≠ s.index) : s.orLater here later t = later t := if_neg h

/-- What prospects in a place keep: the best way on from there behind every class of characters,
when it is known how to go on behind the pattern. -/
def Prospects.Fit (s : Place) (onwards : Place → Option Way) : Pattern → Prospects → Prop
  | .empty, _ | .anchor _, _ => True
  | .char _, known => known.way = onwards s
  | .group number p, known =>
    Fit s (fun t => (onwards t).map (.behind ⟨number, .closing, t.index⟩)) p known
  | .seq p q, known =>
    Fit s (fun t => Way.best onwards (q.ways t)) p known.first ∧ Fit s onwards q known.second
  | .alt p q, known => Fit s onwards p known.first ∧ Fit s onwards q known.second
  | .opt _ p, known => Fit s onwards p known
  | .plus greed p, known =>
    Fit s (fun t => Way.best onwards (Pattern.onward p.ways greed t.rest.length t)) p known

/-- Prospects behind the next character, if there is one. -/
def Prospects.FitNext (s : Place) (onwards : Place → Option Way) (p : Pattern)
    (known : Prospects) : Prop :=
  ∀ c cs, s.rest = c :: cs → Prospects.Fit (s.advance c cs) onwards p known

namespace Pattern

/-- Ways on from a later place do not lead back. -/
theorem best_orLater_of_ne {s t : Place} {here : Option Way} {later : Place → Option Way}
    {ws : List Way} (ht : s.Reaches t) (hi : t.index ≠ s.index)
    (hw : ∀ w ∈ ws, t.Reaches w.stop) :
    Way.best (s.orLater here later) ws = Way.best later ws := by
  refine Way.best_congr fun w hm => Place.orLater_of_ne _ _ ?_
  have := (hw w hm).index_le
  have := ht.index_le
  omega

/-- Ways that are continued by those from where they end. -/
theorem best_flatMap_ways {s : Place} {here : Option Way} {later : Place → Option Way}
    {p q : Pattern} :
    Way.best (s.orLater here later)
        ((p.ways s).flatMap fun w => (q.ways w.stop).map w.andThen) =
      Way.best (s.orLater (Way.best (s.orLater here later) (q.ways s))
        (fun t => Way.best later (q.ways t))) (p.ways s) := by
  refine Way.best_flatMap fun w hw => ?_
  have hr := p.reaches_of_mem_ways s w hw
  rw [Way.best_map_andThen]
  congr 1
  by_cases hi : w.stop.index = s.index
  · rw [hr.eq_of_index hi, Place.orLater_self]
  · rw [Place.orLater_of_ne _ _ hi, best_orLater_of_ne hr hi (q.reaches_of_mem_ways _)]

/-- Ways of a round that are continued by further rounds. -/
theorem best_rounds {s : Place} {here : Option Way} {later : Place → Option Way}
    {round : Place → List Way} {greed : Greed} (h : ∀ s, ∀ w ∈ round s, s.Reaches w.stop) :
    Way.best (s.orLater here later) (rounds round greed s) =
      Way.best (s.orLater here fun t => Way.best later (onward round greed t.rest.length t))
        (round s) := by
  rw [rounds_eq h]
  refine Way.best_flatMap fun w hw => ?_
  have hr := h s w hw
  split
  · rename_i hi
    rw [Way.best_singleton, hr.eq_of_index hi, Place.orLater_self, Place.orLater_self]
  · rename_i hi
    rw [Way.best_map_andThen, Place.orLater_of_ne _ _ hi,
      best_orLater_of_ne hr hi (reaches_of_mem_onward h _ _)]

/-- Further rounds, when the way on from the place itself is given. -/
theorem best_further {s : Place} {later : Place → Option Way}
    {round : Place → List Way} {greed : Greed} (h : ∀ s, ∀ w ∈ round s, s.Reaches w.stop) :
    Way.best later (further round greed s) =
      Way.best (s.orLater none fun t => Way.best later (onward round greed t.rest.length t))
        (round s) := by
  refine Way.best_flatMap fun w hw => ?_
  split
  · rename_i hi
    rw [(h s w hw).eq_of_index hi, Place.orLater_self]
    rfl
  · rename_i hi
    rw [Way.best_map_andThen, Place.orLater_of_ne _ _ hi]

theorem preferred_eq (s : Place) (p : Pattern) :
    ∀ (onwards : Place → Option Way) (known : Prospects) (here : Option Way),
      Prospects.FitNext s onwards p known →
      p.preferred s known here = Way.best (s.orLater here onwards) (p.ways s) := by
  induction p with
  | empty =>
    intro onwards known here _
    rw [preferred, ways, Way.best_stay, Place.orLater_self]
  | char accepted =>
    intro onwards known here h
    simp only [preferred, ways]
    cases hr : s.rest with
    | nil => rfl
    | cons c cs =>
      simp only
      split
      · rw [Way.best_stay, Place.orLater_of_ne _ _ (Nat.succ_ne_self _)]
        exact h c cs hr
      · rfl
  | anchor a =>
    intro onwards known here _
    simp only [preferred, ways]
    split
    · rw [Way.best_stay, Place.orLater_self]
    · rfl
  | group number p ih =>
    intro onwards known here h
    rw [preferred, ways, ih _ known _ h, Way.best_map_caughtBy]
    congr 1
    refine Way.best_congr fun w _ => ?_
    unfold Place.orLater
    split
    · rename_i hi
      rw [hi]
    · rfl
  | seq p q ihp ihq =>
    intro onwards known here h
    rw [preferred, ways, ihq onwards _ here fun c cs hr => (h c cs hr).2,
      ihp _ _ _ fun c cs hr => (h c cs hr).1, best_flatMap_ways]
  | alt p q ihp ihq =>
    intro onwards known here h
    rw [preferred, ways, Way.best_append, ihp onwards _ here fun c cs hr => (h c cs hr).1,
      ihq onwards _ here fun c cs hr => (h c cs hr).2]
  | opt greed p ih =>
    intro onwards known here h
    cases greed with
    | greedy =>
      rw [preferred, ways, Way.best_append, Way.best_stay, Place.orLater_self,
        ih onwards known here h]
    | reluctant =>
      rw [preferred, ways, Way.best_stay_cons, Place.orLater_self, ih onwards known here h]
  | plus greed p ih =>
    intro onwards known here h
    rw [preferred, ways, ih _ known here h, best_rounds p.reaches_of_mem_ways]

/-- The way on from the place itself may be among those that are known. -/
theorem preferred_eq_best {s : Place} {p : Pattern} {onwards : Place → Option Way}
    {known : Prospects} (h : Prospects.FitNext s onwards p known) :
    p.preferred s known (onwards s) = Way.best onwards (p.ways s) := by
  rw [preferred_eq s p onwards known _ h]
  refine Way.best_congr fun w hw => ?_
  unfold Place.orLater
  split
  · rename_i hi
    rw [(p.reaches_of_mem_ways s w hw).eq_of_index hi]
  · rfl

theorem afterRound_eq {s : Place} {p : Pattern} {greed : Greed} {onwards : Place → Option Way}
    {known : Prospects} (h : Prospects.FitNext s onwards (.plus greed p) known) :
    afterRound s greed p known (onwards s) =
      Way.best onwards (onward p.ways greed s.rest.length s) := by
  rw [onward_eq p.reaches_of_mem_ways]
  cases greed with
  | greedy =>
    rw [afterRound, Way.best_append, Way.best_stay, best_further p.reaches_of_mem_ways,
      preferred_eq s p _ known none h]
  | reluctant =>
    rw [afterRound, Way.best_stay_cons, best_further p.reaches_of_mem_ways,
      preferred_eq s p _ known none h]

theorem fit_prospects (s : Place) (p : Pattern) :
    ∀ (onwards : Place → Option Way) (known : Prospects),
      Prospects.FitNext s onwards p known →
      Prospects.Fit s onwards p (p.prospects s known (onwards s)) := by
  induction p with
  | empty | anchor => exact fun _ _ _ => trivial
  | char accepted => exact fun _ _ _ => rfl
  | group number p ih => exact fun onwards known h => ih _ known h
  | seq p q ihp ihq =>
    intro onwards known h
    have hq : Prospects.FitNext s onwards q known.second := fun c cs hr => (h c cs hr).2
    refine ⟨?_, ihq onwards _ hq⟩
    rw [prospects, preferred_eq_best hq]
    exact ihp (fun t => Way.best onwards (q.ways t)) known.first fun c cs hr => (h c cs hr).1
  | alt p q ihp ihq =>
    intro onwards known h
    exact ⟨ihp onwards _ fun c cs hr => (h c cs hr).1, ihq onwards _ fun c cs hr => (h c cs hr).2⟩
  | opt greed p ih =>
    intro onwards known h
    exact ih onwards known h
  | plus greed p ih =>
    intro onwards known h
    rw [prospects, afterRound_eq h]
    exact ih (fun t => Way.best onwards (onward p.ways greed t.rest.length t)) known h

/-- The places of a text from one on. -/
def placesFrom (index : Nat) (before : Option Char) : Text → List Place
  | [] => [⟨index, before, []⟩]
  | c :: cs => ⟨index, before, c :: cs⟩ :: placesFrom (index + 1) (some c) cs

/-- The places of a text, its end included. -/
def places (t : Text) : List Place :=
  placesFrom 0 none t

theorem best_some_stay (ws : List Way) : Way.best (fun t => some (.stay t)) ws = ws.head? := by
  cases ws with
  | nil => rfl
  | cons w ws => simp [Way.best_cons, Way.andThen, Way.stay]

theorem surveyFrom_add (s : Place) (p : Pattern) (later : Prospects × List (Option Way))
    (h : Prospects.FitNext s (fun t => some (.stay t)) p later.1) :
    Prospects.Fit s (fun t => some (.stay t)) p (surveyFrom.add p s later).1 ∧
      (surveyFrom.add p s later).2 = (p.ways s).head? :: later.2 :=
  ⟨fit_prospects s p _ _ h, by
    rw [← best_some_stay, ← preferred_eq_best h]
    rfl⟩

theorem surveyFrom_fits (p : Pattern) (t : Text) : ∀ (index : Nat) (before : Option Char),
    Prospects.Fit ⟨index, before, t⟩ (fun s => some (.stay s)) p
        (p.surveyFrom index before t).1 ∧
      (p.surveyFrom index before t).2 =
        (placesFrom index before t).map fun s => (p.ways s).head? := by
  induction t with
  | nil =>
    intro index before
    exact surveyFrom_add ⟨index, before, []⟩ p (.nowhere, []) nofun
  | cons c cs ih =>
    intro index before
    have := surveyFrom_add ⟨index, before, c :: cs⟩ p (p.surveyFrom (index + 1) (some c) cs)
      fun _ _ hr => by
        obtain ⟨rfl, rfl⟩ := List.cons.inj hr
        exact (ih _ _).1
    rw [placesFrom, List.map_cons, ← (ih _ _).2]
    exact this

/-- In every place of a text the survey has the preferred one of the ways from there. -/
theorem survey_eq (p : Pattern) (t : Text) :
    p.survey t = (places t).map fun s => (p.ways s).head? :=
  (surveyFrom_fits p t 0 none).2

end Pattern

end Interpolation
