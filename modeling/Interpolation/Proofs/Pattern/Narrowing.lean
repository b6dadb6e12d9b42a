import Interpolation.Proofs.Pattern.Preference

/-!
# Patterns with narrower classes

If the classes of one pattern are those of another one without some characters, then its ways are those of the
other one that do not pass such a character, and the order of preference is the same.

* `Way.passesOnly`: a way passes characters of a kind only;
* `Pattern.Narrows`: two patterns that differ in their classes;
* `Pattern.Narrows.ways_eq`: the ways of the narrower one, and `Pattern.Narrows.head?_ways` is the preferred one, if it
  is still there.
-/

namespace Interpolation

/-- Whether a way from a place passes characters of a kind only. -/
def Way.passesOnly (kind : Char → Bool) (s : Place) (w : Way) : Bool :=
  (s.rest.take (s.rest.length - w.stop.rest.length)).all kind

namespace Pattern

variable {kind : Char → Bool} {p q : Pattern} {ps qs : List Pattern} {s : Place} {u r : Text} {w v : Way}

theorem passesOnly_eq (h : s.rest = u ++ w.stop.rest) : w.passesOnly kind s = u.all kind := by
  rw [Way.passesOnly, h, List.length_append, Nat.add_sub_cancel, List.take_left]

theorem passesOnly_stay (s : Place) : (Way.stay s).passesOnly kind s = true :=
  passesOnly_eq (u := []) rfl

theorem passesOnly_andThen (hw : w.stop.rest <:+ s.rest) (hv : v.stop.rest <:+ w.stop.rest) :
    (w.andThen v).passesOnly kind s = (w.passesOnly kind s && v.passesOnly kind w.stop) := by
  obtain ⟨u, hu⟩ := hw
  obtain ⟨u', hu'⟩ := hv
  rw [passesOnly_eq hu.symm, passesOnly_eq hu'.symm, ← List.all_append]
  exact passesOnly_eq (by rw [List.append_assoc, Way.andThen_stop, hu', hu])

theorem filter_stay (s : Place) : [Way.stay s].filter (Way.passesOnly kind s) = [.stay s] := by
  rw [List.filter_cons_of_pos (passesOnly_stay s), List.filter_nil]

/-- Of ways that are each continued by several others, those stay of which both parts stay. -/
theorem filter_flatMap_andThen {ws : List Way} {continued continued' : Way → List Way}
    (hws : ∀ w ∈ ws, w.stop.rest <:+ s.rest)
    (hcontinued : ∀ w ∈ ws, ∀ v ∈ continued w, v.stop.rest <:+ w.stop.rest)
    (hcontinued' : ∀ w ∈ ws, continued' w = (continued w).filter (Way.passesOnly kind w.stop)) :
    (ws.filter (Way.passesOnly kind s)).flatMap (fun w => (continued' w).map w.andThen) =
      (ws.flatMap fun w => (continued w).map w.andThen).filter (Way.passesOnly kind s) := by
  induction ws with
  | nil => rfl
  | cons w ws ih =>
    have hfilter : (continued w).filter (Way.passesOnly kind s ∘ w.andThen) =
        (continued w).filter fun v => w.passesOnly kind s && v.passesOnly kind w.stop :=
      List.filter_congr fun v hv => passesOnly_andThen (hws w List.mem_cons_self)
        (hcontinued w List.mem_cons_self v hv)
    rw [List.flatMap_cons, List.filter_append, List.filter_map, hfilter, List.filter_cons,
      ← ih (fun w hw => hws w (List.mem_cons_of_mem _ hw))
        (fun w hw => hcontinued w (List.mem_cons_of_mem _ hw))
        fun w hw => hcontinued' w (List.mem_cons_of_mem _ hw)]
    cases w.passesOnly kind s <;> simp [hcontinued' w List.mem_cons_self]

theorem suffix_of_mem_onward {greed : Greed} {fuel : Nat} (h : w ∈ onward p.ways greed fuel s) :
    w.stop.rest <:+ s.rest := by
  rcases walks_onward p.walks_of_mem_ways fuel s w h with rfl | hwalks
  · exact List.suffix_refl s.rest
  · obtain ⟨u, hu, -, -⟩ := hwalks.leads
    exact ⟨u, hu.symm⟩

/-- The first pattern has the classes of the second one without the characters that are not of a kind. -/
inductive Narrows (kind : Char → Bool) : Pattern → Pattern → Prop where
  | empty : Narrows kind .empty .empty
  | char {a b : CharClass} (h : ∀ c, b.contains c = (a.contains c && kind c)) :
    Narrows kind (.char b) (.char a)
  | anchor {a : Anchor} : Narrows kind (.anchor a) (.anchor a)
  | group {number : Nat} {p q : Pattern} (h : Narrows kind q p) :
    Narrows kind (.group number q) (.group number p)
  | seq {p q p' q' : Pattern} (h : Narrows kind q p) (h' : Narrows kind q' p') :
    Narrows kind (.seq q q') (.seq p p')
  | alt {p q p' q' : Pattern} (h : Narrows kind q p) (h' : Narrows kind q' p') :
    Narrows kind (.alt q q') (.alt p p')
  | opt {greed : Greed} {p q : Pattern} (h : Narrows kind q p) : Narrows kind (.opt greed q) (.opt greed p)
  | plus {greed : Greed} {p q : Pattern} (h : Narrows kind q p) :
    Narrows kind (.plus greed q) (.plus greed p)

theorem Narrows.star {greed : Greed} (h : Narrows kind q p) : Narrows kind (.star greed q) (.star greed p) :=
  .opt (.plus h)

theorem Narrows.seqs_map {α : Type} {f g : α → Pattern} {xs : List α}
    (h : ∀ x ∈ xs, Narrows kind (f x) (g x)) : Narrows kind (.seqs (xs.map f)) (.seqs (xs.map g)) := by
  have fold : ∀ (xs : List α) (q p : Pattern), (∀ x ∈ xs, Narrows kind (f x) (g x)) → Narrows kind q p →
      Narrows kind ((xs.map f).foldl .seq q) ((xs.map g).foldl .seq p) := by
    intro xs
    induction xs with
    | nil => exact fun q p _ hqp => hqp
    | cons x xs ih =>
      exact fun q p hxs hqp =>
        ih _ _ (fun y hy => hxs y (List.mem_cons_of_mem _ hy)) (.seq hqp (hxs x List.mem_cons_self))
  cases xs with
  | nil => exact .empty
  | cons x xs => exact fold xs _ _ (fun y hy => h y (List.mem_cons_of_mem _ hy)) (h x List.mem_cons_self)

/-- Further rounds of the narrower pattern. -/
theorem onward_of_filter (h : ∀ s, q.ways s = (p.ways s).filter (Way.passesOnly kind s)) (greed : Greed) :
    ∀ fuel s, onward q.ways greed fuel s =
      (onward p.ways greed fuel s).filter (Way.passesOnly kind s) := by
  intro fuel
  induction fuel with
  | zero => exact fun s => (filter_stay s).symm
  | succ fuel ih =>
    intro s
    have continuing (round : Place → List Way) : ((round s).flatMap fun w =>
        if w.stop.index = s.index then [] else (onward round greed fuel w.stop).map w.andThen) =
        (round s).flatMap fun w =>
          (if w.stop.index = s.index then [] else onward round greed fuel w.stop).map w.andThen := by
      simp only [apply_ite (List.map _), List.map_nil]
    have more : ((q.ways s).flatMap fun w =>
        if w.stop.index = s.index then [] else (onward q.ways greed fuel w.stop).map w.andThen) =
        ((p.ways s).flatMap fun w => if w.stop.index = s.index then []
          else (onward p.ways greed fuel w.stop).map w.andThen).filter (Way.passesOnly kind s) := by
      rw [continuing, continuing, h]
      refine filter_flatMap_andThen (fun w => suffix_of_mem_ways) (fun w _ v hv => ?_) fun w _ => ?_
      · split at hv
        · cases hv
        · exact suffix_of_mem_onward hv
      · rw [ih, apply_ite (List.filter _), List.filter_nil]
    cases greed with
    | greedy => simp only [onward, more, List.filter_append, filter_stay]
    | reluctant => simp only [onward, more, List.filter_cons, passesOnly_stay, if_true]

/-- The ways of the narrower pattern are those of the other one that pass characters of the kind only. -/
theorem Narrows.ways_eq (h : Narrows kind q p) (s : Place) :
    q.ways s = (p.ways s).filter (Way.passesOnly kind s) := by
  induction h generalizing s with
  | empty => exact (filter_stay s).symm
  | @char a b h =>
    simp only [ways]
    cases hs : s.rest with
    | nil => rfl
    | cons c cs =>
      have hpasses : (Way.stay (s.advance c cs)).passesOnly kind s = kind c :=
        (passesOnly_eq (u := [c]) hs).trans (by simp)
      simp only [h, Bool.and_eq_true]
      by_cases ha : a.contains c <;> by_cases hk : kind c <;> simp [ha, hk, hpasses]
  | @anchor a =>
    simp only [ways]
    split
    · exact (filter_stay s).symm
    · rfl
  | group _ ih =>
    simp only [ways, ih, List.filter_map]
    rfl
  | seq _ _ ih ih' =>
    simp only [ways, ih]
    exact filter_flatMap_andThen (fun w => suffix_of_mem_ways) (fun w _ v => suffix_of_mem_ways)
      fun w _ => ih' w.stop
  | alt _ _ ih ih' => simp only [ways, ih, ih', List.filter_append]
  | @opt greed _ _ _ ih =>
    cases greed with
    | greedy => simp only [ways, ih, List.filter_append, filter_stay]
    | reluctant => simp only [ways, ih, List.filter_cons, passesOnly_stay, if_true]
  | @plus greed p q _ ih =>
    have continuing (round : Place → List Way) : rounds round greed s = (round s).flatMap fun w =>
        (if w.stop.index = s.index then [.stay w.stop]
          else onward round greed s.rest.length w.stop).map w.andThen := by
      simp only [rounds, apply_ite (List.map _), List.map_singleton, andThen_stay]
    simp only [ways, continuing, ih]
    refine filter_flatMap_andThen (fun w => suffix_of_mem_ways) (fun w _ v hv => ?_) fun w _ => ?_
    · split at hv
      · obtain rfl := List.mem_singleton.1 hv
        exact List.suffix_refl _
      · exact suffix_of_mem_onward hv
    · rw [onward_of_filter ih, apply_ite (List.filter _), filter_stay]

/-- If the preferred way passes characters of the kind only, it is also that of the narrower pattern. -/
theorem Narrows.head?_ways (h : Narrows kind q p) (hw : (p.ways s).head? = some w)
    (hs : s.rest = u ++ w.stop.rest) (hu : ∀ c ∈ u, kind c) : (q.ways s).head? = some w := by
  have hpasses : w.passesOnly kind s = true := (passesOnly_eq hs).trans (List.all_eq_true.2 hu)
  obtain ⟨ws, hws⟩ := List.head?_eq_some_iff.1 hw
  rw [h.ways_eq, hws, List.filter_cons_of_pos hpasses, List.head?_cons]

end Pattern

end Interpolation
