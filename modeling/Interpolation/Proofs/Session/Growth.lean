import Interpolation.Proofs.Session.Moments

/-!
# Stored properties never change

A session only adds properties, and only ones that are unset.

* `Moment.Follows` relates moments between which nothing or one new name is stored,
  `Moment.Same` those between which nothing is;
* `Eval.Idle` evaluations store nothing when they answer nothing or an object, and neither do
  `Host.Faithful` hosts when they find a property without a text; what they call unset is not
  stored;
* `Strategy.Assembled.idle` and `Resolver.Assembled.faithful`: strategies are idle against faithful
  hosts, and the hosts of sessions are faithful;
* `Resolver.runAll_grows`: whatever a session is asked for, names are only gained.
-/

namespace Interpolation

/-! ## Moments -/

/-- Nothing is stored between two moments. -/
def Moment.Same (earlier later : Moment) : Prop :=
  later.properties = earlier.properties

/-- Nothing is stored between two moments, or one name that was not stored. -/
inductive Moment.Follows (earlier later : Moment) : Prop where
  | same (h : later.properties = earlier.properties)
  | gains (name text : Text) (unset : earlier.properties.get? name = none)
      (h : later.properties = earlier.properties.insert name text)

theorem State.Leads.properties_eq {s t : State} (h : s.Leads Moment.Same t) :
    t.properties = s.properties := by
  obtain ⟨run, hr, hc⟩ := h
  have same := State.forall_of_isChain (P := fun m => m.properties = s.properties)
    (fun m n h hm => h.trans hm) rfl hc
  cases run with
  | nil => exact congrArg Moment.properties (List.cons.inj hr).1
  | cons m run =>
    obtain rfl : t.now = m := (List.cons.inj hr).1
    exact same _ List.mem_cons_self

/-- A name that is stored keeps its text. -/
theorem Moment.Follows.get? {m n : Moment} (h : m.Follows n) {name text : Text}
    (hs : m.properties.get? name = some text) : n.properties.get? name = some text := by
  cases h with
  | same h => rw [h, hs]
  | gains other text' unset h =>
    have hne : name ≠ other := by
      rintro rfl
      simp [hs] at unset
    rw [h, TextMap.get?_insert_of_ne _ _ hne, hs]

/-! ## Idle evaluations and faithful hosts -/

/-- Where an evaluation answers nothing or an object, it has stored nothing. -/
def Eval.Idle (e : Eval (Option Value)) : Prop :=
  ∀ s a t, e s = some (.ok a, t) → a.bind Value.text? = none → s.Leads Moment.Same t

/-- A host that stores nothing while it finds no text to work on, and calls a property unset only
if it is not stored. -/
def Host.Faithful (host : Host) : Prop :=
  ∀ name s o t, Operand.lookup host.toProperties name s = some (.ok o, t) →
    (o.value? = none → s.Leads Moment.Same t) ∧ (o = .unset → s.properties.get? name = none)

namespace Eval

theorem Idle.of_moves {e : Eval (Option Value)} (h : Moves Moment.Same e) : Idle e :=
  fun s _ t hs _ => h s _ t hs

/-- Alternatives are tried only if the ones before store nothing. -/
theorem Idle.orElse {e : Eval (Option Value)} {f : Eval (Option Value)} (he : Idle e)
    (hf : Idle f) : Idle (e >>= fun
      | some v => pure (some v)
      | none => f) := by
  intro s a t h ha
  rcases run_bind_eq_some.1 h with ⟨b, u, hu, ht⟩ | ⟨x, -, hx⟩
  · cases b with
    | some v =>
      obtain ⟨rfl, rfl⟩ := Eval.ok_inj ht
      exact he s _ u hu ha
    | none => exact (he s none u hu rfl).trans (hf u a t ht ha)
  · cases hx

theorem Idle.within {e : Eval (Option Value)} (he : Idle e) (balance : Balance) (f : Frame) :
    Idle (Eval.within balance f e) := by
  intro s a t h ha
  obtain ⟨u, hu, ht⟩ := exists_run_of_within h
  have hr : ∀ m g, Moment.Same m ⟨m.properties, g⟩ := fun _ _ => rfl
  exact ((State.Leads.withGuard hr s _).trans (he _ a u hu ha)).trans
    (Moves.leave hr f balance u _ t ht)

theorem Idle.resolveOnce {e : Eval (Option Value)} (he : Idle e) (scope : Scope)
    (balance : Balance) (token : Text) : Idle (resolveOnce scope balance token e) := by
  intro s a t h ha
  rcases run_bind_eq_some.1 h with ⟨b, u, hu, ht⟩ | ⟨x, -, hx⟩
  · obtain ⟨-, rfl⟩ := Eval.outcome_inj hu
    cases b with
    | true => exact Idle.of_moves (.ofExcept (.ok none)) s a t ht ha
    | false => exact he.within balance _ s a t ht ha
  · cases hx

end Eval

/-! ## Strategies -/

variable {ops : Operator → Prop} {scopes : Scope → Prop} {host : Host} {r : Resolver}

theorem Plan.idle (faithful : host.Faithful) {token : Text} {p : Plan} (h : p.Proper ops token) :
    Eval.Idle (p.run host token) := by
  cases h with
  | done => exact .of_moves (.ofExcept _)
  | reference id => exact .of_moves (.ask _)
  | operand _ _ text =>
    intro s a t h ha
    rcases Eval.run_bind_eq_some.1 h with ⟨o, u, hu, ht⟩ | ⟨x, -, hx⟩
    · obtain ⟨ho, rfl⟩ := Eval.outcome_inj ht
      refine (faithful _ s o u hu).1 ?_
      cases o with
      | set value =>
        have := text value a ho
        rw [ha] at this
        cases this
      | unset | inFlight => rfl
    · cases hx
  | setDefault text =>
    intro s a t h ha
    rcases Eval.run_bind_eq_some.1 h with ⟨o, u, hu, ht⟩ | ⟨x, -, hx⟩
    · cases o with
      | set value =>
        obtain ⟨rfl, -⟩ := Eval.ok_inj ht
        cases ha
      | inFlight =>
        obtain ⟨-, rfl⟩ := Eval.outcome_inj ht
        exact (faithful _ s _ u hu).1 rfl
      | unset =>
        obtain ⟨rfl, -⟩ := Eval.ok_inj ht
        cases ha
    · cases hx
  | construct label content =>
    refine .of_moves (.bind (.newObject label content) fun o => .bind ?_ fun _ => .ofExcept (.ok _))
    exact .change fun s => rfl

theorem Strategy.idle_firstAnswer {token : Text} {ds : List Strategy}
    (h : ∀ d ∈ ds, Eval.Idle (d.evaluate host token)) :
    Eval.Idle (Strategy.firstAnswer ds host token) := by
  induction ds with
  | nil => exact .of_moves (.ofExcept (.ok none))
  | cons d ds ih =>
    exact (h d List.mem_cons_self).orElse (ih fun d hd => h d (List.mem_cons_of_mem _ hd))

theorem Strategy.Assembled.idle (standard : host.IsStandard) (faithful : host.Faithful)
    {s : Strategy} (h : s.Assembled ops scopes) (token : Text) :
    Eval.Idle (s.evaluate host token) := by
  refine h.induct (motive := fun s => Eval.Idle (s.evaluate host token)) (fun s hs => ?_)
    fun scope balance delegates _ ih => ?_
  · obtain ⟨p, hp, hrun⟩ := hs token
    rw [hrun host standard]
    exact p.idle faithful hp
  · rw [Strategy.evaluate]
    exact (Strategy.idle_firstAnswer ih).resolveOnce scope balance token

/-! ## Hosts of sessions -/

/-- A property without a text, not in flight, is not stored, and nothing has been stored while this
was found out. -/
theorem Resolver.lookup_eq_none (standard : host.IsStandard) (faithful : host.Faithful)
    (h : r.Assembled ops scopes) {name : Text} {s t : State}
    (hl : r.lookup host name s = some (.ok none, t))
    (hf : (s.guard.contains ⟨r.scope, name⟩ && s.properties.contains name) = false) :
    s.Leads Moment.Same t ∧ s.properties.get? name = none := by
  obtain ⟨v, hv, hn⟩ := Resolver.run_lookup_eq_some hl
  cases hp : s.properties.get? name with
  | none =>
    rw [Resolver.run_propertyValue_of_unset hp] at hv
    exact ⟨h.chain.idle standard faithful name s v t hv hn, rfl⟩
  | some raw =>
    -- the property has a text then
    rw [TextMap.contains, hp, Option.isSome_some, Bool.and_true] at hf
    rw [Resolver.run_propertyValue_of_stored hp hf] at hv
    rcases Eval.run_bind_eq_some.1 hv with ⟨text, u, -, ht⟩ | ⟨x, -, hx⟩
    · obtain ⟨rfl, -⟩ := Eval.ok_inj ht
      cases hn
    · cases hx

/-- The host of a session is faithful, whatever depth it goes down to. -/
theorem Resolver.Assembled.faithful (h : r.Assembled ops scopes) (beyond : Option Error)
    (depth : Nat) : (r.hostWith beyond depth).Faithful := by
  have step : ∀ depth, (∀ name s t, (r.hostWith beyond depth).lookup name s = some (.ok none, t) →
      (s.guard.contains ⟨r.scope, name⟩ && s.properties.contains name) = false →
        s.Leads Moment.Same t ∧ s.properties.get? name = none) →
      (r.hostWith beyond depth).Faithful := by
    intro depth hl name s o t ho
    cases hf : s.guard.contains ⟨r.scope, name⟩ && s.properties.contains name with
    | true =>
      rw [Resolver.run_operandLookup_of_inFlight beyond depth hf] at ho
      obtain ⟨rfl, rfl⟩ := Eval.ok_inj ho
      exact ⟨fun _ => .refl _ s, nofun⟩
    | false =>
      rw [Resolver.run_operandLookup beyond depth hf] at ho
      rcases Eval.run_bind_eq_some.1 ho with ⟨a, u, hu, ht⟩ | ⟨x, -, hx⟩
      · cases a with
        | some value =>
          obtain ⟨rfl, rfl⟩ := Eval.ok_inj ht
          exact ⟨nofun, nofun⟩
        | none =>
          obtain ⟨ho, rfl⟩ := Eval.outcome_inj ht
          have := hl name s u hu hf
          exact ⟨fun _ => this.1, fun _ => this.2⟩
      · cases hx
  induction depth with
  | zero =>
    refine step 0 fun name s t hl => ?_
    obtain ⟨e, -, he⟩ := Option.map_eq_some_iff.1 hl
    cases (Prod.mk.inj he).1
  | succ depth ih =>
    refine step (depth + 1) fun name s t hl hf => ?_
    exact Resolver.lookup_eq_none (h.isStandard beyond depth) ih h hl hf

/-! ## Runs -/

theorem moves_plan {token : Text} {p : Plan} (faithful : host.Faithful)
    (obeys : host.Obeys (@Eval.Moves Moment.Follows)) (h : p.Proper ops token) :
    Eval.Moves Moment.Follows (p.run host token) := by
  have law := Eval.moves_law Moment.Follows
  cases h with
  | done => exact .ofExcept _
  | reference id => exact .ask _
  | operand => exact .bind (law.operandLookup obeys _) fun o => .ofExcept _
  | @setDefault name text =>
    intro s r t h
    rcases Eval.run_bind_eq_some.1 h with ⟨o, u, hu, ht⟩ | ⟨x, hx, -⟩
    · have hs := law.operandLookup obeys name s _ u hu
      cases o with
      | set value => exact hs.trans (Eval.Moves.ofExcept (.ok _) u r t ht)
      | inFlight => exact hs.trans (Eval.Moves.ofExcept (.ok _) u r t ht)
      | unset =>
        -- the name is still unset, for nothing has been stored since it was found to be
        obtain ⟨hsame, hunset⟩ := faithful name s .unset u hu
        have hu' : u.properties.get? name = none := by
          rw [(hsame rfl).properties_eq, hunset rfl]
        obtain ⟨-, rfl⟩ := Eval.outcome_inj ht
        exact hs.trans (.next rfl (.gains name text hu' rfl))
    · exact law.operandLookup obeys name s _ t hx
  | construct label content =>
    refine .bind (.newObject label content) fun o => .bind ?_ fun _ => .ofExcept (.ok _)
    exact .change fun s => rfl

/-- That at most unset names are stored is a law of sessions. -/
theorem moves_sessionLaw (beyond : Option Error) :
    Session.Law (@Eval.Moves Moment.Follows) Host.Faithful ops scopes beyond where
  toLaw := Eval.moves_law _
  giveUp := .giveUp beyond
  storedProperty := fun _ => .ask _
  isInFlight := fun _ _ _ => .ask _
  contains := fun _ _ => .ask _
  within := fun balance f _ _ h => h.within (fun _ _ => .same rfl) balance f
  plan := fun faithful obeys h => moves_plan faithful obeys h

namespace Resolver

variable {s t : State}

theorem leads_run (h : r.Assembled ops scopes) (hs : scopes r.scope) (beyond : Option Error)
    (depth : Nat) (call : Call) : Eval.Moves Moment.Follows (call.run r (r.hostWith beyond depth)) :=
  (moves_sessionLaw beyond).run h hs (h.faithful beyond) depth call

/-- Several calls store at most unset names. -/
theorem leads_runAll (h : r.Assembled ops scopes) (hs : scopes r.scope) (beyond : Option Error)
    (depth : Nat) (calls : List Call) {answers : List (Except Error Answer)}
    (hr : Call.runAll r (r.hostWith beyond depth) calls s = some (answers, t)) :
    s.Leads Moment.Follows t := by
  induction calls generalizing s answers with
  | nil =>
    obtain ⟨-, rfl⟩ := Eval.outcome_inj hr
    exact .refl _ s
  | cons call calls ih =>
    obtain ⟨⟨answer, u⟩, hu, hr⟩ := Option.bind_eq_some_iff.1 hr
    obtain ⟨⟨rest, v⟩, hv, hr⟩ := Option.bind_eq_some_iff.1 hr
    obtain ⟨-, rfl⟩ := Eval.outcome_inj hr
    exact (leads_run h hs beyond depth call s _ u hu).trans (ih hv)

/-- A token without an answer has stored nothing. -/
theorem same_of_resolve_eq_none (h : r.Assembled ops scopes) (beyond : Option Error) (depth : Nat)
    {token : Text}
    (hr : (Call.resolve token).run r (r.hostWith beyond depth) s = some (.ok (.value none), t)) :
    s.Leads Moment.Same t := by
  rw [Call.run, Eval.run_map] at hr
  obtain ⟨⟨a, u⟩, hu, hr⟩ := Option.map_eq_some_iff.1 hr
  obtain ⟨ha, rfl⟩ := Prod.mk.inj hr
  cases a with
  | error e => cases ha
  | ok a =>
    obtain rfl : a = none := by simpa [Except.map] using ha
    exact h.chain.idle (h.isStandard beyond depth) (h.faithful beyond depth) token s none u hu rfl

/-- Whatever a session is asked for, and however its calls end, the properties at every moment of
the run are those of the moment before, or one name more that was not stored then; so every name
keeps the text that it had at the start. While a token is resolved that has no answer, nothing is
stored. This holds at any depth, also where what lies beyond ends with an error. -/
theorem runAll_grows (h : r.IsBuilt) (beyond : Option Error) (depth : Nat) (calls : List Call)
    {answers : List (Except Error Answer)}
    (hr : Call.runAll r (r.hostWith beyond depth) calls s = some (answers, t)) :
    (∃ run : List Moment, t.history = run ++ s.history ∧
      ((run ++ [s.now]).IsChain fun later earlier => earlier.Follows later) ∧
      ∀ m ∈ run, ∀ name text, s.properties.get? name = some text →
        m.properties.get? name = some text) ∧
    ∀ token u v,
      (Call.resolve token).run r (r.hostWith beyond depth) u = some (.ok (.value none), v) →
        ∃ run : List Moment, v.history = run ++ u.history ∧
          ∀ m ∈ run, m.properties = u.properties := by
  constructor
  · obtain ⟨run, hrun, hc⟩ := leads_runAll h.assembled trivial beyond depth calls hr
    refine ⟨run, hrun, hc, fun m hm name text hs => ?_⟩
    exact State.forall_of_isChain
      (P := fun m => m.properties.get? name = some text) (fun m n hmn => hmn.get?) hs hc m hm
  · intro token u v hv
    obtain ⟨run, hrun, hc⟩ := same_of_resolve_eq_none h.assembled beyond depth hv
    exact ⟨run, hrun, State.forall_of_isChain
      (P := fun m => m.properties = u.properties) (fun m n hmn hm => hmn.trans hm) rfl hc⟩

/-- A session that stores a property, keeps it, and fails in the end. -/
theorem runAll_grows_default :
    let r := (Store.standard ∅).resolver
    ∃ answers t run, Call.runAll r (r.hostWith none 9)
        [.expand "${a:=1}".toList, .resolve "a:=2".toList, .lookup "b:?gone".toList] .empty =
          some (answers, t) ∧
      answers = [.ok (.text "1".toList), .ok (.value (some (.text "1".toList))),
        .error (.failure "gone".toList)] ∧
      t.properties.get? "a".toList = some "1".toList ∧
      t.history = run ++ State.empty.history ∧
        (run ++ [State.empty.now]).IsChain fun later earlier => earlier.Follows later := by
  intro r
  have run : (Call.runAll r (r.hostWith none 9) [.expand "${a:=1}".toList,
      .resolve "a:=2".toList, .lookup "b:?gone".toList] .empty).map
        (fun o => (o.1, o.2.properties.get? "a".toList)) =
      some ([.ok (.text "1".toList), .ok (.value (some (.text "1".toList))),
        .error (.failure "gone".toList)], some "1".toList) := by decide +kernel
  obtain ⟨⟨answers, t⟩, ht, hp⟩ := Option.map_eq_some_iff.1 run
  obtain ⟨ha, hstored⟩ := Prod.mk.inj hp
  obtain ⟨⟨moments, hm, hc, -⟩, -⟩ := runAll_grows (Store.isBuilt_standard ∅) none 9 _ ht
  exact ⟨answers, t, moments, ht, ha, hstored, hm, hc⟩

end Resolver

end Interpolation
