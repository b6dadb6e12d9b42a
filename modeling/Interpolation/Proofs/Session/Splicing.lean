import Interpolation.Proofs.Guard.Nesting
import Interpolation.Proofs.Session.Balance

/-!
# Nested chains

The chains of settings nest the operators in a strict chain of their own. It makes no difference if
the operators stand in the chain themselves: the nested chain is asked for a token only while the
chain around it is resolving the same token, so that its own check never finds the token in flight.

* `Chain.spliced` is a chain without nested chains;
* `Guard.Splices` relates the guards of the two sessions, `Guard.SplicesInside` those inside the
  chain, where no nested chain is resolving the token;
* `Strategy.Shallow` strategies are not nested further; `Strategy.twin_firstAnswer` and
  `Chain.twin_evaluate`: the two chains are twins on twin hosts;
* `ChainSettings.run_spliced`: so are sessions in all that they can be asked for.
-/

namespace Interpolation

/-! ## Splicing -/

/-- The strategies of a nested chain; any other strategy stands for itself. -/
def Strategy.spliced : Strategy → List Strategy
  | .chain _ _ delegates => delegates
  | s => [s]

/-- The chain with the strategies of nested chains in their places. -/
def Chain.spliced (c : Chain) : Chain :=
  { c with delegates := c.delegates.flatMap Strategy.spliced }

/-- The store with this chain. -/
def Resolver.spliced (r : Resolver) : Resolver :=
  { r with chain := r.chain.spliced }

/-! ## Guards -/

namespace Guard

variable {owner outer scope : Scope} {token name : Text} {g g' : Guard}

/-- The guards of a session with nested chains and of one without. The frames of properties and of
the outer chain are the same, and any other frame has a frame of the outer chain for the same token.
-/
structure Splices (owner outer : Scope) (g g' : Guard) : Prop where
  frames : g.SameFrames [owner, outer] g'
  covered : ∀ f ∈ g.frames, f.scope = owner ∨ ⟨outer, f.token⟩ ∈ g.frames

/-- The outer chain is resolving a token, and no nested chain is. -/
structure SplicesInside (owner outer : Scope) (token : Text) (g g' : Guard) : Prop
    extends Splices owner outer g g' where
  entered : ⟨outer, token⟩ ∈ g.frames
  idle : ∀ f ∈ g.frames, f.token = token → f.scope = owner ∨ f.scope = outer

namespace Splices

/-- A property is expanded. -/
theorem push (h : Splices owner outer g g') (name : Text) :
    Splices owner outer (g.push ⟨owner, name⟩) (g'.push ⟨owner, name⟩) where
  frames := framesOf_push h.frames _
  covered f hf := by
    rcases List.mem_cons.1 hf with rfl | hf
    · exact .inl rfl
    · exact (h.covered f hf).imp_right (List.mem_cons_of_mem _)

/-- The outer chain begins to resolve a token. Had a nested chain been resolving it, so would have
the outer one. -/
theorem enter (h : Splices owner outer g g') (fresh : g.contains ⟨outer, token⟩ = false) :
    SplicesInside owner outer token (g.push ⟨outer, token⟩) (g'.push ⟨outer, token⟩) where
  frames := framesOf_push h.frames _
  covered f hf := by
    rcases List.mem_cons.1 hf with rfl | hf
    · exact .inr List.mem_cons_self
    · exact (h.covered f hf).imp_right (List.mem_cons_of_mem _)
  entered := List.mem_cons_self
  idle f hf ht := by
    rcases List.mem_cons.1 hf with rfl | hf
    · exact .inr rfl
    · refine (h.covered f hf).imp_right fun hm => absurd hm ?_
      rw [ht]
      exact Nested.not_mem_of_fresh fresh

end Splices

namespace SplicesInside

variable (h : SplicesInside owner outer token g g') (howner : scope ≠ owner)
  (houter : scope ≠ outer)

include h howner houter

/-- A nested chain is not resolving the token yet. -/
theorem contains_eq_false : g.contains ⟨scope, token⟩ = false := by
  rw [Bool.eq_false_iff]
  intro hm
  rcases h.idle _ (contains_iff_mem.1 hm) rfl with ho | ho
  · exact howner ho
  · exact houter ho

/-- It begins to resolve it, and the other session does nothing. -/
theorem nest : Splices owner outer (g.push ⟨scope, token⟩) g' where
  frames := by
    refine Eq.trans ?_ h.frames
    rw [framesOf, push, List.filter_cons_of_neg (by simp [howner, houter])]
    rfl
  covered f hf := by
    rcases List.mem_cons.1 hf with rfl | hf
    · exact .inr (List.mem_cons_of_mem _ h.entered)
    · exact (h.covered f hf).imp_right (List.mem_cons_of_mem _)

end SplicesInside

end Guard

/-! ## Chains -/

variable {ops : Operator → Prop} {owner outer : Scope} {G : Guard → Guard → Prop}
  {host host' : Host} {token : Text}

/-- A strategy with plans, or a chain of such strategies whose scope is its own. -/
inductive Strategy.Shallow (ops : Operator → Prop) (owner outer : Scope) : Strategy → Prop where
  | follows {s : Strategy} (h : s.Follows ops) (whole : s.spliced = [s]) : Shallow ops owner outer s
  | chain {scope : Scope} {balance : Balance} {delegates : List Strategy} (howner : scope ≠ owner)
      (houter : scope ≠ outer) (h : ∀ d ∈ delegates, d.Follows ops) :
      Shallow ops owner outer (.chain scope balance delegates)

namespace Strategy

theorem twin_of_follows {s : Strategy} (h : s.Follows ops) (standard : host.IsStandard)
    (standard' : host'.IsStandard) (related : host.Related (Eval.Twin G) host') (token : Text) :
    Eval.Twin G (s.evaluate host token) (s.evaluate host' token) := by
  obtain ⟨p, hp, hrun⟩ := h token
  rw [hrun host standard, hrun host' standard']
  exact Plan.twin related hp

section Hosts

variable (standard : host.IsStandard) (standard' : host'.IsStandard)
  (related : host.Related (Eval.Twin (Guard.Splices owner outer)) host')

include standard standard' related

/-- A strategy does what stands in its place. A nested chain enters its frame, for the token is not
in flight there, and gives the frame back. -/
theorem Shallow.twin {s : Strategy} (h : s.Shallow ops owner outer) :
    Eval.Twin (Guard.SplicesInside owner outer token) (s.evaluate host token)
      (firstAnswer s.spliced host' token) := by
  cases h with
  | follows h whole =>
    rw [whole, firstAnswer_singleton]
    exact (twin_of_follows h standard standard' related token).mono fun _ _ hg => hg.toSplices
  | @chain scope balance delegates howner houter h =>
    have inside : Eval.Twin (Guard.Splices owner outer) (firstAnswer delegates host token)
        (firstAnswer delegates host' token) :=
      (Eval.twin_congruence _).firstAnswer fun d hd =>
        twin_of_follows (h d hd) standard standard' related token
    rw [evaluate]
    exact inside.resolveOnce_left (fun _ _ hg => hg.contains_eq_false howner houter)
      fun _ _ hg => hg.nest howner houter

theorem twin_firstAnswer {ds : List Strategy} (h : ∀ d ∈ ds, d.Shallow ops owner outer) :
    Eval.Twin (Guard.SplicesInside owner outer token) (firstAnswer ds host token)
      (firstAnswer (ds.flatMap spliced) host' token) := by
  have congruence := Eval.twin_congruence (Guard.SplicesInside owner outer token)
  induction ds with
  | nil => exact congruence.pure none
  | cons d ds ih =>
    rw [List.flatMap_cons, firstAnswer_append, firstAnswer]
    refine ((h d List.mem_cons_self).twin standard standard' related).bind fun answer => ?_
    cases answer with
    | some v => exact congruence.pure _
    | none => exact ih fun d hd => h d (List.mem_cons_of_mem _ hd)

end Hosts

end Strategy

/-- A chain of shallow strategies resolves a token as it does without nested chains. -/
theorem Chain.twin_evaluate {c : Chain} (h : ∀ d ∈ c.delegates, d.Shallow ops owner c.scope)
    (standard : host.IsStandard) (standard' : host'.IsStandard)
    (related : host.Related (Eval.Twin (Guard.Splices owner c.scope)) host') (token : Text) :
    Eval.Twin (Guard.Splices owner c.scope) (c.evaluate host token)
      (c.spliced.evaluate host' token) := by
  rw [evaluate_eq, evaluate_eq]
  have inside : Eval.Twin (Guard.SplicesInside owner c.scope token)
      (Strategy.firstAnswer c.delegates host token)
      (Strategy.firstAnswer c.spliced.delegates host' token) :=
    Strategy.twin_firstAnswer standard standard' related h
  exact inside.resolveOnce (fun _ _ hg => Guard.contains_of_framesOf hg.frames (by simp))
    fun _ _ hg fresh => hg.enter fresh

/-! ## Sessions -/

namespace ChainSettings

variable {c : ChainSettings} {scope : Scope} {first : Nat} {chain : Chain}

/-- The operators stand in the place of their chain, and any other strategy in its own. -/
theorem spliced_of_strategy {k : StrategyKind} {s : Strategy} (h : c.strategy scope k = .ok s) :
    s.spliced = if k = .stringOperations then Operator.all.map .operator else [s] := by
  rcases strategy_cases h with ⟨rfl, rfl⟩ | ⟨hk, hs⟩
  · rfl
  · rw [if_neg hk]
    rcases hs with ⟨key, rfl⟩ | ⟨key, rfl⟩ | ⟨d, rfl⟩ | rfl | rfl <;> rfl

theorem shallow_of_strategy {k : StrategyKind} {s : Strategy} (howner : scope ≠ owner)
    (houter : scope ≠ outer) (h : c.strategy scope k = .ok s) :
    s.Shallow (fun _ => True) owner outer := by
  rcases strategy_cases h with
    ⟨-, rfl⟩ | ⟨-, ⟨key, rfl⟩ | ⟨key, rfl⟩ | ⟨d, rfl⟩ | rfl | rfl⟩
  · refine .chain howner houter fun d hd => ?_
    obtain ⟨op, -, rfl⟩ := List.mem_map.1 hd
    exact Operator.follows trivial
  · exact .follows (Strategy.references_follows key) rfl
  · exact .follows (Strategy.encodeUrl_follows key) rfl
  · exact .follows (Strategy.componentTypes_follows d) rfl
  · exact .follows Strategy.logical_follows rfl
  · exact .follows Strategy.conditions_follows rfl

theorem shallow_of_strategies {kinds : List StrategyKind} : ∀ {first : Nat} {ds : List Strategy},
    owner.id < first → outer.id < first → c.strategies first kinds = .ok ds →
      ∀ d ∈ ds, d.Shallow (fun _ => True) owner outer := by
  induction kinds with
  | nil =>
    intro first ds _ _ h
    obtain rfl := Except.ok.inj h
    exact nofun
  | cons k ks ih =>
    intro first ds howner houter h
    obtain ⟨s, hs, h⟩ := Error.bind_eq_ok h
    obtain ⟨rest, hr, h⟩ := Error.bind_eq_ok h
    obtain rfl := Except.ok.inj h
    intro d hd
    rcases List.mem_cons.1 hd with rfl | hd
    · refine shallow_of_strategy ?_ ?_ hs
      · rintro rfl
        exact Nat.lt_irrefl _ howner
      · rintro rfl
        exact Nat.lt_irrefl _ houter
    · exact ih (Nat.lt_succ_of_lt howner) (Nat.lt_succ_of_lt houter) hr d hd

/-- The sessions on a built chain and on the chain without nested chains are twins in all that they
can be asked for. -/
theorem twin_run (h : c.build first = .ok chain) (howner : owner.id < first) (depth : Nat)
    (call : Call) :
    let r : Resolver := ⟨owner, chain, .standard, .standard⟩
    Eval.Twin (Guard.Splices owner chain.scope) (call.run r (r.host depth))
      (call.run r.spliced (r.spliced.host depth)) := by
  intro r
  obtain ⟨delegates, hd, h⟩ := Error.bind_eq_ok h
  obtain rfl := Except.ok.inj h
  have shallow : ∀ d ∈ delegates, d.Shallow (fun _ => True) owner ⟨first⟩ :=
    shallow_of_strategies (Nat.lt_succ_of_lt howner) (Nat.lt_succ_self first) hd
  have contains (name : Text) (g g' : Guard) (hg : Guard.Splices owner ⟨first⟩ g g') :
      g.contains ⟨owner, name⟩ = g'.contains ⟨owner, name⟩ :=
    Guard.contains_of_framesOf hg.frames (by simp)
  have congruence : Session.Congruence (Eval.Twin (Guard.Splices owner ⟨first⟩)) r r.spliced none :=
    { toCongruence := Eval.twin_congruence _
      giveUp := fun _ _ _ _ => .unended
      storedProperty := Eval.twin_storedProperty
      isInFlight := fun name => Resolver.twin_isInFlight (contains name)
      contains := fun name => .ask fun _ _ _ hg => contains name _ _ hg
      within := fun name _ _ he => he.within fun _ _ hg => hg.push name }
  refine congruence.run (fun depth related token => ?_) depth call
  exact Chain.twin_evaluate (c := r.chain) shallow (Resolver.isStandard_hostWith rfl rfl none depth)
    (Resolver.isStandard_hostWith rfl rfl none depth) related token

/-- The nested chains of a built chain are those of the operators. -/
theorem flatMap_spliced {kinds : List StrategyKind} : ∀ {first : Nat} {ds : List Strategy},
    c.strategies first kinds = .ok ds → ds.flatMap Strategy.spliced =
      (kinds.zip ds).flatMap fun (k, s) =>
        if k = .stringOperations then Operator.all.map .operator else [s] := by
  induction kinds with
  | nil =>
    intro first ds h
    obtain rfl := Except.ok.inj h
    rfl
  | cons k ks ih =>
    intro first ds h
    obtain ⟨s, hs, h⟩ := Error.bind_eq_ok h
    obtain ⟨rest, hr, h⟩ := Error.bind_eq_ok h
    obtain rfl := Except.ok.inj h
    rw [List.zip_cons_cons, List.flatMap_cons, List.flatMap_cons, ih hr, spliced_of_strategy hs]

/-- The chain without nested chains has the operators in the places of their chains. Whatever a
session on the built chain is asked for, one on this chain gives the same answer or fails with the
same error, and leaves the same stock. -/
theorem run_spliced (h : c.build first = .ok chain) (howner : owner.id < first) :
    (chain.spliced.delegates = (c.evaluators.zip chain.delegates).flatMap fun (k, s) =>
      if k = .stringOperations then Operator.all.map .operator else [s]) ∧
    ∀ (depth : Nat) (call : Call) (s : State), s.guard = .empty →
      let r : Resolver := ⟨owner, chain, .standard, .standard⟩
      (call.run r (r.host depth) s).map (fun (answer, t) => (answer, t.stock)) =
        (call.run r.spliced (r.spliced.host depth) s).map fun (answer, t) => (answer, t.stock) := by
  constructor
  · obtain ⟨delegates, hd, h⟩ := Error.bind_eq_ok h
    obtain rfl := Except.ok.inj h
    exact flatMap_spliced hd
  · intro depth call s fresh r
    have splices : Guard.Splices owner chain.scope s.guard s.guard := by
      rw [fresh]
      exact ⟨rfl, nofun⟩
    exact (twin_run h howner depth call s s rfl splices).map_eq

/-- A default that is stored by one operator, read by another one, and made part of a failure by a
third, without the chain that the usual settings nest them in. -/
theorem run_spliced_usual :
    let r : Resolver := ⟨⟨0⟩, .standard 1, .standard, .standard⟩
    let call : Call := .expand "${x:=ab}${x##a}${y:?no ${x}}".toList
    (Chain.standard 1).spliced.delegates = [.referencesBy .colon, .encodeUrlBy .colon] ++
      Operator.all.map .operator ++ [.logical, .conditions, .componentTypes .colon] ∧
    (call.run r.spliced (r.spliced.host 9) .empty).map
      (fun (answer, t) => (answer, t.stock.properties.get? ['x'])) =
        some (.error (.failure "no ab".toList), some "ab".toList) := by
  intro r call
  obtain ⟨hdelegates, hsame⟩ := run_spliced (build_usual 1)
    (show (⟨0⟩ : Scope).id < 1 from Nat.zero_lt_one)
  refine ⟨hdelegates, ?_⟩
  have hrun : (call.run r (r.host 9) .empty).map
      (fun (answer, t) => (answer, t.stock.properties.get? ['x'])) =
        some (.error (.failure "no ab".toList), some "ab".toList) := by decide +kernel
  have hstock := congrArg (Option.map fun o => (o.1, o.2.properties.get? ['x']))
    (hsame 9 call .empty rfl)
  rw [Option.map_map, Option.map_map] at hstock
  exact hstock.symm.trans hrun

end ChainSettings

end Interpolation
