import Interpolation.Proofs.Session.Rules
import Interpolation.Proofs.Strategy.Plan

/-!
# Congruences and laws of sessions

A law that frames, plans and stored properties keep is kept by everything that a session can be
asked for, at any depth. In the same way the sessions of two stores are related if their chains are.

* `Session.Law` is what such a law has to promise, for hosts about which something is known;
* `Resolver.Assembled` says that a store is made of built-in strategies and the standard registries,
  and `Resolver.IsBuilt` that its chain is built from settings, which makes it assembled;
  `Settings.isBuilt_of_store`: the stores of settings are built in this way;
* `Session.Congruence` is what a relation between two sessions has to promise;
  `Session.Congruence.related_hostWith` and `Session.Congruence.run`: hosts and calls are related;
* `Session.Law.evaluate`: the strategies assembled from the built-in ones keep the law;
* `Session.Law.obeys_hostWith` and `Session.Law.run`: so do hosts and calls.
-/

namespace Interpolation

/-- A law that is kept by what sessions are made of. The operators and scopes are those in use;
`beyond` is how resolutions end that would go too deep. -/
structure Session.Law (I : ∀ ⦃α : Type⦄, Eval α → Prop) (known : Host → Prop)
    (ops : Operator → Prop) (scopes : Scope → Prop) (beyond : Option Error) : Prop
    extends Eval.Law I where
  giveUp : ∀ {α : Type}, I (Eval.giveUp beyond : Eval α)
  storedProperty : ∀ name, I (Host.storedProperty name)
  isInFlight : ∀ (r : Resolver) name, scopes r.scope → I (r.isInFlight name)
  contains : ∀ f : Frame, scopes f.scope → I (Eval.ask fun s => s.guard.contains f)
  within : ∀ {α : Type} (balance : Balance) (f : Frame) (e : Eval α), scopes f.scope → I e →
    I (Eval.within balance f e)
  plan : ∀ {host : Host} {token : Text} {p : Plan}, known host → host.Obeys I →
    p.Proper ops token → I (p.run host token)

/-- A store that is made of built-in strategies and the standard registries. -/
structure Resolver.Assembled (r : Resolver) (ops : Operator → Prop) (scopes : Scope → Prop) :
    Prop where
  chain : r.chain.toStrategy.Assembled ops scopes
  types : r.types = .standard
  conditions : r.conditions = .standard

theorem Resolver.isStandard_hostWith {r : Resolver} (ht : r.types = .standard)
    (hk : r.conditions = .standard) (beyond : Option Error) (depth : Nat) :
    (r.hostWith beyond depth).IsStandard := by
  cases depth <;> exact ⟨rfl, by rw [← ht]; rfl, by rw [← hk]; rfl, rfl, rfl⟩

theorem Resolver.Assembled.isStandard {r : Resolver} {ops : Operator → Prop}
    {scopes : Scope → Prop} (h : r.Assembled ops scopes) (beyond : Option Error) (depth : Nat) :
    (r.hostWith beyond depth).IsStandard :=
  isStandard_hostWith h.types h.conditions beyond depth

/-! ## Chains of settings -/

namespace ChainSettings

variable {c : ChainSettings} {scope : Scope} {scopes : Scope → Prop}

theorem assembled_operators (h : scopes scope) :
    (Strategy.operators scope).Assembled (fun _ => True) scopes := by
  refine .chain _ h fun d hd => ?_
  obtain ⟨op, -, rfl⟩ := List.mem_map.1 hd
  exact .operator trivial

/-- The strategies of settings. -/
theorem strategy_cases {k : StrategyKind} {s : Strategy} (h : c.strategy scope k = .ok s) :
    (k = .stringOperations ∧ s = .operators scope) ∨ k ≠ .stringOperations ∧
      ((∃ key, s = .references key) ∨ (∃ key, s = .encodeUrl key) ∨ (∃ d, s = .componentTypes d) ∨
        s = .logical ∨ s = .conditions) := by
  have of_map {f : Delimiter → Strategy} {t : Text} (h : (Delimiter.ofText t).map f = .ok s) :
      ∃ d, s = f d := by
    cases hd : Delimiter.ofText t with
    | error e => simp [hd, Except.map] at h
    | ok d =>
      rw [hd] at h
      exact ⟨d, (Except.ok.inj h).symm⟩
  cases k with
  | stringOperations => exact .inl ⟨rfl, (Except.ok.inj h).symm⟩
  | references => exact .inr ⟨by simp, .inl ((of_map h).imp' _ fun _ h => h)⟩
  | encodeUrl => exact .inr ⟨by simp, .inr (.inl ((of_map h).imp' _ fun _ h => h))⟩
  | componentTypes => exact .inr ⟨by simp, .inr (.inr (.inl (of_map h)))⟩
  | logical => exact .inr ⟨by simp, .inr (.inr (.inr (.inl (Except.ok.inj h).symm)))⟩
  | conditions => exact .inr ⟨by simp, .inr (.inr (.inr (.inr (Except.ok.inj h).symm)))⟩

theorem assembled_of_strategy {k : StrategyKind} {s : Strategy} (hs : scopes scope)
    (h : c.strategy scope k = .ok s) : s.Assembled (fun _ => True) scopes := by
  rcases strategy_cases h with
    ⟨-, rfl⟩ | ⟨-, ⟨key, rfl⟩ | ⟨key, rfl⟩ | ⟨d, rfl⟩ | rfl | rfl⟩
  · exact assembled_operators hs
  · exact .references key
  · exact .encodeUrl key
  · exact .componentTypes d
  · exact .logical
  · exact .conditions

theorem assembled_of_strategies {kinds : List StrategyKind} :
    ∀ {first : Nat} {ds : List Strategy}, c.strategies first kinds = .ok ds →
      ∀ d ∈ ds, d.Assembled (fun _ => True) fun scope => first ≤ scope.id := by
  induction kinds with
  | nil =>
    intro first ds h
    obtain rfl := Except.ok.inj h
    exact nofun
  | cons k ks ih =>
    intro first ds h
    obtain ⟨s, hs, h⟩ := Error.bind_eq_ok h
    obtain ⟨rest, hr, h⟩ := Error.bind_eq_ok h
    obtain rfl := Except.ok.inj h
    intro d hd
    rcases List.mem_cons.1 hd with rfl | hd
    · refine assembled_of_strategy ?_ hs
      exact Nat.le_refl first
    · exact (ih hr d hd).mono fun scope h => Nat.le_of_succ_le h

/-- The chains of settings are made of built-in strategies, whose scopes are numbered from a number
on. -/
theorem assembled_of_build {first : Nat} {chain : Chain} (h : c.build first = .ok chain) :
    chain.toStrategy.Assembled (fun _ => True) fun scope => first ≤ scope.id := by
  obtain ⟨delegates, hd, h⟩ := Error.bind_eq_ok h
  obtain rfl := Except.ok.inj h
  exact .chain _ (Nat.le_refl first) fun d hm =>
    (assembled_of_strategies hd d hm).mono fun scope h => Nat.le_of_succ_le h

end ChainSettings

/-- A store whose chain is built from settings, with the standard registries. -/
structure Resolver.IsBuilt (r : Resolver) : Prop where
  chain : ∃ (c : ChainSettings) (first : Nat), c.build first = .ok r.chain
  types : r.types = .standard
  conditions : r.conditions = .standard

theorem Settings.isBuilt_of_store {s : Settings} {store : Store} (h : s.store = .ok store) :
    store.resolver.IsBuilt := by
  obtain ⟨chain, hc, h⟩ := Error.bind_eq_ok h
  obtain rfl := Except.ok.inj h
  exact ⟨⟨s.chain, 1, hc⟩, rfl, rfl⟩

theorem Store.isBuilt_standard (properties : TextMap Text) :
    (Store.standard properties).resolver.IsBuilt :=
  ⟨⟨{}, 1, ChainSettings.build_usual 1⟩, rfl, rfl⟩

theorem Resolver.IsBuilt.assembled {r : Resolver} (h : r.IsBuilt) :
    r.Assembled (fun _ => True) fun _ => True := by
  obtain ⟨⟨c, first, hc⟩, ht, hk⟩ := h
  exact ⟨(ChainSettings.assembled_of_build hc).mono fun _ _ => trivial, ht, hk⟩

/-! ## What is related by a congruence -/

/-- A congruence between the sessions of two stores. -/
structure Session.Congruence (R : ∀ ⦃α : Type⦄, Eval α → Eval α → Prop) (r r' : Resolver)
    (beyond : Option Error) : Prop extends Eval.Congruence R where
  giveUp : ∀ {α : Type}, R (Eval.giveUp beyond : Eval α) (Eval.giveUp beyond)
  storedProperty : ∀ name, R (Host.storedProperty name) (Host.storedProperty name)
  isInFlight : ∀ name, R (r.isInFlight name) (r'.isInFlight name)
  contains : ∀ name, R (Eval.ask fun s => s.guard.contains ⟨r.scope, name⟩)
    (Eval.ask fun s => s.guard.contains ⟨r'.scope, name⟩)
  within : ∀ {α : Type} (name : Text) (e e' : Eval α), R e e' →
    R (Eval.within .strict ⟨r.scope, name⟩ e) (Eval.within .strict ⟨r'.scope, name⟩ e')

/-- The answers of two chains are related if their hosts are. -/
def Session.Resolves (R : ∀ ⦃α : Type⦄, Eval α → Eval α → Prop) (r r' : Resolver)
    (beyond : Option Error) : Prop :=
  ∀ depth, (r.hostWith beyond depth).Related R (r'.hostWith beyond depth) →
    ∀ token, R (r.resolve (r.hostWith beyond depth) token)
      (r'.resolve (r'.hostWith beyond depth) token)

namespace Session.Congruence

variable {R : ∀ ⦃α : Type⦄, Eval α → Eval α → Prop} {r r' : Resolver} {beyond : Option Error}
  {host host' : Host}

theorem propertyValue (congruence : Congruence R r r' beyond) (related : host.Related R host')
    (resolve : ∀ token, R (r.resolve host token) (r'.resolve host' token)) (name : Text) :
    R (r.propertyValue host name) (r'.propertyValue host' name) := by
  refine congruence.bind (congruence.storedProperty name) fun stored => ?_
  cases stored with
  | none => exact resolve name
  | some raw =>
    refine congruence.bind (congruence.contains name) fun entered => ?_
    cases entered with
    | true => exact congruence.pure none
    | false =>
      have inside := congruence.within name _ _ (congruence.expand related raw)
      exact congruence.bind inside fun t => congruence.pure _

theorem lookup (congruence : Congruence R r r' beyond) (related : host.Related R host')
    (resolve : ∀ token, R (r.resolve host token) (r'.resolve host' token)) (name : Text) :
    R (r.lookup host name) (r'.lookup host' name) :=
  congruence.bind (congruence.propertyValue related resolve name) fun _ => congruence.pure _

/-- The hosts of two sessions are related, whatever depth they go down to. -/
theorem related_hostWith (congruence : Congruence R r r' beyond) (resolve : Resolves R r r' beyond)
    (depth : Nat) : (r.hostWith beyond depth).Related R (r'.hostWith beyond depth) := by
  induction depth with
  | zero =>
    exact ⟨fun _ => congruence.giveUp, congruence.isInFlight,
      fun _ pos => congruence.ofEval congruence.giveUp pos⟩
  | succ depth ih =>
    exact ⟨congruence.lookup ih (resolve depth ih), congruence.isInFlight,
      congruence.nextReference ih r r' (congruence.propertyValue ih (resolve depth ih))⟩

/-- So are their calls. -/
theorem run (congruence : Congruence R r r' beyond) (resolve : Resolves R r r' beyond) (depth : Nat)
    (c : Call) : R (c.run r (r.hostWith beyond depth)) (c.run r' (r'.hostWith beyond depth)) := by
  have related := congruence.related_hostWith resolve depth
  have value := congruence.propertyValue related (resolve depth related)
  cases c with
  | resolve token => exact congruence.map _ (resolve depth related token)
  | expand text => exact congruence.map _ (congruence.expand related text)
  | value name => exact congruence.map _ (value name)
  | lookup name => exact congruence.map _ (congruence.lookup related (resolve depth related) name)
  | nested input pos =>
    exact congruence.map _ (congruence.nextReference related r r' value input pos)

end Session.Congruence

/-! ## What keeps a law -/

namespace Session.Law

variable {I : ∀ ⦃α : Type⦄, Eval α → Prop} {known : Host → Prop} {ops : Operator → Prop}
  {scopes : Scope → Prop} {beyond : Option Error} {host : Host} {r : Resolver}

theorem resolveOnce (law : Law I known ops scopes beyond) {scope : Scope} (balance : Balance)
    (token : Text) {e : Eval (Option Value)} (hs : scopes scope) (h : I e) :
    I (Interpolation.resolveOnce scope balance token e) := by
  refine law.bind (law.contains ⟨scope, token⟩ hs) fun entered => ?_
  cases entered with
  | true => exact law.pure none
  | false => exact law.within balance ⟨scope, token⟩ e hs h

theorem evaluate (law : Law I known ops scopes beyond) (standard : host.IsStandard)
    (hk : known host) (obeys : host.Obeys I) {s : Strategy} (h : s.Assembled ops scopes)
    (token : Text) : I (s.evaluate host token) := by
  refine h.induct (motive := fun s => I (s.evaluate host token)) (fun s hs => ?_)
    fun scope balance delegates hs ih => ?_
  · obtain ⟨p, hp, hrun⟩ := hs token
    rw [hrun host standard]
    exact law.plan hk obeys hp
  · rw [Strategy.evaluate]
    exact law.resolveOnce balance token hs
      (law.toLaw.congruence.firstAnswer fun d hd => ⟨rfl, ih d hd⟩).2

/-- A law is a congruence of a session with itself. -/
theorem congruence (law : Law I known ops scopes beyond) (hs : scopes r.scope) :
    Congruence (Eval.Same I) r r beyond where
  toCongruence := law.toLaw.congruence
  giveUp := ⟨rfl, law.giveUp⟩
  storedProperty name := ⟨rfl, law.storedProperty name⟩
  isInFlight name := ⟨rfl, law.isInFlight r name hs⟩
  contains name := ⟨rfl, law.contains ⟨r.scope, name⟩ hs⟩
  within := by
    rintro α name e _ ⟨rfl, he⟩
    exact ⟨rfl, law.within .strict _ e hs he⟩

theorem resolve (law : Law I known ops scopes beyond) (h : r.Assembled ops scopes)
    (hk : ∀ depth, known (r.hostWith beyond depth)) : Resolves (Eval.Same I) r r beyond :=
  fun depth related token =>
    ⟨rfl, law.evaluate (h.isStandard beyond depth) (hk depth) related.obeys h.chain token⟩

/-- The host of a session keeps the law, whatever depth it goes down to. -/
theorem obeys_hostWith (law : Law I known ops scopes beyond) (h : r.Assembled ops scopes)
    (hs : scopes r.scope) (hk : ∀ depth, known (r.hostWith beyond depth)) (depth : Nat) :
    (r.hostWith beyond depth).Obeys I :=
  ((law.congruence hs).related_hostWith (law.resolve h hk) depth).obeys

/-- Every call keeps the law. -/
theorem run (law : Law I known ops scopes beyond) (h : r.Assembled ops scopes)
    (hs : scopes r.scope) (hk : ∀ depth, known (r.hostWith beyond depth)) (depth : Nat) (c : Call) :
    I (c.run r (r.hostWith beyond depth)) :=
  ((law.congruence hs).run (law.resolve h hk) depth c).2

end Session.Law

end Interpolation
