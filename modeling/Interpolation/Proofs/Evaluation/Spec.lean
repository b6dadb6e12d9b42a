import Interpolation.Proofs.Evaluation.Rules
import Interpolation.Store

/-!
# Specifications of evaluations

What an evaluation is to do when it is run with a given guard and a given stock. The guard has to be
given back in any case; whether an evaluation may also run on without an end is a parameter, so that
the same rules serve to show that it ends and to say what there is when it ends.

* `Stock` is what a state holds besides the guard;
* `Eval.Spec` is a specification: an outcome and the stock that is left have to be as wanted;
* `Eval.Spec.bind`, `Eval.Spec.within` and `Eval.Spec.resolveOnce`: an evaluation meets one by what
  its parts do;
* `Strategy.spec_firstAnswer` and `Strategy.spec_firstAnswer_of_declines`: so does a list of
  strategies;
* `Store.session_eq_some`: what a session of its own does to a store.
-/

namespace Interpolation

/-- What a state holds besides the guard. -/
structure Stock where
  properties : TextMap Text
  references : TextMap Value
  objects : Nat

/-- The stock of a state. -/
def State.stock (s : State) : Stock :=
  ⟨s.properties, s.references, s.objects⟩

/-- Run with a guard and a stock, an evaluation gives the guard back, and the outcome and the stock
that is left are as wanted. There may be no outcome if that is allowed. -/
def Eval.Spec {α : Type} (unended : Prop) (g : Guard) (k : Stock) (e : Eval α)
    (post : Except Error α → Stock → Prop) : Prop :=
  ∀ s : State, s.guard = g → s.stock = k →
    (e s = none ∧ unended) ∨ ∃ r t, e s = some (r, t) ∧ t.guard = g ∧ post r t.stock

namespace Eval.Spec

variable {α β : Type} {unended : Prop} {g : Guard} {k k' : Stock} {e e' : Eval α}
variable {post post' : Except Error α → Stock → Prop} {after : Except Error β → Stock → Prop}

/-! ## From a specification to a run -/

theorem exists_run (h : Spec False g k e post) {s : State} (hg : s.guard = g) (hk : s.stock = k) :
    ∃ r t, e s = some (r, t) ∧ post r t.stock := by
  rcases h s hg hk with ⟨-, h⟩ | ⟨r, t, hr, -, ht⟩
  · exact h.elim
  · exact ⟨r, t, hr, ht⟩

theorem of_run (h : Spec unended g k e post) {s t : State} {r : Except Error α} (hg : s.guard = g)
    (hk : s.stock = k) (hr : e s = some (r, t)) : post r t.stock := by
  rcases h s hg hk with ⟨hn, -⟩ | ⟨r', t', hr', -, ht⟩
  · rw [hr] at hn
    cases hn
  · rw [hr] at hr'
    obtain ⟨rfl, rfl⟩ := Eval.outcome_inj hr'
    exact ht

/-! ## Rules -/

theorem mono (h : Spec unended g k e post) (hp : ∀ r k', post r k' → post' r k') :
    Spec unended g k e post' := by
  intro s hg hk
  rcases h s hg hk with h | ⟨r, t, hr, ht, hpost⟩
  · exact .inl h
  · exact .inr ⟨r, t, hr, ht, hp _ _ hpost⟩

/-- Evaluations that do the same with this guard and this stock meet the same specifications. -/
theorem congr (h : Spec unended g k e post)
    (he : ∀ s : State, s.guard = g → s.stock = k → e' s = e s) : Spec unended g k e' post := by
  intro s hg hk
  rw [he s hg hk]
  exact h s hg hk

theorem ofExcept {r : Except Error α} (h : post r k) :
    Spec unended g k (Eval.ofExcept r) post :=
  fun s hg hk => .inr ⟨r, s, rfl, hg, by rwa [hk]⟩

theorem pure {a : α} (h : post (.ok a) k) : Spec unended g k (Pure.pure a : Eval α) post :=
  ofExcept h

theorem exhausted (h : unended) : Spec unended g k (Eval.exhausted : Eval α) post :=
  fun _ _ _ => .inl ⟨rfl, h⟩

theorem bind {f : α → Eval β} (he : Spec unended g k e post)
    (hf : ∀ a k', post (.ok a) k' → Spec unended g k' (f a) after)
    (herror : ∀ x k', post (.error x) k' → after (.error x) k') :
    Spec unended g k (e >>= f) after := by
  intro s hg hk
  rw [run_bind]
  rcases he s hg hk with ⟨h, hu⟩ | ⟨r, t, hr, ht, hpost⟩
  · exact .inl ⟨by rw [h]; rfl, hu⟩
  · rw [hr]
    cases r with
    | error x => exact .inr ⟨_, t, rfl, ht, herror x _ hpost⟩
    | ok a => exact hf a _ hpost t ht rfl

theorem storeProperty {name text : Text} {post : Except Error Unit → Stock → Prop}
    (h : post (.ok ()) { k with properties := k.properties.insert name text }) :
    Spec unended g k (Host.storeProperty name text) post := by
  rintro s hg rfl
  exact .inr ⟨_, _, rfl, hg, h⟩

theorem within (balance : Balance) (f : Frame) (h : Spec unended (g.push f) k e post) :
    Spec unended g k (Eval.within balance f e) post := by
  rintro s rfl hk
  rcases h (s.withGuard (s.guard.push f)) rfl hk with ⟨h, hu⟩ | ⟨r, t, hr, ht, hpost⟩
  · exact .inl ⟨by rw [run_within, h]; rfl, hu⟩
  · exact .inr ⟨r, _, run_within_of_restores hr ht, rfl, hpost⟩

end Eval.Spec

/-! ## Strategies -/

namespace Strategy

variable {unended : Prop} {g : Guard} {k : Stock} {host : Host} {token : Text}
variable {s : Strategy} {rest : List Strategy}
variable {post after : Except Error (Option Value) → Stock → Prop}

/-- A token that a chain is not yet resolving is in its hands from then on. -/
theorem spec_resolveOnce {scope : Scope} {balance : Balance} {e : Eval (Option Value)}
    (hg : g.contains ⟨scope, token⟩ = false)
    (h : Eval.Spec unended (g.push ⟨scope, token⟩) k e post) :
    Eval.Spec unended g k (resolveOnce scope balance token e) post := by
  refine (h.within balance _).congr fun s hs _ => ?_
  subst hs
  rw [resolveOnce, Eval.run_ask_bind, if_neg (by simp [hg])]

/-- The first strategy answers, or the others do. -/
theorem spec_firstAnswer (h : Eval.Spec unended g k (s.evaluate host token) post)
    (hsome : ∀ v k', post (.ok (some v)) k' → after (.ok (some v)) k')
    (hnone : ∀ k', post (.ok none) k' → Eval.Spec unended g k' (firstAnswer rest host token) after)
    (herror : ∀ x k', post (.error x) k' → after (.error x) k') :
    Eval.Spec unended g k (firstAnswer (s :: rest) host token) after := by
  rw [firstAnswer]
  refine h.bind (fun a k' ha => ?_) herror
  cases a with
  | some v => exact .pure (hsome v k' ha)
  | none => exact hnone k' ha

/-- The first strategy does not leave the token to the others. -/
theorem spec_firstAnswer_head (h : Eval.Spec unended g k (s.evaluate host token) post)
    (hnone : ∀ k', ¬post (.ok none) k') :
    Eval.Spec unended g k (firstAnswer (s :: rest) host token) post :=
  spec_firstAnswer h (fun _ _ h => h) (fun k' h => absurd h (hnone k')) fun _ _ h => h

/-- Where every strategy passes, there is no answer. -/
theorem spec_firstAnswer_of_declines {ds : List Strategy}
    (h : ∀ d ∈ ds, Eval.Spec unended g k (d.evaluate host token)
      fun answer k' => answer = .ok none ∧ k' = k) :
    Eval.Spec unended g k (firstAnswer ds host token)
      fun answer k' => answer = .ok none ∧ k' = k := by
  induction ds with
  | nil =>
    rw [firstAnswer]
    exact .pure ⟨rfl, rfl⟩
  | cons d ds ih =>
    refine spec_firstAnswer (h d List.mem_cons_self) (fun _ _ h => by cases h.1) (fun k' hk' => ?_)
      fun _ _ h => by cases h.1
    obtain ⟨-, rfl⟩ := hk'
    exact ih fun e he => h e (List.mem_cons_of_mem _ he)

/-- A strategy that does not apply is passed over. -/
theorem firstAnswer_of_declines (h : s.evaluate host token = pure none) :
    firstAnswer (s :: rest) host token = firstAnswer rest host token := by
  rw [firstAnswer, h]
  rfl

theorem firstAnswer_eq_none {ds : List Strategy} (h : ∀ d ∈ ds, d.evaluate host token = pure none) :
    firstAnswer ds host token = pure none := by
  induction ds with
  | nil => rw [firstAnswer]
  | cons d ds ih =>
    rw [firstAnswer_of_declines (h d List.mem_cons_self)]
    exact ih fun e he => h e (List.mem_cons_of_mem _ he)

theorem firstAnswer_singleton : firstAnswer [s] host token = s.evaluate host token := by
  rw [firstAnswer]
  refine Eq.trans (bind_congr fun a => ?_) (bind_pure _)
  cases a with
  | some v => rfl
  | none => rw [firstAnswer]

/-- Strategies in two lists are tried one list after the other. -/
theorem firstAnswer_append (ds ds' : List Strategy) : firstAnswer (ds ++ ds') host token =
    firstAnswer ds host token >>= fun
      | some v => pure (some v)
      | none => firstAnswer ds' host token := by
  induction ds with
  | nil => rfl
  | cons d ds ih =>
    rw [List.cons_append, firstAnswer, firstAnswer, bind_assoc]
    refine bind_congr fun a => ?_
    cases a with
    | some v => rfl
    | none => exact ih

end Strategy

/-! ## Sessions of their own -/

namespace Store

/-- What a store holds besides its resolver. -/
def stock (s : Store) : Stock := ⟨s.properties, s.references, s.objects⟩

theorem after_eq_self {s : Store} {t : State} (h : t.stock = s.stock) : s.after t = s := by
  obtain ⟨hp, hr, ho⟩ := Stock.mk.inj h
  rw [after, hp, hr, ho]

/-- An evaluation that leaves the stock as it is leaves the store as it is. -/
theorem session_eq_some {α : Type} {s : Store} {e : Eval α} {r : Except Error α}
    (h : Eval.Spec False .empty s.stock e fun outcome k => outcome = r ∧ k = s.stock) :
    s.session e = some (r, s) := by
  obtain ⟨_, t, hrun, rfl, ht⟩ := h.exists_run (s := s.state .empty) rfl rfl
  rw [session, hrun, Option.map_some]
  exact congrArg (fun s => some (_, s)) (after_eq_self ht)

end Store

theorem Chain.evaluate_eq (c : Chain) (host : Host) (token : Text) :
    c.evaluate host token = resolveOnce c.scope c.balance token
      (Strategy.firstAnswer c.delegates host token) := by
  rw [Chain.evaluate, Chain.toStrategy, Strategy.evaluate]

end Interpolation
