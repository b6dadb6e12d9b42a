import Interpolation.Proofs.Session.Twins

/-!
# The guard is balanced

Whatever a session is asked for, the guard is at the end what it was at the start, and frames of
other owners than the store and its chains make no difference.

* `Resolver.scopes` are the owners of the frames of a store;
* `State.Alike` relates states that differ at most in frames of other owners, and in their past;
* `Eval.Steady` evaluations have the same outcome in such states and leave the guard of each as it
  was; `Session.steady_law`: this is a law of sessions;
* `Resolver.run_balanced` draws the conclusions for calls.
-/

namespace Interpolation

/-! ## The owners of frames -/

namespace Strategy

mutual

/-- The scopes of the chains in a strategy. -/
def scopes : Strategy → List Scope
  | .chain scope _ delegates => scope :: scopesOf delegates
  | _ => []

/-- The scopes of the chains in several strategies. -/
def scopesOf : List Strategy → List Scope
  | [] => []
  | s :: rest => s.scopes ++ scopesOf rest

end

theorem scopes_subset_scopesOf {ds : List Strategy} {d : Strategy} (h : d ∈ ds) :
    d.scopes ⊆ scopesOf ds := by
  induction ds with
  | nil => simp at h
  | cons e rest ih =>
    rw [scopesOf]
    rcases List.mem_cons.1 h with rfl | h
    · exact List.subset_append_left _ _
    · exact List.Subset.trans (ih h) (List.subset_append_right _ _)

theorem Assembled.of_scopes {ops : Operator → Prop} {scopes : Scope → Prop} {s : Strategy}
    (h : s.Assembled ops scopes) : s.Assembled ops fun scope => scope ∈ s.scopes := by
  induction h with
  | operator h => exact .operator h
  | logical => exact .logical
  | conditions => exact .conditions
  | references key => exact .references key
  | encodeUrl key => exact .encodeUrl key
  | componentTypes d => exact .componentTypes d
  | chain balance h _ ih =>
    refine .chain balance (by rw [Strategy.scopes]; exact List.mem_cons_self) fun d hd => ?_
    refine (ih d hd).mono fun scope hm => ?_
    rw [Strategy.scopes]
    exact List.mem_cons_of_mem _ (scopes_subset_scopesOf hd hm)

end Strategy

/-- The owners of the frames that a store puts on the guard. -/
def Resolver.scopes (r : Resolver) : List Scope :=
  r.scope :: r.chain.toStrategy.scopes

/-- The frames of some owners. -/
def Guard.framesOf (g : Guard) (scopes : List Scope) : List Frame :=
  g.frames.filter fun f => f.scope ∈ scopes

theorem Guard.contains_of_framesOf {g g' : Guard} {scopes : List Scope} {f : Frame}
    (h : g.framesOf scopes = g'.framesOf scopes) (hf : f.scope ∈ scopes) :
    g.contains f = g'.contains f := by
  have key : ∀ g : Guard, g.contains f = (g.framesOf scopes).elem f := by
    intro g
    rw [Bool.eq_iff_iff]
    simp [Guard.contains, Guard.framesOf, hf]
  rw [key, key, h]

theorem Guard.framesOf_push {g g' : Guard} {scopes : List Scope}
    (h : g.framesOf scopes = g'.framesOf scopes) (f : Frame) :
    (g.push f).framesOf scopes = (g'.push f).framesOf scopes := by
  simp only [framesOf, push, List.filter_cons] at h ⊢
  rw [h]

/-! ## Steady evaluations -/

namespace State

/-- States that differ at most in frames of other owners, and in their past. -/
structure Alike (scopes : List Scope) (s t : State) : Prop where
  stock : s.stock = t.stock
  frames : s.guard.framesOf scopes = t.guard.framesOf scopes

end State

/-- An evaluation to which frames of other owners make no difference, and which leaves the guard as
it was. -/
def Eval.Steady (scopes : List Scope) {α : Type} (e : Eval α) : Prop :=
  ∀ s t : State, s.Alike scopes t → Balanced s t (e s) (e t)

/-- Guards with the same frames of some owners. -/
def Guard.SameFrames (scopes : List Scope) (g g' : Guard) : Prop :=
  g.framesOf scopes = g'.framesOf scopes

namespace Eval.Steady

variable {scopes : List Scope} {α β : Type} {e : Eval α}

/-- A steady evaluation is its own twin. -/
theorem iff_twin : Steady scopes e ↔ Eval.Twin (Guard.SameFrames scopes) e e :=
  ⟨fun h s t stock frames => h s t ⟨stock, frames⟩, fun h s t hst => h s t hst.stock hst.frames⟩

theorem ofExcept {r : Except Error α} (h : Error.Harmless r) : Steady scopes (Eval.ofExcept r) :=
  iff_twin.2 (.ofExcept h)

theorem bind {f : α → Eval β} (he : Steady scopes e) (hf : ∀ a, Steady scopes (f a)) :
    Steady scopes (e >>= f) :=
  iff_twin.2 ((iff_twin.1 he).bind fun a => iff_twin.1 (hf a))

end Eval.Steady

/-! ## Sessions -/

namespace Session

variable {scopes : List Scope} {ops : Operator → Prop}

/-- To be steady is a law of sessions. -/
theorem steady_law : Law (@Eval.Steady scopes) Host.IsStandard ops (· ∈ scopes) none where
  ofExcept := .ofExcept
  bind := .bind
  exhausted := fun _ _ _ => .unended
  giveUp := fun _ _ _ => .unended
  storedProperty := fun name => Eval.Steady.iff_twin.2 (Eval.twin_storedProperty name)
  isInFlight := fun _ _ hr => Eval.Steady.iff_twin.2
    (Resolver.twin_isInFlight fun _ _ h => Guard.contains_of_framesOf h hr)
  contains := fun _ hf => Eval.Steady.iff_twin.2
    (.ask fun _ _ _ h => Guard.contains_of_framesOf h hf)
  within := fun _ f _ _ he => Eval.Steady.iff_twin.2
    ((Eval.Steady.iff_twin.1 he).within fun _ _ h => Guard.framesOf_push h f)
  plan := fun _ obeys h => Eval.Steady.iff_twin.2 (Plan.twin
    ⟨fun name => Eval.Steady.iff_twin.1 (obeys.lookup name),
      fun name => Eval.Steady.iff_twin.1 (obeys.isInFlight name),
      fun input pos => Eval.Steady.iff_twin.1 (obeys.nextReference input pos)⟩ h)

end Session

namespace Resolver

variable {r : Resolver}

theorem IsBuilt.assembled_scopes (h : r.IsBuilt) :
    r.Assembled (fun _ => True) (· ∈ r.scopes) :=
  ⟨h.assembled.chain.of_scopes.mono fun _ hm => List.mem_cons_of_mem _ hm, h.types, h.conditions⟩

/-- Every call of a session of a store that is built from settings is steady. -/
theorem steady_run (h : r.IsBuilt) (depth : Nat) (call : Call) :
    Eval.Steady r.scopes (call.run r (r.host depth)) := by
  have standard := h.assembled.isStandard none
  exact Session.steady_law.run h.assembled_scopes List.mem_cons_self standard depth call

/-- When a call ends, with whatever outcome, the guard is what it was before, and the outcome is no
imbalance. Frames of other owners on the guard change neither the answer nor the effect on the
store, nor whether the call ends. -/
theorem run_balanced (h : r.IsBuilt) (depth : Nat) (call : Call) (s : State) :
    (∀ answer t, call.run r (r.host depth) s = some (answer, t) →
      t.guard = s.guard ∧ ∀ expected found, answer ≠ .error (.imbalance expected found)) ∧
    ∀ g : Guard, g.framesOf r.scopes = s.guard.framesOf r.scopes →
      (call.run r (r.host depth) { s with guard := g }).map (fun (answer, t) => (answer, t.stock)) =
        (call.run r (r.host depth) s).map fun (answer, t) => (answer, t.stock) := by
  have steady := steady_run h depth call
  constructor
  · intro answer t ht
    have hb := steady s s ⟨rfl, rfl⟩
    rw [ht] at hb
    cases hb with
    | ended harmless hs _ _ =>
      refine ⟨hs, fun expected found he => ?_⟩
      exact harmless.not_imbalance _ he trivial
  · intro g hg
    have hb := steady { s with guard := g } s ⟨rfl, hg⟩
    generalize call.run r (r.host depth) { s with guard := g } = x at hb ⊢
    generalize call.run r (r.host depth) s = y at hb ⊢
    cases hb with
    | unended => rfl
    | ended _ _ _ stock =>
      simp only [Option.map_some, stock]

/-- A session that holds a frame of somebody else has it again after a failure. -/
theorem run_balanced_failure :
    let r := (Store.standard ∅).resolver
    let s : State := { State.empty with guard := ⟨[⟨⟨9⟩, "t".toList⟩]⟩ }
    ∃ t, (Call.expand "${x:?gone}".toList).run r (r.host 9) s =
      some (.error (.failure "gone".toList), t) ∧ t.guard = s.guard := by
  intro r s
  have run : ((Call.expand "${x:?gone}".toList).run r (r.host 9) s).map (·.1) =
      some (.error (.failure "gone".toList)) := by decide +kernel
  obtain ⟨⟨answer, t⟩, ht, rfl⟩ := Option.map_eq_some_iff.1 run
  exact ⟨t, ht, ((run_balanced (Store.isBuilt_standard ∅) 9 _ s).1 _ t ht).1⟩

end Resolver

end Interpolation
