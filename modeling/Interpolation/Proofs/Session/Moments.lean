import Interpolation.Proofs.Session.Law
import Mathlib.Data.List.Chain

/-!
# The moments of a run

A state remembers the moments of the run that led to it, so that what is said of every moment of a
run can be said of the states in which it begins and ends.

* `State.Leads` relates two states if a run leads from one to the other whose moments follow one
  another in a given way; it is a preorder;
* `Eval.Moves` says the same of every outcome of an evaluation, `Eval.moves_law` makes it a law.
-/

namespace Interpolation

namespace State

variable {R : Moment → Moment → Prop} {s t u : State}

/-- A run leads from one state to another, and every moment of it follows the one before as the
relation says. -/
def Leads (R : Moment → Moment → Prop) (s t : State) : Prop :=
  ∃ run : List Moment, t.history = run ++ s.history ∧
    (run ++ [s.now]).IsChain fun later earlier => R earlier later

theorem Leads.refl (R : Moment → Moment → Prop) (s : State) : s.Leads R s :=
  ⟨[], rfl, .singleton _⟩

theorem Leads.trans (h : s.Leads R t) (h' : t.Leads R u) : s.Leads R u := by
  obtain ⟨run, hr, hc⟩ := h
  obtain ⟨run', hr', hc'⟩ := h'
  refine ⟨run' ++ run, by rw [hr', hr, List.append_assoc], ?_⟩
  -- the run to the middle state ends with the moment in which the other one begins
  have hnow : ∃ rest, run ++ [s.now] = t.now :: rest := by
    cases run with
    | nil => exact ⟨[], congrArg (· :: []) (List.cons.inj hr).1.symm⟩
    | cons m run => exact ⟨run ++ [s.now], congrArg (· :: _) (List.cons.inj hr).1.symm⟩
  obtain ⟨rest, hrest⟩ := hnow
  rw [List.append_assoc, hrest]
  rw [hrest] at hc
  exact List.isChain_split.2 ⟨hc', hc⟩

/-- What leaves properties and guard alone is no new moment. -/
theorem Leads.of_history_eq (h : t.history = s.history) : s.Leads R t :=
  ⟨[], h, .singleton _⟩

theorem Leads.next (h : t.history = t.now :: s.history) (hr : R s.now t.now) : s.Leads R t :=
  ⟨[t.now], h, .cons_cons hr (.singleton _)⟩

theorem Leads.withGuard (hr : ∀ m g, R m ⟨m.properties, g⟩) (s : State) (g : Guard) :
    s.Leads R (s.withGuard g) :=
  .next rfl (hr s.now g)

theorem Leads.imp {S : Moment → Moment → Prop} (h : s.Leads R t)
    (hs : ∀ m n, R m n → S m n) : s.Leads S t := by
  obtain ⟨run, hr, hc⟩ := h
  exact ⟨run, hr, hc.imp fun later earlier => hs earlier later⟩

/-- What moments keep is kept at every moment of a run. -/
theorem forall_of_isChain {P : Moment → Prop} (hp : ∀ m n, R m n → P m → P n) {m : Moment}
    (hm : P m) : ∀ {run : List Moment},
      ((run ++ [m]).IsChain fun later earlier => R earlier later) → ∀ n ∈ run, P n := by
  intro run
  induction run with
  | nil => exact fun _ => nofun
  | cons later run ih =>
    intro hc n hn
    cases run with
    | nil =>
      rw [List.mem_singleton.1 hn]
      exact hp m later (List.isChain_cons_cons.1 hc).1 hm
    | cons earlier run =>
      obtain ⟨hr, hc⟩ := List.isChain_cons_cons.1 hc
      have ih := ih hc
      rcases List.mem_cons.1 hn with rfl | hn
      · exact hp earlier n hr (ih earlier List.mem_cons_self)
      · exact ih n hn

end State

/-! ## Evaluations -/

/-- Every outcome of an evaluation is reached by a run whose moments follow one another in a given
way. -/
def Eval.Moves (R : Moment → Moment → Prop) {α : Type} (e : Eval α) : Prop :=
  ∀ s r t, e s = some (r, t) → s.Leads R t

namespace Eval.Moves

variable {R : Moment → Moment → Prop} {α β : Type}

theorem ask (f : State → α) : Moves R (Eval.ask f) := by
  intro s r t h
  obtain ⟨-, rfl⟩ := Eval.outcome_inj h
  exact .refl R s

theorem ofExcept (r : Except Error α) : Moves R (Eval.ofExcept r) := by
  intro s r t h
  obtain ⟨-, rfl⟩ := Eval.outcome_inj h
  exact .refl R s

theorem giveUp (beyond : Option Error) : Moves R (Eval.giveUp beyond : Eval α) := by
  intro s r t h
  obtain ⟨e, -, h⟩ := Option.map_eq_some_iff.1 h
  obtain ⟨-, rfl⟩ := Prod.mk.inj h
  exact .refl R s

/-- A change that leaves properties and guard alone. -/
theorem change {f : State → State} (h : ∀ s, (f s).history = s.history) :
    Moves R (Eval.change f) := by
  intro s r t ht
  obtain ⟨-, rfl⟩ := Eval.outcome_inj ht
  exact .of_history_eq (h s)

theorem newObject (label : Text) (content : Content) : Moves R (Eval.newObject label content) := by
  intro s r t h
  obtain ⟨-, rfl⟩ := Eval.outcome_inj h
  exact .of_history_eq rfl

theorem bind {e : Eval α} {f : α → Eval β} (he : Moves R e) (hf : ∀ a, Moves R (f a)) :
    Moves R (e >>= f) := by
  intro s r t h
  rcases Eval.run_bind_eq_some.1 h with ⟨a, u, hu, ht⟩ | ⟨x, hx, -⟩
  · exact (he s _ u hu).trans (hf a u r t ht)
  · exact he s _ t hx

/-- However a frame is returned, at most the guard changes. -/
theorem leave (hr : ∀ m g, R m ⟨m.properties, g⟩) (f : Frame) (balance : Balance) :
    Moves R (Eval.leave f balance) := by
  intro s r t h
  cases balance with
  | strict =>
    rw [Eval.leave, Eval.pop] at h
    split at h
    · obtain ⟨-, rfl⟩ := Eval.outcome_inj h
      exact .withGuard hr s _
    · obtain ⟨-, rfl⟩ := Eval.outcome_inj h
      exact .refl R s
  | lenient =>
    obtain ⟨-, rfl⟩ := Eval.outcome_inj h
    exact .withGuard hr s _

theorem attempt {e : Eval α} (he : Moves R e) : Moves R (Eval.attempt e) := by
  intro s r t h
  obtain ⟨⟨r', t'⟩, hs, h⟩ := Option.map_eq_some_iff.1 h
  obtain ⟨-, rfl⟩ := Prod.mk.inj h
  exact he s r' t' hs

theorem within (hr : ∀ m g, R m ⟨m.properties, g⟩) (balance : Balance) (f : Frame) {e : Eval α}
    (he : Moves R e) : Moves R (Eval.within balance f e) := by
  refine bind ?_ fun _ => bind he.attempt fun o => bind (leave hr f balance) fun _ => ofExcept o
  intro s r t h
  obtain ⟨-, rfl⟩ := Eval.outcome_inj h
  exact .withGuard hr s _

end Eval.Moves

theorem Eval.moves_law (R : Moment → Moment → Prop) : Eval.Law (@Eval.Moves R) where
  ofExcept := fun {_ r} _ => .ofExcept r
  bind := .bind
  exhausted := fun {_} _ _ _ h => nomatch h

end Interpolation
