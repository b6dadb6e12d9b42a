import Interpolation.Reference

/-!
# Rules for evaluations

What an evaluation does to a state, composed from what its parts do.

* `Eval.run_bind`: one evaluation after another;
* `Eval.run_within`: an evaluation inside a frame, and `Eval.run_within_of_restores` where it gives
  the guard back as it has found it; `Eval.exists_run_of_within`: where its answer is from;
* `Scan.runFrom_bind` and its companions: a scan run from a position is an evaluation made of the
  same parts.
-/

namespace Interpolation

variable {α β : Type}

/-- Outcomes can be compared. -/
instance decidableEqOutcome [DecidableEq α] : DecidableEq (Except Error α)
  | .ok a, .ok b => decidable_of_iff (a = b) ⟨congrArg _, Except.ok.inj⟩
  | .error e, .error e' => decidable_of_iff (e = e') ⟨congrArg _, Except.error.inj⟩
  | .ok _, .error _ => isFalse nofun
  | .error _, .ok _ => isFalse nofun

namespace Eval

/-- How an evaluation goes on behind the outcome of another one. -/
def goOn (f : α → Eval β) : Except Error α × State → Option (Except Error β × State)
  | (.ok a, s) => f a s
  | (.error e, s) => some (.error e, s)

theorem run_bind (e : Eval α) (f : α → Eval β) (s : State) :
    (e >>= f) s = (e s).bind (goOn f) := by
  show (e s).bind _ = (e s).bind _
  congr 1
  funext ⟨r, t⟩
  cases r <;> rfl

@[simp] theorem run_pure (a : α) (s : State) : (pure a : Eval α) s = some (.ok a, s) := rfl

@[simp] theorem run_ofExcept (r : Except Error α) (s : State) :
    ofExcept r s = some (r, s) := rfl

theorem run_map (f : α → β) (e : Eval α) (s : State) :
    (f <$> e) s = (e s).map fun (r, t) => (r.map f, t) := by
  show (e s).bind _ = _
  cases e s with
  | none => rfl
  | some o =>
    obtain ⟨r, t⟩ := o
    cases r <;> rfl

/-- An outcome of one evaluation after another. -/
theorem run_bind_eq_some {e : Eval α} {f : α → Eval β} {s t : State} {r : Except Error β} :
    (e >>= f) s = some (r, t) ↔
      (∃ a u, e s = some (.ok a, u) ∧ f a u = some (r, t)) ∨
      (∃ x, e s = some (.error x, t) ∧ r = .error x) := by
  rw [run_bind]
  cases e s with
  | none => simp
  | some o =>
    obtain ⟨x | a, u⟩ := o
    · simp only [Option.bind_some, goOn, Option.some.injEq, Prod.mk.injEq, reduceCtorEq, false_and,
        exists_false, false_or, Except.error.injEq]
      exact ⟨fun ⟨hr, ht⟩ => ⟨x, ⟨rfl, ht⟩, hr.symm⟩, fun ⟨_, ⟨rfl, ht⟩, hr⟩ => ⟨hr.symm, ht⟩⟩
    · simp only [Option.bind_some, goOn, Option.some.injEq, Prod.mk.injEq, reduceCtorEq, false_and,
        exists_false, or_false, Except.ok.injEq]
      exact ⟨fun h => ⟨a, u, ⟨rfl, rfl⟩, h⟩, fun ⟨_, _, ⟨rfl, rfl⟩, h⟩ => h⟩

/-- The outcome of a run is one only. -/
theorem outcome_inj {ρ : Type} {r r' : ρ} {s t : State} (h : some (r, s) = some (r', t)) :
    r = r' ∧ s = t :=
  Prod.mk.inj (Option.some.inj h)

theorem ok_inj {a b : α} {s t : State}
    (h : some ((.ok a : Except Error α), s) = some (.ok b, t)) : a = b ∧ s = t := by
  obtain ⟨ha, hs⟩ := outcome_inj h
  exact ⟨Except.ok.inj ha, hs⟩

/-- Evaluations that answer at once are the same only if their answers are. -/
theorem pure_inj {a b : α} (h : (pure a : Eval α) = pure b) : a = b := by
  have hrun : (pure a : Eval α) .empty = (pure b : Eval α) .empty := by rw [h]
  exact (ok_inj hrun).1

theorem run_ask_bind (f : State → α) (k : α → Eval β) (s : State) :
    (ask f >>= k) s = k (f s) s := rfl

theorem ofExcept_ok (a : α) : ofExcept (.ok a) = pure a := rfl

/-! ## Frames -/

/-- The outcome of an evaluation inside a frame, which is returned at the end. -/
theorem run_within (balance : Balance) (f : Frame) (e : Eval α) (s : State) :
    within balance f e s = (e (s.withGuard (s.guard.push f))).bind fun o =>
      (leave f balance >>= fun _ => ofExcept o.1) o.2 := by
  have hp : push f s = some (.ok (), s.withGuard (s.guard.push f)) := rfl
  rw [within, run_bind, hp, Option.bind_some, goOn, run_bind, attempt, Option.bind_map]
  rfl

/-- A frame that is on top is returned. -/
theorem run_leave (f : Frame) (balance : Balance) {g : Guard} {t : State}
    (h : t.guard = g.push f) : leave f balance t = some (.ok (), t.withGuard g) := by
  cases balance with
  | strict =>
    rw [leave, pop, h, Guard.pop_push]
  | lenient =>
    rw [leave, release, change, h, Guard.release_push]

/-- An evaluation that gives the guard back with the frame on top leaves it as it was in front. -/
theorem run_within_of_restores {balance : Balance} {f : Frame} {e : Eval α} {s t : State}
    {r : Except Error α} (h : e (s.withGuard (s.guard.push f)) = some (r, t))
    (hg : t.guard = s.guard.push f) : within balance f e s = some (r, t.withGuard s.guard) := by
  rw [run_within, h, Option.bind_some, run_bind, run_leave f balance hg]
  rfl

/-- Where an evaluation inside a frame answers, it has answered before the frame was left. -/
theorem exists_run_of_within {balance : Balance} {f : Frame} {e : Eval α} {s t : State} {a : α}
    (h : within balance f e s = some (.ok a, t)) :
    ∃ u, e (s.withGuard (s.guard.push f)) = some (.ok a, u) ∧
      leave f balance u = some (.ok (), t) := by
  rw [run_within] at h
  obtain ⟨⟨r, u⟩, hu, h⟩ := Option.bind_eq_some_iff.1 h
  rcases run_bind_eq_some.1 h with ⟨_, v, hv, ht⟩ | ⟨x, -, hx⟩
  · obtain ⟨rfl, rfl⟩ := outcome_inj ht
    exact ⟨u, hu, hv⟩
  · cases hx

end Eval

namespace Scan

variable (x : Scan α) (f : α → Scan β) (pos : Nat)

/-- How a scan goes on behind the outcome of another one. -/
def goOn (f : α → Scan β) :
    (Except Error α × Nat) × State → Option ((Except Error β × Nat) × State)
  | ((.ok a, pos), s) => f a pos s
  | ((.error e, pos), s) => some ((.error e, pos), s)

theorem run_bind (s : State) : (x >>= f) pos s = (x pos s).bind (goOn f) := by
  show (x pos s).bind _ = (x pos s).bind _
  congr 1
  funext ⟨⟨r, pos⟩, t⟩
  cases r <;> rfl

theorem runFrom_bind :
    (x >>= f).runFrom pos = x.runFrom pos >>= fun a => (f a.1).runFrom a.2 := by
  funext s
  rw [Eval.run_bind]
  show ((x pos s).bind _).map _ = ((x pos s).map _).bind _
  rw [Option.map_bind, Option.bind_map]
  congr 1
  funext ⟨⟨r, pos⟩, t⟩
  cases r <;> rfl

@[simp] theorem runFrom_pure (a : α) : (pure a : Scan α).runFrom pos = pure (a, pos) := rfl

@[simp] theorem runFrom_exhausted : (exhausted : Scan α).runFrom pos = Eval.exhausted := rfl

theorem runFrom_ofEval (e : Eval α) :
    (ofEval e).runFrom pos = e >>= fun a => pure (a, pos) := by
  funext s
  rw [Eval.run_bind]
  show ((e s).map _).map _ = _
  cases e s with
  | none => rfl
  | some o =>
    obtain ⟨r, t⟩ := o
    cases r <;> rfl

@[simp] theorem runFrom_position_bind (f : Nat → Scan β) :
    (position >>= f).runFrom pos = (f pos).runFrom pos := rfl

@[simp] theorem runFrom_moveTo_bind (stop : Nat) (f : Unit → Scan β) :
    (moveTo stop >>= f).runFrom pos = (f ()).runFrom stop := rfl

@[simp] theorem runFrom_advance_bind (bytes : Nat) (f : Unit → Scan β) :
    (advance bytes >>= f).runFrom pos = (f ()).runFrom (pos + bytes) := rfl

end Scan

end Interpolation
