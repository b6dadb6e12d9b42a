import Interpolation.Proofs.Evaluation.Rules
import Interpolation.Session

/-!
# Rules for sessions

What a session does in a state, by what the state says of the token or of the property.

* `run_resolveOnce_of_contains` and `run_resolveOnce_of_not_contains`: a chain that is asked for a
  token; `exists_run_of_resolveOnce`: where its answer is from;
* `Resolver.run_propertyValue_of_unset`, `Resolver.run_propertyValue_of_inFlight` and
  `Resolver.run_propertyValue_of_stored`: a property that is asked for its value;
* `Resolver.run_operandLookup_of_inFlight` and `Resolver.run_operandLookup`: a property that an
  operator works on.
-/

namespace Interpolation

variable {s t : State} {host : Host} {r : Resolver} {name : Text}

theorem run_resolveOnce_of_contains {scope : Scope} {balance : Balance} {token : Text}
    {e : Eval (Option Value)} (h : s.guard.contains ⟨scope, token⟩) :
    resolveOnce scope balance token e s = some (.ok none, s) := by
  rw [resolveOnce, Eval.run_ask_bind, if_pos h, Eval.run_pure]

theorem run_resolveOnce_of_not_contains {scope : Scope} {balance : Balance} {token : Text}
    {e : Eval (Option Value)} (h : s.guard.contains ⟨scope, token⟩ = false) :
    resolveOnce scope balance token e s = Eval.within balance ⟨scope, token⟩ e s := by
  rw [resolveOnce, Eval.run_ask_bind, if_neg (by simp [h])]

/-- An answer of a chain is one of its strategies, inside the frame of the token. -/
theorem exists_run_of_resolveOnce {scope : Scope} {balance : Balance} {token : Text}
    {e : Eval (Option Value)} {v : Value}
    (h : resolveOnce scope balance token e s = some (.ok (some v), t)) :
    ∃ u, e (s.withGuard (s.guard.push ⟨scope, token⟩)) = some (.ok (some v), u) ∧
      Eval.leave ⟨scope, token⟩ balance u = some (.ok (), t) := by
  cases hg : s.guard.contains ⟨scope, token⟩ with
  | true =>
    rw [run_resolveOnce_of_contains hg] at h
    cases (Eval.ok_inj h).1
  | false =>
    rw [run_resolveOnce_of_not_contains hg] at h
    exact Eval.exists_run_of_within h

namespace Resolver

/-- A property that is not stored is resolved by the chain. -/
theorem run_propertyValue_of_unset (h : s.properties.get? name = none) :
    r.propertyValue host name s = r.resolve host name s := by
  rw [propertyValue, Host.storedProperty, Eval.run_ask_bind, h]

/-- A property that is being expanded has no value. -/
theorem run_propertyValue_of_inFlight {raw : Text} (h : s.properties.get? name = some raw)
    (hg : s.guard.contains ⟨r.scope, name⟩) :
    r.propertyValue host name s = some (.ok none, s) := by
  rw [propertyValue, Host.storedProperty, Eval.run_ask_bind, h]
  show (Eval.ask _ >>= _) s = _
  rw [Eval.run_ask_bind, if_pos hg, Eval.run_pure]

/-- Any other stored property is expanded. -/
theorem run_propertyValue_of_stored {raw : Text} (h : s.properties.get? name = some raw)
    (hg : s.guard.contains ⟨r.scope, name⟩ = false) :
    r.propertyValue host name s =
      (Eval.within .strict ⟨r.scope, name⟩ (Reference.expand host raw) >>=
        fun t => pure (some (.text t))) s := by
  rw [propertyValue, Host.storedProperty, Eval.run_ask_bind, h]
  show (Eval.ask _ >>= _) s = _
  rw [Eval.run_ask_bind, if_neg (by simp [hg])]

theorem run_lookup_eq_some {a : Option Text} (h : r.lookup host name s = some (.ok a, t)) :
    ∃ v, r.propertyValue host name s = some (.ok v, t) ∧ v.bind Value.text? = a := by
  rcases Eval.run_bind_eq_some.1 h with ⟨v, u, hu, ht⟩ | ⟨x, -, hx⟩
  · obtain ⟨hv, rfl⟩ := Eval.ok_inj ht
    exact ⟨v, hu, hv⟩
  · cases hx

@[simp] theorem hostWith_isInFlight (r : Resolver) (beyond : Option Error) (depth : Nat) :
    (r.hostWith beyond depth).isInFlight = r.isInFlight := by
  cases depth <;> rfl

/-- A stored property that is being expanded is not asked for its text. -/
theorem run_operandLookup_of_inFlight (beyond : Option Error) (depth : Nat)
    (h : (s.guard.contains ⟨r.scope, name⟩ && s.properties.contains name) = true) :
    Operand.lookup (r.hostWith beyond depth).toProperties name s = some (.ok .inFlight, s) := by
  rw [Operand.lookup, hostWith_isInFlight, isInFlight, Eval.run_ask_bind, if_pos h, Eval.run_pure]

/-- Any other property is looked up. -/
theorem run_operandLookup (beyond : Option Error) (depth : Nat)
    (h : (s.guard.contains ⟨r.scope, name⟩ && s.properties.contains name) = false) :
    Operand.lookup (r.hostWith beyond depth).toProperties name s =
      ((r.hostWith beyond depth).lookup name >>= fun
        | some value => pure (.set value)
        | none => pure .unset) s := by
  rw [Operand.lookup, hostWith_isInFlight, isInFlight, Eval.run_ask_bind]
  exact congrFun (if_neg (by simp [h])) s

end Resolver

end Interpolation
