import Interpolation.Proofs.Evaluation.Spec
import Interpolation.Proofs.Reference.Finding

/-!
# Answers without the chain

As long as everything that is asked for is stored, a session does not need the chain of its store: it
gives the same answer with any other chain, with one that fails or does not end as well, and goes
through the same states.

* `Resolver.Answers`: started in a state, an evaluation gives an answer from some depth on, whatever
  the chain is;
* `Resolver.Answers.bind`, `Resolver.Answers.below` and `Resolver.Answers.within`: so it does by what
  its parts do;
* `Resolver.Answers.reference_of_stored`: a reference to a stored name, by the text that is stored.
-/

namespace Interpolation

namespace Resolver

variable {owner : Scope} {least least' : Nat} {s : State} {α β : Type}

/-- Started in a state, an evaluation gives an answer in the sessions of every store whose properties
have this owner, from some depth on, in the same way whatever the chain is. Stock and guard are the
same behind. -/
def Answers (owner : Scope) (least : Nat) (s : State) (e : Resolver → Nat → Eval α) (a : α) : Prop :=
  ∃ t : State, t.stock = s.stock ∧ t.guard = s.guard ∧
    ∀ r : Resolver, r.scope = owner → ∀ depth ≥ least, e r depth s = some (.ok a, t)

/-- The value of a reference to a name. -/
def referenceTo (name : Text) (r : Resolver) (depth : Nat) : Eval Value :=
  (r.finder none depth).value (.ofText name)

namespace Answers

variable {e e' : Resolver → Nat → Eval α} {f : α → Resolver → Nat → Eval β} {a : α} {b : β}

theorem pure (a : α) : Answers owner least s (fun _ _ => Pure.pure a) a :=
  ⟨s, rfl, rfl, fun _ _ _ _ => rfl⟩

theorem bind (he : Answers owner least s e a)
    (hf : ∀ t : State, t.stock = s.stock → t.guard = s.guard → Answers owner least t (f a) b) :
    Answers owner least s (fun r depth => e r depth >>= fun a => f a r depth) b := by
  obtain ⟨t, hstock, hguard, ht⟩ := he
  obtain ⟨u, hstock', hguard', hu⟩ := hf t hstock hguard
  refine ⟨u, hstock'.trans hstock, hguard'.trans hguard, fun r hr depth hd => ?_⟩
  show (e r depth >>= fun a => f a r depth) s = _
  rw [Eval.run_bind, ht r hr depth hd]
  exact hu r hr depth hd

theorem mono (h : Answers owner least s e a) (hl : least ≤ least') : Answers owner least' s e a := by
  obtain ⟨t, hstock, hguard, ht⟩ := h
  exact ⟨t, hstock, hguard, fun r hr depth hd => ht r hr depth (Nat.le_trans hl hd)⟩

/-- What is the same at these depths gives the same answer. -/
theorem congr (he : Answers owner least s e a)
    (h : ∀ r : Resolver, r.scope = owner → ∀ depth ≥ least, e' r depth s = e r depth s) :
    Answers owner least s e' a := by
  obtain ⟨t, hstock, hguard, ht⟩ := he
  exact ⟨t, hstock, hguard, fun r hr depth hd => by rw [h r hr depth hd, ht r hr depth hd]⟩

/-- One level down it gives the same answer. -/
theorem below (h : Answers owner least s e a) :
    Answers owner (least + 1) s (fun r depth => e r (depth - 1)) a := by
  obtain ⟨t, hstock, hguard, ht⟩ := h
  exact ⟨t, hstock, hguard, fun r hr depth hd => ht r hr (depth - 1) (by omega)⟩

theorem within (f : Frame) (h : Answers owner least (s.withGuard (s.guard.push f)) e a) :
    Answers owner least s (fun r depth => Eval.within .strict f (e r depth)) a := by
  obtain ⟨t, hstock, hguard, ht⟩ := h
  exact ⟨t.withGuard s.guard, hstock, rfl, fun r hr depth hd =>
    Eval.run_within_of_restores (ht r hr depth hd) hguard⟩

/-- A name that is stored and not in flight has the value that its text expands to while it is. -/
theorem reference_of_stored {name raw t : Text} (hstored : s.properties.get? name = some raw)
    (hfresh : s.guard.contains ⟨owner, name⟩ = false) (hleast : 1 ≤ least)
    (h : Answers owner least (s.withGuard (s.guard.push ⟨owner, name⟩))
      (fun r depth => r.expandAt depth raw) t) :
    Answers owner (least + 1) s (referenceTo name) (.text t) := by
  have hvalue := (h.within ⟨owner, name⟩).below.bind
    (f := fun t _ _ => Pure.pure (Value.text t)) fun _ _ _ => .pure _
  refine hvalue.congr fun r hr depth hd => ?_
  obtain ⟨depth, rfl⟩ := Nat.exists_eq_add_of_le' (show 2 ≤ depth by omega)
  have hguard : s.guard.contains ⟨r.scope, name⟩ = false := hr ▸ hfresh
  rw [referenceTo, value_ofText, Eval.run_bind, run_propertyValue_of_stored hstored hguard,
    ← Eval.run_bind, bind_assoc, hr]
  rfl

end Answers

end Resolver

end Interpolation
