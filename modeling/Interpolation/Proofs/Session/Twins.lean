import Interpolation.Proofs.Evaluation.Spec
import Interpolation.Proofs.Session.Law

/-!
# Twins

Two evaluations are twins if they do the same, although their guards differ in a certain way. Each
of them leaves its own guard as it was.

* `Balanced` relates the outcomes of two evaluations, `Eval.Twin` evaluations whose outcomes are
  balanced;
* `Eval.Twin.bind` and `Eval.Twin.within` compose them; inside frames the guards may differ in
  another way, and by `Eval.Twin.within_left` only one of the two may enter a frame;
* `Eval.Twin.resolveOnce` and `Eval.Twin.resolveOnce_left`: so it is with chains;
* `Eval.twin_congruence`: to be twins is a congruence;
* `Plan.twin`: what the built-in strategies do is done alike by twin hosts.
-/

namespace Interpolation

/-- The outcomes from two states are the same, and each has the guard that it began with. -/
inductive Balanced {α : Type} (s t : State) :
    Option (Except Error α × State) → Option (Except Error α × State) → Prop where
  | unended : Balanced s t none none
  | ended {r : Except Error α} {s' t' : State} (harmless : Error.Harmless r)
      (hs : s'.guard = s.guard) (ht : t'.guard = t.guard) (stock : s'.stock = t'.stock) :
      Balanced s t (some (r, s')) (some (r, t'))

/-- Evaluations that do the same in states with the same stock whose guards are related. -/
def Eval.Twin (G : Guard → Guard → Prop) ⦃α : Type⦄ (e e' : Eval α) : Prop :=
  ∀ s t : State, s.stock = t.stock → G s.guard t.guard → Balanced s t (e s) (e' t)

namespace Balanced

variable {α : Type} {s t : State} {x y : Option (Except Error α × State)}

/-- The outcomes can be told apart neither by what is answered nor by the stock. -/
theorem map_eq (h : Balanced s t x y) :
    x.map (fun (r, u) => (r, u.stock)) = y.map fun (r, u) => (r, u.stock) := by
  cases h with
  | unended => rfl
  | ended _ _ _ stock => simp only [Option.map_some, stock]

end Balanced

namespace Eval

variable {G G' : Guard → Guard → Prop} {α β : Type}

namespace Twin

variable {e e' : Eval α}

theorem ofExcept {r : Except Error α} (h : Error.Harmless r) :
    Twin G (Eval.ofExcept r) (Eval.ofExcept r) :=
  fun _ _ stock _ => .ended h rfl rfl stock

/-- What is the same in both states may be asked for. -/
theorem ask {f f' : State → α} (h : ∀ s t : State, s.stock = t.stock → G s.guard t.guard →
    f s = f' t) : Twin G (Eval.ask f) (Eval.ask f') := by
  intro s t stock hg
  show Balanced s t (some (.ok (f s), s)) (some (.ok (f' t), t))
  rw [h s t stock hg]
  exact .ended (Error.harmless_ok _) rfl rfl stock

/-- What is changed in the same way in both states is the same behind. -/
theorem change {f : State → State} (hg : ∀ s, (f s).guard = s.guard)
    (h : ∀ s t : State, s.stock = t.stock → (f s).stock = (f t).stock) :
    Twin G (Eval.change f) (Eval.change f) :=
  fun s t stock _ => .ended (Error.harmless_ok _) (hg s) (hg t) (h s t stock)

theorem newObject (label : Text) (content : Content) :
    Twin G (Eval.newObject label content) (Eval.newObject label content) := by
  intro s t stock _
  simp only [State.stock, Stock.mk.injEq] at stock
  obtain ⟨hp, hr, ho⟩ := stock
  rw [Eval.newObject, Eval.newObject, ho]
  refine .ended (Error.harmless_ok _) rfl rfl ?_
  simp only [State.stock, hp, hr]

theorem mono (he : Twin G' e e') (h : ∀ g g', G g g' → G' g g') : Twin G e e' :=
  fun s t stock hg => he s t stock (h _ _ hg)

theorem bind {f f' : α → Eval β} (he : Twin G e e') (hf : ∀ a, Twin G (f a) (f' a)) :
    Twin G (e >>= f) (e' >>= f') := by
  intro s t stock hg
  rw [Eval.run_bind, Eval.run_bind]
  have h := he s t stock hg
  generalize e s = x at h ⊢
  generalize e' t = y at h ⊢
  cases h with
  | unended => exact .unended
  | @ended r s' t' harmless hs ht stock =>
    cases r with
    | error x => exact .ended (Error.harmless_error (harmless.not_imbalance x rfl)) hs ht stock
    | ok a =>
      have h := hf a s' t' stock (by rw [hs, ht]; exact hg)
      show Balanced s t (f a s') (f' a t')
      generalize f a s' = x at h ⊢
      generalize f' a t' = y at h ⊢
      cases h with
      | unended => exact .unended
      | ended harmless hs' ht' stock => exact .ended harmless (hs'.trans hs) (ht'.trans ht) stock

/-- Both enter a frame. -/
theorem within {balance balance' : Balance} {f f' : Frame} (he : Twin G' e e')
    (h : ∀ g g', G g g' → G' (g.push f) (g'.push f')) :
    Twin G (Eval.within balance f e) (Eval.within balance' f' e') := by
  intro s t stock hg
  have inside := he (s.withGuard (s.guard.push f)) (t.withGuard (t.guard.push f')) stock
    (h _ _ hg)
  generalize hx : e (s.withGuard (s.guard.push f)) = x at inside
  generalize hy : e' (t.withGuard (t.guard.push f')) = y at inside
  cases inside with
  | unended =>
    rw [run_within, run_within, hx, hy]
    exact .unended
  | ended harmless hs ht stock =>
    rw [run_within_of_restores hx hs, run_within_of_restores hy ht]
    exact .ended harmless rfl rfl stock

/-- Only one of them enters a frame. -/
theorem within_left {balance : Balance} {f : Frame} (he : Twin G' e e')
    (h : ∀ g g', G g g' → G' (g.push f) g') : Twin G (Eval.within balance f e) e' := by
  intro s t stock hg
  have inside := he (s.withGuard (s.guard.push f)) t stock (h _ _ hg)
  generalize hx : e (s.withGuard (s.guard.push f)) = x at inside
  generalize e' t = y at inside ⊢
  cases inside with
  | unended =>
    rw [run_within, hx]
    exact .unended
  | ended harmless hs ht stock =>
    rw [run_within_of_restores hx hs]
    exact .ended harmless rfl ht stock

/-- Two chains are asked for a token. Either both are resolving it or none, and if none is, both
begin to. -/
theorem resolveOnce {e e' : Eval (Option Value)} {scope scope' : Scope} {balance balance' : Balance}
    {token : Text} (he : Twin G' e e')
    (same : ∀ g g', G g g' → g.contains ⟨scope, token⟩ = g'.contains ⟨scope', token⟩)
    (enter : ∀ g g', G g g' → g.contains ⟨scope, token⟩ = false →
      G' (g.push ⟨scope, token⟩) (g'.push ⟨scope', token⟩)) :
    Twin G (Interpolation.resolveOnce scope balance token e)
      (Interpolation.resolveOnce scope' balance' token e') := by
  intro s t stock hg
  have hsame := same _ _ hg
  cases hs : s.guard.contains ⟨scope, token⟩ with
  | true =>
    rw [run_resolveOnce_of_contains hs, run_resolveOnce_of_contains (hsame.symm.trans hs)]
    exact .ended (Error.harmless_ok _) rfl rfl stock
  | false =>
    rw [run_resolveOnce_of_not_contains hs, run_resolveOnce_of_not_contains (hsame.symm.trans hs)]
    have hwithin : Twin (fun g g' => G g g' ∧ g.contains ⟨scope, token⟩ = false)
        (Eval.within balance ⟨scope, token⟩ e) (Eval.within balance' ⟨scope', token⟩ e') :=
      he.within fun g g' hg => enter g g' hg.1 hg.2
    exact hwithin s t stock ⟨hg, hs⟩

/-- Only one chain is asked for a token, which it is not resolving. -/
theorem resolveOnce_left {e e' : Eval (Option Value)} {scope : Scope} {balance : Balance}
    {token : Text} (he : Twin G' e e')
    (fresh : ∀ g g', G g g' → g.contains ⟨scope, token⟩ = false)
    (enter : ∀ g g', G g g' → G' (g.push ⟨scope, token⟩) g') :
    Twin G (Interpolation.resolveOnce scope balance token e) e' := by
  intro s t stock hg
  rw [run_resolveOnce_of_not_contains (fresh _ _ hg)]
  exact he.within_left enter s t stock hg

end Twin

/-- To be twins is a congruence. -/
theorem twin_congruence (G : Guard → Guard → Prop) : Congruence (Twin G) where
  ofExcept := .ofExcept
  bind := .bind
  exhausted := fun _ _ _ _ => .unended

theorem twin_storedProperty (name : Text) :
    Twin G (Host.storedProperty name) (Host.storedProperty name) :=
  .ask fun s t stock _ => by
    rw [show s.properties = t.properties from congrArg Stock.properties stock]

theorem twin_storeProperty (name text : Text) :
    Twin G (Host.storeProperty name text) (Host.storeProperty name text) :=
  .change (fun _ => rfl) fun s t h => by
    simp only [State.stock, Stock.mk.injEq] at h
    simp only [State.stock, State.withProperties, h]

theorem twin_storeReference (id : Text) (value : Value) :
    Twin G (Host.storeReference id value) (Host.storeReference id value) :=
  .change (fun _ => rfl) fun s t h => by
    simp only [State.stock, Stock.mk.injEq] at h
    simp only [State.stock, h]

end Eval

/-- Whether a property is in flight is the same in both sessions if their guards agree on it. -/
theorem Resolver.twin_isInFlight {G : Guard → Guard → Prop} {r r' : Resolver} {name : Text}
    (h : ∀ g g', G g g' → g.contains ⟨r.scope, name⟩ = g'.contains ⟨r'.scope, name⟩) :
    Eval.Twin G (r.isInFlight name) (r'.isInFlight name) :=
  .ask fun s t stock hg => by
    rw [show s.properties = t.properties from congrArg Stock.properties stock, h _ _ hg]

/-- A plan is carried out alike by twin hosts. -/
theorem Plan.twin {G : Guard → Guard → Prop} {ops : Operator → Prop} {host host' : Host}
    {token : Text} {p : Plan} (related : host.Related (Eval.Twin G) host')
    (h : p.Proper ops token) : Eval.Twin G (p.run host token) (p.run host' token) := by
  have congruence := Eval.twin_congruence G
  cases h with
  | done harmless => exact .ofExcept harmless
  | reference id =>
    exact .ask fun s t stock _ => by
      rw [show s.references = t.references from congrArg Stock.references stock]
  | operand _ harmless _ =>
    exact (congruence.operandLookup related _).bind fun o => .ofExcept (harmless o)
  | setDefault =>
    refine (congruence.operandLookup related _).bind fun o => ?_
    cases o with
    | set value => exact congruence.pure _
    | inFlight => exact congruence.pure _
    | unset => exact (Eval.twin_storeProperty _ _).bind fun _ => congruence.pure _
  | construct label content =>
    refine (Eval.Twin.newObject label content).bind fun o => ?_
    exact (Eval.twin_storeReference _ _).bind fun _ => congruence.pure _

end Interpolation
