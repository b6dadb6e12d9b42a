import Interpolation.Proofs.Evaluation.Rules
import Interpolation.Proofs.Guard.Nesting

/-!
# Evaluations that end

An evaluation that may go down to a depth settles if from some depth on it has the same outcome,
and no outcome is missing.

* `State.Quiet`: nothing has been stored at any moment, and all guards have been nested;
* `Eval.Settles`: from quiet states with a guard an evaluation ends, and leaves a quiet state with
  the same guard; the answer may promise something;
* `Eval.Settles.bind`, `Eval.Settles.within` and the others compose such evaluations.
-/

namespace Interpolation

/-- At every moment up to the present one the properties have been the stored ones, and the guard
has been nested. -/
def State.Quiet (owner : Scope) (stored : TextMap Text) (s : State) : Prop :=
  ∀ m ∈ s.history, m.properties = stored ∧ m.guard.Nested owner stored

namespace State.Quiet

variable {owner : Scope} {stored : TextMap Text} {s t : State}

theorem properties_eq (h : s.Quiet owner stored) : s.properties = stored :=
  (h s.now List.mem_cons_self).1

theorem nested (h : s.Quiet owner stored) : s.guard.Nested owner stored :=
  (h s.now List.mem_cons_self).2

theorem of_history_eq (h : s.Quiet owner stored) (ht : t.history = s.history) :
    t.Quiet owner stored := by
  rw [Quiet, ht]
  exact h

theorem withGuard (h : s.Quiet owner stored) {g : Guard} (hg : g.Nested owner stored) :
    (s.withGuard g).Quiet owner stored := by
  intro m hm
  rcases List.mem_cons.1 hm with rfl | hm
  · exact ⟨h.properties_eq, hg⟩
  · exact h m hm

end State.Quiet

/-- From some depth on, an evaluation has an outcome in every quiet state with a guard. It leaves a
quiet state with the same guard, and its answer keeps a promise. -/
def Eval.Settles (owner : Scope) (stored : TextMap Text) (g : Guard) {α : Type} (post : α → Prop)
    (e : Nat → Eval α) : Prop :=
  ∀ s : State, s.Quiet owner stored → s.guard = g →
    ∃ (least : Nat) (outcome : Except Error α) (t : State),
      (∀ depth ≥ least, e depth s = some (outcome, t)) ∧ t.Quiet owner stored ∧ t.guard = g ∧
        ∀ a, outcome = .ok a → post a

namespace Eval.Settles

variable {owner : Scope} {stored : TextMap Text} {g : Guard} {α β : Type} {post : α → Prop}
  {e e' : Nat → Eval α}

theorem ofExcept {r : Except Error α} (h : ∀ a, r = .ok a → post a) :
    Settles owner stored g post fun _ => Eval.ofExcept r :=
  fun s hs hg => ⟨0, r, s, fun _ _ => rfl, hs, hg, h⟩

theorem pure {a : α} (h : post a) : Settles owner stored g post fun _ => Pure.pure a := by
  refine ofExcept (r := .ok a) fun b hb => ?_
  rwa [← Except.ok.inj hb]

theorem ask {f : State → α} (h : ∀ s, post (f s)) :
    Settles owner stored g post fun _ => Eval.ask f := by
  refine fun s hs hg => ⟨0, .ok (f s), s, fun _ _ => rfl, hs, hg, fun a ha => ?_⟩
  rw [← Except.ok.inj ha]
  exact h s

/-- A change that leaves properties and guard alone. -/
theorem change {f : State → State} (h : ∀ s, (f s).history = s.history) :
    Settles owner stored g (fun _ => True) fun _ => Eval.change f :=
  fun s hs hg => ⟨0, .ok (), f s, fun _ _ => rfl, hs.of_history_eq (h s),
    (congrArg Moment.guard (List.cons.inj (h s)).1).trans hg, fun _ _ => trivial⟩

theorem newObject (label : Text) (content : Content) :
    Settles owner stored g (fun _ => True) fun _ => Eval.newObject label content :=
  fun _ hs hg => ⟨0, _, _, fun _ _ => rfl, hs.of_history_eq rfl, hg, fun _ _ => trivial⟩

/-- What is the same in the states in question settles alike. -/
theorem congr (h : ∀ s : State, s.Quiet owner stored → s.guard = g → ∀ depth, e depth s = e' depth s)
    (he : Settles owner stored g post e') : Settles owner stored g post e := by
  intro s hs hg
  obtain ⟨least, outcome, t, ht, rest⟩ := he s hs hg
  exact ⟨least, outcome, t, fun depth hd => by rw [h s hs hg, ht depth hd], rest⟩

theorem mono {post' : α → Prop} (h : ∀ a, post a → post' a) (he : Settles owner stored g post e) :
    Settles owner stored g post' e := by
  intro s hs hg
  obtain ⟨least, outcome, t, ht, hq, htg, hp⟩ := he s hs hg
  exact ⟨least, outcome, t, ht, hq, htg, fun a ha => h a (hp a ha)⟩

/-- One evaluation after another. -/
theorem bind {post' : β → Prop} {f : α → Nat → Eval β} (he : Settles owner stored g post e)
    (hf : ∀ a, post a → Settles owner stored g post' (f a)) :
    Settles owner stored g post' fun depth => e depth >>= fun a => f a depth := by
  intro s hs hg
  obtain ⟨least, outcome, t, ht, hq, htg, hp⟩ := he s hs hg
  cases outcome with
  | error x =>
    refine ⟨least, .error x, t, fun depth hd => ?_, hq, htg, nofun⟩
    show (e depth >>= fun a => f a depth) s = _
    rw [run_bind, ht depth hd]
    rfl
  | ok a =>
    obtain ⟨least', outcome, u, hu, rest⟩ := hf a (hp a rfl) t hq htg
    refine ⟨max least least', outcome, u, fun depth hd => ?_, rest⟩
    show (e depth >>= fun a => f a depth) s = _
    rw [run_bind, ht depth (by omega)]
    exact hu depth (by omega)

/-- An evaluation inside a frame, if the guard may be nested further by it. -/
theorem within {f : Frame} (balance : Balance) (he : Settles owner stored (g.push f) post e)
    (hf : g.Nested owner stored → (g.push f).Nested owner stored) :
    Settles owner stored g post fun depth => Eval.within balance f (e depth) := by
  intro s hs hg
  have hn : g.Nested owner stored := hg ▸ hs.nested
  obtain ⟨least, outcome, t, ht, hq, htg, hp⟩ :=
    he (s.withGuard (g.push f)) (hs.withGuard (hf hn)) rfl
  refine ⟨least, outcome, t.withGuard g, fun depth hd => ?_, hq.withGuard hn, rfl, hp⟩
  rw [← hg]
  exact run_within_of_restores (by rw [hg]; exact ht depth hd) (by rw [htg, hg])

/-- What settles one level down settles. -/
theorem deeper (he : Settles owner stored g post fun depth => e (depth + 1)) :
    Settles owner stored g post e := by
  intro s hs hg
  obtain ⟨least, outcome, t, ht, rest⟩ := he s hs hg
  refine ⟨least + 1, outcome, t, fun depth hd => ?_, rest⟩
  obtain ⟨d, rfl⟩ : ∃ d, depth = d + 1 := ⟨depth - 1, by omega⟩
  exact ht d (by omega)

end Eval.Settles

end Interpolation
