import Interpolation.Proofs.Evaluation.Spec
import Interpolation.Proofs.Guard.Nesting

/-!
# Chains and imbalances

What a chain does with the guard when its strategies use the guard themselves: they may push and pop
frames that are no chain's, and evaluate chains, the one that they belong to among them.

* `Eval.Handles` evaluations act on the guard in no other way;
* `Guard.Conserves` says what they keep of it: a frame of a chain stays, with everything under it,
  and lenient chains leave no frames behind; `Eval.Handles.conserving` is the induction that shows
  it;
* `Eval.run_within_strict`, `Eval.run_within_imbalance` and `Eval.run_within_lenient`: how the frame
  of a chain is returned;
* `Chain.evaluate_returns`: a strict chain answers with an imbalance exactly if its strategies have
  not given the guard back, a lenient one takes its own frame from among those that they have left.
-/

namespace Interpolation

/-- How chains return their frames, by their scopes: no two chains share a scope, and other scopes
belong to no chain. -/
abbrev ChainScopes := Scope → Option Balance

/-- An evaluation that acts on the guard only by pushing and popping frames of scopes that belong to
no chain, and by evaluating chains. The error of a part may be kept or swallowed. -/
inductive Eval.Handles (chains : ChainScopes) : ∀ {α : Type}, Eval α → Prop where
  /-- It may do anything else. -/
  | alone {α : Type} {e : Eval α} (h : ∀ s r t, e s = some (r, t) → t.guard = s.guard) :
    Handles chains e
  | push {f : Frame} (h : chains f.scope = none) : Handles chains (Eval.push f)
  | pop {f : Frame} (h : chains f.scope = none) : Handles chains (Eval.pop f)
  | bind {α β : Type} {e : Eval α} {f : α → Eval β} (he : Handles chains e)
    (hf : ∀ a, Handles chains (f a)) : Handles chains (e >>= f)
  | attempt {α : Type} {e : Eval α} (h : Handles chains e) : Handles chains (Eval.attempt e)
  | chain {c : Chain} {host : Host} {token : Text} (hc : chains c.scope = some c.balance)
    (hd : ∀ d ∈ c.delegates, Handles chains (d.evaluate host token)) :
    Handles chains (c.evaluate host token)

/-! ## What is kept of the guard -/

/-- What evaluations keep of the guard that handle it with care. -/
structure Guard.Conserves (chains : ChainScopes) (before after : Guard) : Prop where
  /-- A frame of a chain stays, with all that is under it, and is not pushed once more. -/
  under : ∀ above f below, (chains f.scope).isSome → f ∉ above →
    before.frames = above ++ f :: below →
      ∃ above', after.frames = above' ++ f :: below ∧ f ∉ above'
  /-- There are the same frames of each lenient chain. -/
  lenient : ∀ scope, chains scope = some .lenient →
    after.frames.filter (fun f => f.scope = scope) =
      before.frames.filter fun f => f.scope = scope

namespace Guard.Conserves

variable {chains : ChainScopes} {g g' g'' : Guard} {f : Frame}

theorem refl (chains : ChainScopes) (g : Guard) : Conserves chains g g :=
  ⟨fun above _ _ _ hf h => ⟨above, h, hf⟩, fun _ _ => rfl⟩

theorem trans (h : Conserves chains g g') (h' : Conserves chains g' g'') :
    Conserves chains g g'' where
  under above f below hc hf hg := by
    obtain ⟨above', hg', hf'⟩ := h.under above f below hc hf hg
    exact h'.under above' f below hc hf' hg'
  lenient scope hs := (h'.lenient scope hs).trans (h.lenient scope hs)

theorem push (g : Guard) (h : chains f.scope = none) : Conserves chains g (g.push f) where
  under above f' below hc hf' hg := by
    have hne : f' ≠ f := by
      rintro rfl
      simp [h] at hc
    refine ⟨f :: above, congrArg (f :: ·) hg, ?_⟩
    simp [hne, hf']
  lenient scope hs := by
    have hne : f.scope ≠ scope := by
      rintro rfl
      simp [h] at hs
    simp [Guard.push, hne]

theorem pop {rest : List Frame} (h : chains f.scope = none) (hg : g.frames = f :: rest) :
    Conserves chains g ⟨rest⟩ where
  under above f' below hc hf' hg' := by
    rw [hg] at hg'
    cases above with
    | nil =>
      -- the frame that stays is not the one that is popped, for it belongs to a chain
      obtain rfl : f = f' := (List.cons.inj hg').1
      simp [h] at hc
    | cons top above =>
      exact ⟨above, (List.cons.inj hg').2, fun hm => hf' (List.mem_cons_of_mem _ hm)⟩
  lenient scope hs := by
    have hne : f.scope ≠ scope := by
      rintro rfl
      simp [h] at hs
    simp [hg, hne]

/-! ### Inside a frame of a chain -/

section Inside

variable (h : Conserves chains (g.push f) g') (hc : (chains f.scope).isSome) (fresh : f ∉ g.frames)

include h hc in
/-- The frame is still there, with some frames above it. -/
theorem exists_above : ∃ above, g'.frames = above ++ f :: g.frames ∧ f ∉ above :=
  h.under [] f g.frames hc List.not_mem_nil rfl

include h in
/-- The frames above it are not those of lenient chains. -/
theorem filter_above {above : List Frame} (hg' : g'.frames = above ++ f :: g.frames) {scope : Scope}
    (hs : chains scope = some .lenient) : above.filter (fun f => f.scope = scope) = [] := by
  have hfilter := h.lenient scope hs
  rw [hg', List.filter_append] at hfilter
  exact List.append_left_eq_self.1 hfilter

include h fresh in
/-- The frames under it are kept even if it is not returned. -/
theorem of_strict (hs : chains f.scope = some .strict) : Conserves chains g g' where
  under above f' below hc' hf' hg := by
    have hne : f' ≠ f := by
      rintro rfl
      exact fresh (by simp [hg])
    refine h.under (f :: above) f' below hc' (by simp [hne, hf']) ?_
    exact congrArg (f :: ·) hg
  lenient scope hs' := by
    have hne : f.scope ≠ scope := by
      rintro rfl
      rw [hs] at hs'
      cases hs'
    rw [h.lenient scope hs', Guard.push, List.filter_cons_of_neg (by simpa using hne)]

include h fresh in
/-- They are kept when it is taken out from among the others. -/
theorem of_lenient {above : List Frame} (hg' : g'.frames = above ++ f :: g.frames) :
    Conserves chains g ⟨above ++ g.frames⟩ where
  under inner f' below hc' hf' hg := by
    have hne : f' ≠ f := by
      rintro rfl
      exact fresh (by simp [hg])
    obtain ⟨above', ha, hm⟩ := h.under (f :: inner) f' below hc' (by simp [hne, hf'])
      (congrArg (f :: ·) hg)
    have hsplit : above ++ f :: inner ++ f' :: below = above' ++ f' :: below := by
      rw [← ha, hg', hg]
      simp
    obtain rfl : above ++ f :: inner = above' := List.append_cancel_right hsplit
    refine ⟨above ++ inner, by simp [hg], fun hm' => hm ?_⟩
    rcases List.mem_append.1 hm' with hm' | hm'
    · exact List.mem_append_left _ hm'
    · exact List.mem_append_right _ (List.mem_cons_of_mem _ hm')
  lenient scope hs := by
    rw [List.filter_append, h.filter_above hg' hs, List.nil_append]

end Inside

end Guard.Conserves

/-- Every outcome of an evaluation conserves the guard. -/
def Eval.Conserving (chains : ChainScopes) {α : Type} (e : Eval α) : Prop :=
  ∀ s r t, e s = some (r, t) → Guard.Conserves chains s.guard t.guard

/-! ## Returning the frame of a chain -/

namespace Eval

variable {α β : Type} {chains : ChainScopes} {e : Eval α} {f : Frame} {s t : State}
  {r : Except Error α}

/-- Without an outcome inside a frame there is none outside. -/
theorem run_within_of_none {balance : Balance} (h : e (s.withGuard (s.guard.push f)) = none) :
    within balance f e s = none := by
  rw [run_within, h, Option.bind_none]

/-- A run is described by its result and the guard that it leaves. -/
theorem exists_run {g : Guard} (h : (e s).map (fun o => (o.1, o.2.guard)) = some (r, g)) :
    ∃ t, e s = some (r, t) ∧ t.guard = g := by
  obtain ⟨⟨r', t⟩, he, ht⟩ := Option.map_eq_some_iff.1 h
  obtain ⟨hr, hg⟩ := Prod.mk.inj ht
  exact ⟨t, he.trans (congrArg (fun x => some (x, t)) hr), hg⟩

/-- Another frame on top is an imbalance. -/
theorem run_within_imbalance {top : Frame} {rest : List Frame}
    (h : e (s.withGuard (s.guard.push f)) = some (r, t)) (ht : t.guard.frames = top :: rest)
    (hne : top ≠ f) :
    within .strict f e s = some (.error (.imbalance f.token (some top.token)), t) := by
  have hpop : t.guard.pop f = .error (.imbalance f.token (some top.token)) := by
    rw [Guard.pop, ht]
    exact if_neg hne
  rw [run_within, h, Option.bind_some, run_bind, leave, pop, hpop]
  rfl

/-- The latest frame of the owner is taken out from among the frames that are left. -/
theorem run_within_lenient {above below : List Frame}
    (h : e (s.withGuard (s.guard.push f)) = some (r, t))
    (ht : t.guard.frames = above ++ f :: below) (ha : ∀ f' ∈ above, f'.scope ≠ f.scope) :
    within .lenient f e s = some (r, t.withGuard ⟨above ++ below⟩) := by
  have hrelease : t.guard.release f.scope = ⟨above ++ below⟩ := by
    rw [Guard.release, ht, List.eraseP_append_right _ (by simpa using ha),
      List.eraseP_cons_of_pos (by simp)]
  rw [run_within, h, Option.bind_some, run_bind, leave, release, change, hrelease]
  rfl

namespace Conserving

theorem bind {f : α → Eval β} (he : Conserving chains e) (hf : ∀ a, Conserving chains (f a)) :
    Conserving chains (e >>= f) := by
  intro s r t h
  rcases run_bind_eq_some.1 h with ⟨a, u, hu, ht⟩ | ⟨x, hx, -⟩
  · exact (he s _ u hu).trans (hf a u r t ht)
  · exact he s _ t hx

/-- The frames above that of a chain are left by its strategies, and not by itself. -/
theorem exists_above (he : Conserving chains e) (hc : (chains f.scope).isSome)
    (h : e (s.withGuard (s.guard.push f)) = some (r, t)) :
    ∃ above, t.guard.frames = above ++ f :: s.guard.frames ∧ f ∉ above ∧
      (chains f.scope = some .lenient → ∀ f' ∈ above, f'.scope ≠ f.scope) := by
  have hconserves : Guard.Conserves chains (s.guard.push f) t.guard := he _ r t h
  obtain ⟨above, ht, hf⟩ := hconserves.exists_above hc
  refine ⟨above, ht, hf, fun hl f' hf' => ?_⟩
  have hfilter := hconserves.filter_above ht hl
  exact of_decide_eq_false (by simpa using List.filter_eq_nil_iff.1 hfilter f' hf')

/-- However a chain returns its frame, the guard is conserved. -/
theorem within {balance : Balance} (he : Conserving chains e)
    (hc : chains f.scope = some balance) (fresh : f ∉ s.guard.frames)
    (h : Eval.within balance f e s = some (r, t)) : Guard.Conserves chains s.guard t.guard := by
  cases hin : e (s.withGuard (s.guard.push f)) with
  | none =>
    rw [run_within_of_none hin] at h
    cases h
  | some o =>
    obtain ⟨r', u⟩ := o
    have hconserves : Guard.Conserves chains (s.guard.push f) u.guard := he _ r' u hin
    obtain ⟨above, hu, hf, hl⟩ := he.exists_above (by rw [hc]; rfl) hin
    cases balance with
    | lenient =>
      rw [run_within_lenient hin hu (hl hc)] at h
      obtain ⟨-, rfl⟩ := outcome_inj h
      exact hconserves.of_lenient fresh hu
    | strict =>
      cases above with
      | nil =>
        have hg : u.guard = s.guard.push f := congrArg Guard.mk hu
        rw [run_within_of_restores hin hg] at h
        obtain ⟨-, rfl⟩ := outcome_inj h
        exact .refl chains s.guard
      | cons top rest =>
        have hne : top ≠ f := fun he => hf (he ▸ List.mem_cons_self)
        rw [run_within_imbalance hin hu hne] at h
        obtain ⟨-, rfl⟩ := outcome_inj h
        exact hconserves.of_strict fresh hc

end Conserving

end Eval

/-! ## Strategies and chains -/

variable {chains : ChainScopes} {host : Host} {token : Text}

theorem Strategy.conserving_firstAnswer {ds : List Strategy}
    (h : ∀ d ∈ ds, Eval.Conserving chains (d.evaluate host token)) :
    Eval.Conserving chains (firstAnswer ds host token) := by
  have hpure : ∀ a : Option Value, Eval.Conserving chains (pure a) := by
    intro a s r t ht
    obtain ⟨-, rfl⟩ := Eval.outcome_inj ht
    exact .refl chains s.guard
  induction ds with
  | nil =>
    rw [firstAnswer]
    exact hpure none
  | cons d ds ih =>
    rw [firstAnswer]
    refine (h d List.mem_cons_self).bind fun a => ?_
    cases a with
    | some v => exact hpure (some v)
    | none => exact ih fun d hd => h d (List.mem_cons_of_mem _ hd)

/-- What handles the guard with care conserves it. The induction is over nested runs, which may fail
anywhere. -/
theorem Eval.Handles.conserving {α : Type} {e : Eval α} (h : e.Handles chains) :
    e.Conserving chains := by
  induction h with
  | alone h =>
    intro s r t ht
    rw [h s r t ht]
    exact .refl chains s.guard
  | push h =>
    intro s r t ht
    obtain ⟨-, rfl⟩ := Eval.outcome_inj ht
    exact .push s.guard h
  | @pop f h =>
    intro s r t ht
    rw [Eval.pop, Guard.pop] at ht
    cases hg : s.guard.frames with
    | nil =>
      rw [hg] at ht
      obtain ⟨-, rfl⟩ := Eval.outcome_inj ht
      exact .refl chains s.guard
    | cons top rest =>
      rw [hg] at ht
      by_cases htop : top = f
      · subst htop
        simp only [if_true] at ht
        obtain ⟨-, rfl⟩ := Eval.outcome_inj ht
        exact .pop h hg
      · simp only [if_neg htop] at ht
        obtain ⟨-, rfl⟩ := Eval.outcome_inj ht
        exact .refl chains s.guard
  | bind _ _ he hf => exact he.bind hf
  | attempt _ ih =>
    intro s r t ht
    obtain ⟨⟨r', t'⟩, hs, ht⟩ := Option.map_eq_some_iff.1 ht
    obtain ⟨-, rfl⟩ := Prod.mk.inj ht
    exact ih s r' t' hs
  | @chain c host token hc _ ih =>
    intro s r t ht
    rw [Chain.evaluate_eq, resolveOnce, Eval.run_ask_bind] at ht
    cases hg : s.guard.contains ⟨c.scope, token⟩ with
    | true =>
      rw [hg] at ht
      obtain ⟨-, rfl⟩ := Eval.outcome_inj ht
      exact .refl chains s.guard
    | false =>
      rw [hg] at ht
      have inside := Strategy.conserving_firstAnswer ih
      exact inside.within (f := ⟨c.scope, token⟩) hc (Guard.Nested.not_mem_of_fresh hg) ht

/-- A chain evaluates a token that it is not resolving yet. If its strategies do not end it does
not. If they end, its own frame is still there, once, over the frames from before. A strict chain
gives the answer of the strategies, and the guard from before, if they have given the guard back,
and an imbalance if they have not. A lenient chain gives their answer in any case, and leaves all
frames but its own. -/
theorem Chain.evaluate_returns (c : Chain) (hc : chains c.scope = some c.balance)
    (hd : ∀ d ∈ c.delegates, (d.evaluate host token).Handles chains) (s : State)
    (fresh : s.guard.contains ⟨c.scope, token⟩ = false) :
    let frame : Frame := ⟨c.scope, token⟩
    let inside := Strategy.firstAnswer c.delegates host token (s.withGuard (s.guard.push frame))
    (inside = none → c.evaluate host token s = none) ∧
    ∀ answer t, inside = some (answer, t) →
      ∃ above, t.guard.frames = above ++ frame :: s.guard.frames ∧ frame ∉ above ∧
        (c.balance = .strict →
          (t.guard = s.guard.push frame →
            c.evaluate host token s = some (answer, t.withGuard s.guard)) ∧
          (t.guard ≠ s.guard.push frame → ∃ top, above.head? = some top ∧
            c.evaluate host token s =
              some (.error (.imbalance token (some top.token)), t))) ∧
        (c.balance = .lenient →
          c.evaluate host token s = some (answer, t.withGuard ⟨above ++ s.guard.frames⟩)) := by
  intro frame inside
  have hrun : c.evaluate host token s =
      Eval.within c.balance frame (Strategy.firstAnswer c.delegates host token) s := by
    rw [Chain.evaluate_eq, resolveOnce, Eval.run_ask_bind, fresh]
    rfl
  have conserving : Eval.Conserving chains (Strategy.firstAnswer c.delegates host token) :=
    Strategy.conserving_firstAnswer fun d hm => (hd d hm).conserving
  rw [hrun]
  refine ⟨fun hin => Eval.run_within_of_none hin, fun answer t hin => ?_⟩
  obtain ⟨above, ht, hframe, hothers⟩ :=
    conserving.exists_above (f := frame) (by rw [hc]; rfl) hin
  refine ⟨above, ht, hframe, fun hb => ⟨fun hg => ?_, fun hg => ?_⟩, fun hb => ?_⟩
  · exact Eval.run_within_of_restores hin hg
  · cases above with
    | nil => exact absurd (congrArg Guard.mk ht) hg
    | cons top rest =>
      have hne : top ≠ frame := fun he => hframe (he ▸ List.mem_cons_self)
      rw [hb]
      exact ⟨top, rfl, Eval.run_within_imbalance hin ht hne⟩
  · rw [hb] at hc ⊢
    exact Eval.run_within_lenient hin ht (hothers hc)

/-! ### A chain in its own hands -/

/-- A strategy that evaluates a longer token by a chain, swallows the error that this may end with,
and leaves a frame behind that is no chain's. -/
def Strategy.meddling (inner : Chain) : Strategy :=
  .custom fun host token => do
    let _ ← Eval.attempt (inner.evaluate host ('x' :: token))
    Eval.push ⟨⟨9⟩, token⟩
    pure (some (.text token))

/-- A chain with this strategy, which evaluates the chain itself, down to a depth. -/
def Chain.meddled (balance : Balance) : Nat → Chain
  | 0 => ⟨⟨1⟩, balance, []⟩
  | depth + 1 => ⟨⟨1⟩, balance, [.meddling (meddled balance depth)]⟩

/-- The scope of this chain. -/
def ChainScopes.single (balance : Balance) : ChainScopes := fun scope =>
  if scope = ⟨1⟩ then some balance else none

theorem Chain.meddled_owns (balance : Balance) (depth : Nat) :
    ChainScopes.single balance (meddled balance depth).scope =
      some (meddled balance depth).balance := by
  cases depth <;> rfl

theorem Chain.handles_meddled (balance : Balance) (host : Host) (depth : Nat) :
    ∀ token, ∀ d ∈ (meddled balance depth).delegates,
      (d.evaluate host token).Handles (.single balance) := by
  induction depth with
  | zero => exact fun _ => nofun
  | succ depth ih =>
    intro token d hd
    obtain rfl : d = .meddling (meddled balance depth) := List.mem_singleton.1 hd
    have inner : Eval.Handles (.single balance)
        ((meddled balance depth).evaluate host ('x' :: token)) :=
      .chain (meddled_owns balance depth) (ih _)
    rw [Strategy.meddling, Strategy.evaluate]
    refine inner.attempt.bind fun _ => .bind (.push rfl) fun _ => .alone fun s r t h => ?_
    obtain ⟨-, rfl⟩ := Eval.outcome_inj h
    rfl

/-- The chain in its own hands, while it is already resolving another token: if it is strict, the
inner run ends with an imbalance, which is swallowed, and so does the outer one; if it is lenient,
both end well and the frames of others stay. Without strategies the strict chain gives the guard
back. -/
theorem Chain.evaluate_returns_meddled :
    let s : State := { State.empty with guard := ⟨[⟨⟨1⟩, ['u']⟩]⟩ }
    (∃ t, (meddled .strict 2).evaluate .plain ['t'] s =
      some (.error (.imbalance ['t'] (some ['t'])), t)) ∧
    (∃ t, (meddled .lenient 2).evaluate .plain ['t'] s = some (.ok (some (.text ['t'])), t) ∧
      t.guard.frames = [⟨⟨9⟩, ['t']⟩, ⟨⟨9⟩, ['x', 't']⟩, ⟨⟨1⟩, ['u']⟩]) ∧
    ∃ t, (meddled .strict 0).evaluate .plain ['t'] s = some (.ok none, t) ∧ t.guard = s.guard := by
  intro s
  have returns (balance : Balance) (depth : Nat) := evaluate_returns (meddled balance depth)
    (meddled_owns balance depth) (handles_meddled balance .plain depth ['t']) s
  refine ⟨?_, ?_, ?_⟩
  · -- the inner run has left its own frame and that of its strategy
    obtain ⟨t, hin, ht⟩ := Eval.exists_run
      (e := Strategy.firstAnswer (meddled .strict 2).delegates .plain ['t'])
      (s := s.withGuard (s.guard.push ⟨⟨1⟩, ['t']⟩)) (r := .ok (some (.text ['t'])))
      (g := ⟨[⟨⟨9⟩, ['t']⟩, ⟨⟨9⟩, ['x', 't']⟩, ⟨⟨1⟩, ['x', 't']⟩, ⟨⟨1⟩, ['t']⟩, ⟨⟨1⟩, ['u']⟩]⟩) rfl
    obtain ⟨above, habove, -, strict, -⟩ := (returns .strict 2 (by decide)).2 _ t hin
    rw [ht] at habove
    obtain rfl : above = [⟨⟨9⟩, ['t']⟩, ⟨⟨9⟩, ['x', 't']⟩, ⟨⟨1⟩, ['x', 't']⟩] :=
      List.append_cancel_right habove.symm
    obtain ⟨top, htop, hrun⟩ := (strict rfl).2 (by rw [ht]; decide)
    obtain rfl := Option.some.inj htop
    exact ⟨t, hrun⟩
  · obtain ⟨t, hin, ht⟩ := Eval.exists_run
      (e := Strategy.firstAnswer (meddled .lenient 2).delegates .plain ['t'])
      (s := s.withGuard (s.guard.push ⟨⟨1⟩, ['t']⟩)) (r := .ok (some (.text ['t'])))
      (g := ⟨[⟨⟨9⟩, ['t']⟩, ⟨⟨9⟩, ['x', 't']⟩, ⟨⟨1⟩, ['t']⟩, ⟨⟨1⟩, ['u']⟩]⟩) rfl
    obtain ⟨above, habove, -, -, lenient⟩ := (returns .lenient 2 (by decide)).2 _ t hin
    rw [ht] at habove
    obtain rfl : above = [⟨⟨9⟩, ['t']⟩, ⟨⟨9⟩, ['x', 't']⟩] :=
      List.append_cancel_right habove.symm
    exact ⟨_, lenient rfl, rfl⟩
  · obtain ⟨t, hin, ht⟩ := Eval.exists_run
      (e := Strategy.firstAnswer (meddled .strict 0).delegates .plain ['t'])
      (s := s.withGuard (s.guard.push ⟨⟨1⟩, ['t']⟩)) (r := .ok none)
      (g := s.guard.push ⟨⟨1⟩, ['t']⟩) rfl
    obtain ⟨above, -, -, strict, -⟩ := (returns .strict 0 (by decide)).2 _ t hin
    exact ⟨_, (strict rfl).1 ht, rfl⟩

end Interpolation
