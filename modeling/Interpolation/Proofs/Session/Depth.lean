import Interpolation.Proofs.Reference.Finding
import Interpolation.Proofs.Session.Law

/-!
# Outcomes at greater depths

What a session of built-in strategies ends with at some depth, it ends with at every greater one.

* `Eval.Le`: one evaluation has the outcomes of another one;
* `Host.Le` and `Reference.Finder.Le` compare hosts and finders in this way;
* `Resolver.le_propertyValue`: the value of a property, over one host and over another one;
* `Resolver.le_succ`: the next depth, by induction on the depth;
* `Resolver.le_finder` and `Resolver.le_expandAt`: greater depths.
-/

namespace Interpolation

variable {α β : Type}

/-- Every outcome of an evaluation is one of another evaluation. -/
def Eval.Le (e e' : Eval α) : Prop := ∀ s o, e s = some o → e' s = some o

namespace Eval

variable {e e' e'' : Eval α} {f f' : α → Eval β}

theorem Le.refl (e : Eval α) : e.Le e := fun _ _ h => h

theorem Le.trans (h : e.Le e') (h' : e'.Le e'') : e.Le e'' := fun s o ho => h' s o (h s o ho)

theorem exhausted_le (e : Eval α) : exhausted.Le e := nofun

theorem Le.bind (h : e.Le e') (hf : ∀ a, (f a).Le (f' a)) : (e >>= f).Le (e' >>= f') := by
  intro s o ho
  rw [run_bind] at ho ⊢
  obtain ⟨⟨r, t⟩, hr, hgo⟩ := Option.bind_eq_some_iff.1 ho
  rw [h s _ hr, Option.bind_some]
  cases r with
  | error x => exact hgo
  | ok a => exact hf a t o hgo

theorem Le.bind_right (e : Eval α) (hf : ∀ a, (f a).Le (f' a)) : (e >>= f).Le (e >>= f') :=
  (Le.refl e).bind hf

theorem Le.bind_left (h : e.Le e') (f : α → Eval β) : (e >>= f).Le (e' >>= f) :=
  h.bind fun a => .refl (f a)

/-- The outcomes of composed evaluations are composed of outcomes. -/
theorem le_congruence : Congruence @Le where
  ofExcept _ := .refl _
  bind := Le.bind
  exhausted := .refl _

theorem Le.within (balance : Balance) (f : Frame) (h : e.Le e') :
    (within balance f e).Le (within balance f e') := by
  intro s o ho
  rw [run_within] at ho ⊢
  obtain ⟨r, hr, hleave⟩ := Option.bind_eq_some_iff.1 ho
  rw [h _ _ hr, Option.bind_some]
  exact hleave

end Eval

/-! ## Hosts and finders -/

/-- A host has the outcomes of another one. -/
structure Host.Le (h h' : Host) : Prop where
  lookup : ∀ name, (h.lookup name).Le (h'.lookup name)
  isInFlight : ∀ name, h.isInFlight name = h'.isInFlight name
  nextReference : ∀ input pos,
    ((h.nextReference input).runFrom pos).Le ((h'.nextReference input).runFrom pos)

theorem Host.Le.related {h h' : Host} (hle : h.Le h') : h.Related @Eval.Le h' where
  lookup := hle.lookup
  isInFlight name := hle.isInFlight name ▸ .refl _
  nextReference := hle.nextReference

namespace Reference

/-- A finder has the outcomes of another one. -/
structure Finder.Le (x x' : Finder) : Prop where
  step : x.step.Le x'.step
  value : ∀ b, (x.value b).Le (x'.value b)
  retry : ∀ b, (x.retry b).Le (x'.retry b)

variable {x x' : Finder} {host host' : Host}

theorem Body.le_spell (h : x.Le x') (b : Body) : (b.spell x).Le (b.spell x') := by
  induction b with
  | nil => exact .refl _
  | char c rest ih => exact h.step.bind fun _ => ih.bind_left _
  | reference i rest _ ih => exact (h.value i).bind fun _ => ih.bind_left _

theorem Body.le_look (h : x.Le x') (c : Char) (b : Body) : (Body.look x c b).Le (Body.look x' c b) := by
  unfold Body.look
  split
  · exact h.retry _
  · exact h.step

theorem Body.le_attempt (h : x.Le x') (b : Body) : (b.attempt x).Le (b.attempt x') := by
  induction b with
  | nil => exact .refl _
  | char c rest ih => exact (Body.le_look h c rest).bind fun _ => ih
  | reference i rest _ ih => exact (h.value i).bind fun _ => ih

/-- Hosts that look for references by two finders. -/
theorem Finds.le_nextReference (hx : Finds host x) (hx' : Finds host' x') (h : x.Le x')
    (input : Text) (pos : Nat) :
    ((host.nextReference input).runFrom pos).Le ((host'.nextReference input).runFrom pos) := by
  by_cases hopen : ∃ u, input.from? pos = some ('$' :: '{' :: u)
  · obtain ⟨u, hpos⟩ := hopen
    obtain ⟨b, o, hread⟩ := exists_reads u
    cases o with
    | none =>
      rw [hx.unclosed hpos hread, hx'.unclosed hpos hread]
      exact (h.retry b).bind_left _
    | some r =>
      rw [hx.closed hpos hread, hx'.closed hpos hread]
      exact (h.value b).bind_left _
  · have hplain : ∀ u, input.from? pos ≠ some ('$' :: '{' :: u) := fun u hu => hopen ⟨u, hu⟩
    rw [hx.plain hplain, hx'.plain hplain]
    exact h.step.bind_left _

end Reference

/-! ## Strategies -/

theorem Plan.le_run {host host' : Host} (h : host.Le host') (token : Text) (p : Plan) :
    (p.run host token).Le (p.run host' token) := by
  cases p with
  | done | reference | construct => exact .refl _
  | operand name answer => exact (Eval.le_congruence.operandLookup h.related name).bind_left _
  | setDefault name text => exact (Eval.le_congruence.operandLookup h.related name).bind_left _

section Sessions

variable {ops : Operator → Prop} {scopes : Scope → Prop} {host host' : Host} {r : Resolver}

theorem Strategy.Assembled.le_evaluate {s : Strategy} (hs : s.Assembled ops scopes)
    (standard : host.IsStandard) (standard' : host'.IsStandard) (h : host.Le host') (token : Text) :
    (s.evaluate host token).Le (s.evaluate host' token) := by
  refine hs.induct (motive := fun s => (s.evaluate host token).Le (s.evaluate host' token))
    (fun s hs => ?_) fun scope balance delegates _ ih => ?_
  · obtain ⟨p, -, hrun⟩ := hs token
    rw [hrun host standard, hrun host' standard']
    exact p.le_run h token
  · rw [Strategy.evaluate, Strategy.evaluate, resolveOnce, resolveOnce]
    refine .bind_right _ fun entered => ?_
    cases entered with
    | true => exact .refl (pure none)
    | false => exact (Eval.le_congruence.firstAnswer ih).within balance _

namespace Resolver

/-- The outcomes of sessions are composed in the same way. -/
theorem le_congruence (r : Resolver) (beyond : Option Error) :
    Session.Congruence @Eval.Le r r beyond where
  toCongruence := Eval.le_congruence
  giveUp := .refl _
  storedProperty _ := .refl _
  isInFlight _ := .refl _
  contains _ := .refl _
  within _ _ _ h := h.within .strict _

theorem le_propertyValue (hr : r.Assembled ops scopes) (standard : host.IsStandard)
    (standard' : host'.IsStandard) (h : host.Le host') (name : Text) :
    (r.propertyValue host name).Le (r.propertyValue host' name) :=
  (r.le_congruence none).propertyValue h.related (hr.chain.le_evaluate standard standard' h) name

theorem host_lookup_succ (r : Resolver) (depth : Nat) (name : Text) :
    (r.host (depth + 1)).lookup name = r.lookup (r.host depth) name := rfl

theorem finder_succ (r : Resolver) (depth : Nat) :
    r.finder none (depth + 1) = r.finderOver (r.host depth) (r.finder none depth) := rfl

theorem le_finder_zero (r : Resolver) (x : Reference.Finder) : (r.finder none 0).Le x :=
  ⟨Eval.exhausted_le _, fun _ => Eval.exhausted_le _, fun _ => Eval.exhausted_le _⟩

/-- Hosts at two depths are compared by their finders and by what they look up. -/
theorem le_host {depth depth' : Nat} (hx : (r.finder none depth).Le (r.finder none depth'))
    (hl : ∀ name, ((r.host depth).lookup name).Le ((r.host depth').lookup name)) :
    (r.host depth).Le (r.host depth') where
  lookup := hl
  isInFlight name := by rw [host, host, hostWith_isInFlight, hostWith_isInFlight]
  nextReference := (finds_hostWith depth).le_nextReference (finds_hostWith depth') hx

theorem le_finderOver (hr : r.Assembled ops scopes) (standard : host.IsStandard)
    (standard' : host'.IsStandard) (h : host.Le host') {x x' : Reference.Finder} (hx : x.Le x') :
    (r.finderOver host x).Le (r.finderOver host' x') where
  step := .refl _
  value b := (b.le_spell hx).bind fun name =>
    (le_propertyValue hr standard standard' h name).bind_left _
  retry b := b.le_attempt hx

/-- The next depth has the outcomes of a depth. -/
theorem le_succ (hr : r.Assembled ops scopes) (depth : Nat) :
    (r.host depth).Le (r.host (depth + 1)) ∧
      (r.finder none depth).Le (r.finder none (depth + 1)) := by
  have standard := hr.isStandard none
  induction depth with
  | zero =>
    have hfinder := r.le_finder_zero (r.finder none 1)
    exact ⟨le_host hfinder fun _ => Eval.exhausted_le _, hfinder⟩
  | succ depth ih =>
    obtain ⟨hhost, hfinder⟩ := ih
    have hnext : (r.finder none (depth + 1)).Le (r.finder none (depth + 1 + 1)) := by
      rw [finder_succ, finder_succ]
      exact le_finderOver hr (standard depth) (standard (depth + 1)) hhost hfinder
    refine ⟨le_host hnext fun name => ?_, hnext⟩
    rw [host_lookup_succ, host_lookup_succ, lookup, lookup]
    exact (le_propertyValue hr (standard depth) (standard (depth + 1)) hhost name).bind_left _

theorem le_finder (hr : r.Assembled ops scopes) {depth depth' : Nat} (h : depth ≤ depth') :
    ∀ b, ((r.finder none depth).value b).Le ((r.finder none depth').value b) := by
  intro b
  induction h with
  | refl => exact .refl _
  | step _ ih => exact ih.trans ((le_succ hr _).2.value b)

/-- What a text expands to at some depth it expands to at every greater one. -/
theorem le_expandAt (hr : r.Assembled ops scopes) {depth depth' : Nat} (h : depth ≤ depth')
    (text : Text) : (r.expandAt depth text).Le (r.expandAt depth' text) := by
  induction h with
  | refl => exact .refl _
  | step _ ih => exact ih.trans (Eval.le_congruence.expand (le_succ hr _).1.related text)

end Resolver

end Sessions

end Interpolation
