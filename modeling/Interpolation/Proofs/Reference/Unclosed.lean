import Interpolation.Proofs.Reference.Scanning
import Interpolation.Proofs.Session.Balance

/-!
# Openers without a close

An opening sign that is never closed stands for itself. Only the position comes back from the attempt
to read a name behind it: the references that the attempt has met have been evaluated by then.

* `Reference.Body.visits`: the references that are met on the way to the end of the text; behind a
  further opening sign they are met twice;
* `Reference.Finds.expand_opening` and `Reference.Finds.expand_closed`: the expansion of a text that
  begins with such a sign, and of a reference alone;
* `Resolver.le_visitAll_of_attempt` and `Resolver.le_attempt_of_visitAll`: an attempt evaluates the
  references that are met, at depths that make no difference in the end;
* `Resolver.expand_unclosed`: the text behind the sign is expanded after these references, and is
  expanded as if there was no sign if they change nothing.
-/

namespace Interpolation

namespace Reference

variable {host : Host} {x : Finder} {t u r : Text} {b : Body} {o : Option Text}

/-! ## Signs and references in front -/

/-- Behind an opening sign without a close a text expands as it does alone. -/
theorem Finds.expand_opening (h : Finds host x) (hread : Reads t b none) :
    expand host ('$' :: '{' :: t) = x.retry b >>= fun _ => x.step >>= fun _ =>
      expand host t >>= fun out => pure ('$' :: '{' :: out) := by
  obtain ⟨ss, hs⟩ := exists_scans t
  have hopening : Scans ('$' :: '{' :: t) (.opener b :: .char '{' :: ss) :=
    .opener hread (.char (by simp) (by simp) hs)
  rw [h.expand_of_scans hopening, h.expand_of_scans hs]
  simp only [Segment.evaluateAll, Segment.evaluate, bind_assoc, pure_bind]
  rfl

/-- A reference alone expands to its value. -/
theorem Finds.expand_closed (h : Finds host x) (hread : Reads u b (some r)) :
    expand host b.text = x.value b >>= fun v => pure v.render := by
  have halone : Scans b.text [.reference b] := .reference (hread.append []) .ended
  rw [h.expand_of_scans halone]
  simp only [Segment.evaluateAll, Segment.evaluate, bind_assoc, pure_bind, List.append_nil]

/-! ## References that are met -/

namespace Body

/-- The references that are met on the way to the end of a text, in order. Those behind an opening
sign without a close are met by the attempt to read a name there, and then again. -/
def visits : Body → List Body
  | nil => []
  | char '$' (char '{' rest) => rest.visits ++ rest.visits
  | char _ rest => rest.visits
  | reference inner rest => inner :: rest.visits

/-- Evaluates references one after another. -/
def visitAll (x : Finder) : List Body → Eval Unit
  | [] => pure ()
  | b :: bs => do
    let _ ← x.value b
    visitAll x bs

theorem visitAll_append (x : Finder) (bs bs' : List Body) :
    visitAll x (bs ++ bs') = visitAll x bs >>= fun _ => visitAll x bs' := by
  induction bs with
  | nil => rw [visitAll, pure_bind, List.nil_append]
  | cons b bs ih => rw [List.cons_append, visitAll, visitAll, ih, bind_assoc]

theorem le_visitAll {x x' : Finder} (h : ∀ b, (x.value b).Le (x'.value b)) (bs : List Body) :
    (visitAll x bs).Le (visitAll x' bs) := by
  induction bs with
  | nil => exact .refl _
  | cons b bs ih => exact (h b).bind fun _ => ih

theorem mem_visits_char {i b : Body} (c : Char) : i ∈ (char c b).visits ↔ i ∈ b.visits := by
  have hchar : ∀ {c : Char} {b : Body}, (∀ rest, c = '$' → b = char '{' rest → False) →
      (char c b).visits = b.visits := fun h => by rw [visits]; exact h
  by_cases h : ∃ rest, c = '$' ∧ b = char '{' rest
  · obtain ⟨rest, rfl, rfl⟩ := h
    have hbrace : (char '{' rest).visits = rest.visits := hchar fun _ h _ => absurd h (by decide)
    rw [visits, hbrace, List.mem_append, or_self]
  · rw [hchar fun rest hc hb => h ⟨rest, hc, hb⟩]

/-- Each of them is closed. -/
theorem exists_reads_of_mem_visits (h : Reads u b o) :
    ∀ i ∈ b.visits, ∃ v r, Reads v i (some r) := by
  induction h with
  | ended => exact fun i hi => absurd hi (by simp [visits])
  | close => exact fun i hi => absurd hi (by simp [visits])
  | reference hinner _ _ ih =>
    intro j hj
    rcases List.mem_cons.1 hj with rfl | hj
    · exact ⟨_, _, hinner⟩
    · exact ih j hj
  | unclosed _ _ _ ih => exact fun j hj => ih j ((mem_visits_char _).1 hj)
  | char _ _ _ ih => exact fun j hj => ih j ((mem_visits_char _).1 hj)

end Body

end Reference

namespace Resolver

open Reference

variable {r : Resolver} {ops : Operator → Prop} {scopes : Scope → Prop} {t : Text} {b : Body}

/-! ## Attempts -/

/-- An attempt does nothing else than evaluate the references that are met. -/
theorem le_visitAll_of_attempt (hr : r.Assembled ops scopes) (b : Body) : ∀ depth,
    (b.attempt (r.finder none depth)).Le (Body.visitAll (r.finder none depth) b.visits) := by
  fun_induction Body.visits b with
  | case1 => exact fun _ => .refl _
  | case2 rest ih =>
    intro depth
    cases depth with
    | zero => exact Eval.exhausted_le _
    | succ depth =>
      rw [Body.visitAll_append]
      have hretry := (ih depth).trans (Body.le_visitAll (le_finder hr (Nat.le_succ depth)) rest.visits)
      exact hretry.bind fun _ => ih (depth + 1)
  | case3 c rest hc ih =>
    intro depth
    rw [Body.attempt, Body.look_eq_step hc]
    cases depth with
    | zero => exact Eval.exhausted_le _
    | succ depth => exact ih (depth + 1)
  | case4 i rest ih => exact fun depth => .bind_right _ fun _ => ih depth

/-- Deep enough, the references that are met are evaluated by the attempt. The depth is enough for the
opening signs in the text. -/
theorem le_attempt_of_visitAll (hr : r.Assembled ops scopes) (b : Body) : ∀ depth more,
    b.source.length < more →
      (Body.visitAll (r.finder none depth) b.visits).Le (b.attempt (r.finder none (depth + more))) := by
  fun_induction Body.visits b with
  | case1 => exact fun _ _ _ => .refl _
  | case2 rest ih =>
    intro depth more hmore
    obtain ⟨more, rfl⟩ := Nat.exists_eq_add_one_of_ne_zero (Nat.ne_of_gt (Nat.zero_lt_of_lt hmore))
    simp only [Body.source, List.length_cons] at hmore
    rw [Body.visitAll_append]
    exact (ih depth more (by omega)).bind fun _ => ih depth (more + 1) (by omega)
  | case3 c rest hc ih =>
    intro depth more hmore
    obtain ⟨more, rfl⟩ := Nat.exists_eq_add_one_of_ne_zero (Nat.ne_of_gt (Nat.zero_lt_of_lt hmore))
    simp only [Body.source, List.length_cons] at hmore
    rw [Body.attempt, Body.look_eq_step hc]
    exact ih depth (more + 1) (by omega)
  | case4 i rest ih =>
    intro depth more hmore
    simp only [Body.source, List.length_cons, List.length_append] at hmore
    exact (le_finder hr (Nat.le_add_right depth more) i).bind fun _ => ih depth more (by omega)

/-! ## Texts behind an opening sign -/

/-- Expands texts one after another, and drops what they expand to. -/
def expandAll (r : Resolver) (depth : Nat) : List Text → Eval Unit
  | [] => pure ()
  | t :: ts => do
    let _ ← r.expandAt depth t
    r.expandAll depth ts

/-- Expands texts, and then a last one behind an opening sign. -/
def expandBehind (r : Resolver) (depth : Nat) (ts : List Text) (t : Text) : Eval Text := do
  r.expandAll depth ts
  let out ← r.expandAt depth t
  pure ('$' :: '{' :: out)

theorem expandAll_eq_visitAll (depth : Nat) {bs : List Body}
    (h : ∀ i ∈ bs, ∃ v r, Reads v i (some r)) :
    r.expandAll depth (bs.map Body.text) = Body.visitAll (r.finder none depth) bs := by
  induction bs with
  | nil => rfl
  | cons i bs ih =>
    obtain ⟨v, w, hread⟩ := h i List.mem_cons_self
    have hvalue : r.expandAt depth i.text = (r.finder none depth).value i >>= fun v => pure v.render :=
      (finds_hostWith depth).expand_closed hread
    rw [List.map_cons, expandAll, hvalue, bind_assoc, ih fun j hj => h j (List.mem_cons_of_mem _ hj)]
    simp only [pure_bind]
    rfl

theorem expandAt_unclosed (hread : Reads t b none) (depth : Nat) :
    r.expandAt (depth + 1) ('$' :: '{' :: t) = b.attempt (r.finder none depth) >>= fun _ =>
      r.expandAt (depth + 1) t >>= fun out => pure ('$' :: '{' :: out) :=
  (finds_hostWith (depth + 1)).expand_opening hread

theorem le_expandAll (hr : r.Assembled ops scopes) {depth depth' : Nat} (h : depth ≤ depth')
    (ts : List Text) : (r.expandAll depth ts).Le (r.expandAll depth' ts) := by
  induction ts with
  | nil => exact .refl _
  | cons t ts ih => exact (le_expandAt hr h t).bind fun _ => ih

theorem le_expandBehind (hr : r.Assembled ops scopes) (hread : Reads t b none) (depth : Nat) :
    (r.expandAt depth ('$' :: '{' :: t)).Le
      (r.expandBehind (depth + 1) (b.visits.map Body.text) t) := by
  refine (le_expandAt hr (Nat.le_succ depth) _).trans ?_
  rw [expandAt_unclosed hread, expandBehind,
    expandAll_eq_visitAll _ (Body.exists_reads_of_mem_visits hread)]
  have hvalues := Body.le_visitAll (le_finder hr (Nat.le_succ depth)) b.visits
  exact ((le_visitAll_of_attempt hr b depth).trans hvalues).bind_left _

theorem expandBehind_le (hr : r.Assembled ops scopes) (hread : Reads t b none) (depth : Nat) :
    (r.expandBehind depth (b.visits.map Body.text) t).Le
      (r.expandAt (depth + (b.source.length + 1) + 1) ('$' :: '{' :: t)) := by
  rw [expandAt_unclosed hread, expandBehind,
    expandAll_eq_visitAll _ (Body.exists_reads_of_mem_visits hread)]
  have hattempt := le_attempt_of_visitAll hr b depth _ (Nat.lt_succ_self _)
  exact hattempt.bind fun _ => (le_expandAt hr (by omega) t).bind_left _

theorem steady_expandAt (h : r.IsBuilt) (depth : Nat) (t : Text) :
    (r.expandAt depth t).Steady r.scopes := by
  have law : Session.Law (@Eval.Steady r.scopes) Host.IsStandard (fun _ => True) (· ∈ r.scopes) none :=
    Session.steady_law
  have obeys := law.obeys_hostWith h.assembled_scopes List.mem_cons_self
    (h.assembled.isStandard none) depth
  exact law.expand obeys t

theorem steady_expandAll (h : r.IsBuilt) (depth : Nat) (ts : List Text) :
    (r.expandAll depth ts).Steady r.scopes := by
  induction ts with
  | nil => exact .ofExcept (Error.harmless_ok ())
  | cons t ts ih => exact (steady_expandAt h depth t).bind fun _ => ih

/-- Texts that expand without an effect make no difference to the expansion of the next one. -/
theorem run_expandBehind (h : r.IsBuilt) {depth : Nat} {ts : List Text} {s s' : State}
    (hrun : r.expandAll depth ts s = some (.ok (), s')) (hstock : s'.stock = s.stock) :
    (r.expandBehind depth ts t s).map (fun (outcome, u) => (outcome, u.stock)) =
      (r.expandAt depth t s).map fun (out, u) => (out.map (['$', '{'] ++ ·), u.stock) := by
  have hguard : s'.guard = s.guard := by
    have hbalanced := steady_expandAll h depth ts s s ⟨rfl, rfl⟩
    rw [hrun] at hbalanced
    cases hbalanced with
    | ended _ hs _ _ => exact hs
  have hbalanced := steady_expandAt h depth t s' s ⟨hstock, by rw [hguard]⟩
  rw [expandBehind, Eval.run_bind, hrun, Option.bind_some, Eval.goOn, Eval.run_bind]
  generalize r.expandAt depth t s' = x at hbalanced ⊢
  generalize r.expandAt depth t s = y at hbalanced ⊢
  cases hbalanced with
  | unended => rfl
  | @ended out u u' _ _ _ stock =>
    cases out with
    | error e => simp [Eval.goOn, Except.map, stock]
    | ok out => simp [Eval.goOn, Except.map, stock]

/-- An opening sign that is never closed stands for itself, but the references that the attempt to
read a name has met have been evaluated: the text behind the sign is expanded after these. If they
do not change the store, it is expanded as if there was no sign. -/
theorem expand_unclosed (h : r.IsBuilt) (hread : Reads t b none) (s : State) :
    (∀ outcome u, (∃ depth, r.expandAt depth ('$' :: '{' :: t) s = some (outcome, u)) ↔
      ∃ depth, r.expandBehind depth (b.visits.map Body.text) t s = some (outcome, u)) ∧
    ∀ depth s', r.expandAll depth (b.visits.map Body.text) s = some (.ok (), s') →
      s'.stock = s.stock → ∀ outcome k,
        (∃ depth u, r.expandAt depth ('$' :: '{' :: t) s = some (outcome, u) ∧ u.stock = k) ↔
          ∃ depth out u, r.expandAt depth t s = some (out, u) ∧
            outcome = out.map (['$', '{'] ++ ·) ∧ u.stock = k := by
  have hr := h.assembled
  have hiff : ∀ outcome u, (∃ depth, r.expandAt depth ('$' :: '{' :: t) s = some (outcome, u)) ↔
      ∃ depth, r.expandBehind depth (b.visits.map Body.text) t s = some (outcome, u) := by
    intro outcome u
    constructor
    · rintro ⟨depth, hrun⟩
      exact ⟨_, le_expandBehind hr hread depth s _ hrun⟩
    · rintro ⟨depth, hrun⟩
      exact ⟨_, expandBehind_le hr hread depth s _ hrun⟩
  refine ⟨hiff, fun depth s' hall hstock outcome k => ?_⟩
  -- deep enough for the references that are met, the two expansions can be compared
  have hcompare : ∀ more, (r.expandBehind (depth + more) (b.visits.map Body.text) t s).map
      (fun (outcome, u) => (outcome, u.stock)) =
        (r.expandAt (depth + more) t s).map fun (out, u) => (out.map (['$', '{'] ++ ·), u.stock) :=
    fun more => run_expandBehind h (le_expandAll hr (Nat.le_add_right depth more) _ s _ hall) hstock
  constructor
  · rintro ⟨depth', u, hrun, rfl⟩
    obtain ⟨more, hmore⟩ := (hiff outcome u).1 ⟨depth', hrun⟩
    have hdeep : r.expandBehind (depth + more) (b.visits.map Body.text) t s = some (outcome, u) := by
      rw [expandBehind] at hmore ⊢
      exact (le_expandAll hr (Nat.le_add_left more depth) _).bind
        (fun _ => (le_expandAt hr (Nat.le_add_left more depth) t).bind_left _) s _ hmore
    have hsame := hcompare more
    rw [hdeep, Option.map_some] at hsame
    obtain ⟨⟨out, u'⟩, hout, he⟩ := Option.map_eq_some_iff.1 hsame.symm
    obtain ⟨hoc, hk⟩ := Prod.mk.inj he
    exact ⟨_, out, u', hout, hoc.symm, hk⟩
  · rintro ⟨more, out, u, hrun, rfl, rfl⟩
    have hsame := hcompare more
    rw [le_expandAt hr (Nat.le_add_left more depth) t s _ hrun, Option.map_some] at hsame
    obtain ⟨⟨outcome, u'⟩, hout, he⟩ := Option.map_eq_some_iff.1 hsame
    obtain ⟨hoc, hk⟩ := Prod.mk.inj he
    obtain ⟨depth', hdeep⟩ := (hiff outcome u').2 ⟨_, hout⟩
    exact ⟨depth', u', by rw [hdeep, ← hoc], hk⟩

/-- A reference and one with a default, which nothing closes. -/
theorem reads_default : Reads "${b}${b:=1}".toList (.reference (.char 'b' .nil)
    (.reference (.char 'b' (.char ':' (.char '=' (.char '1' .nil)))) .nil)) none :=
  .reference (.char (by decide) (by decide) (.close _))
    (.reference (.char (by decide) (by decide) (.char (by decide) (by decide) (.char (by decide)
      (by decide) (.char (by decide) (by decide) (.close _))))) .ended)

/-- An unset reference and one with a default, behind an opening sign: the property is stored before
the text behind the sign is expanded. -/
theorem expand_unclosed_default :
    let s := Store.standard ∅
    let t := "${b}${b:=1}".toList
    s.resolver.IsBuilt ∧ Reads t (.reference (.char 'b' .nil)
        (.reference (.char 'b' (.char ':' (.char '=' (.char '1' .nil)))) .nil)) none ∧
      ∃ depth u, s.resolver.expandBehind depth ["${b}".toList, "${b:=1}".toList] t
        (s.state .empty) = some (.ok "$\x7b11".toList, u) := by
  intro s t
  have hrun : (s.resolver.expandAt 9 ('$' :: '{' :: t) (s.state .empty)).map (·.1) =
      some (.ok "$\x7b11".toList) := by decide +kernel
  obtain ⟨⟨outcome, u⟩, hu, rfl⟩ := Option.map_eq_some_iff.1 hrun
  obtain ⟨depth, h⟩ := ((expand_unclosed (Store.isBuilt_standard ∅) reads_default (s.state .empty)).1 _ u).1
    ⟨9, hu⟩
  exact ⟨Store.isBuilt_standard ∅, reads_default, depth, u, h⟩

/-- Without the sign the first reference is still unset when it is expanded. -/
theorem expand_unclosed_writes :
    let s := Store.standard ∅
    let t := "${b}${b:=1}".toList
    (∃ b, Reads t b none) ∧ (s.expand ('$' :: '{' :: t)).map (·.1) = some (.ok "$\x7b11".toList) ∧
      (s.expand ('$' :: '{' :: t)).map (·.1) ≠
        (s.expand t).map fun (out, _) => out.map (['$', '{'] ++ ·) := by
  exact ⟨⟨_, reads_default⟩, by decide +kernel, by decide +kernel⟩

end Resolver

end Interpolation
