import Interpolation.Proofs.Guard.Nesting
import Interpolation.Proofs.Reference.Template
import Interpolation.Proofs.Session.Answering

/-!
# Expansion as substitution

Where all stored texts are templates and no name leads back to itself, a session does nothing else
than to fill values in. It does so from the outside to the inside, under the guard; but the guard
never stops it, and the chain has no part in it.

* `Resolver.Gives`: from some depth on an evaluation gives an answer whatever the chain is, provided
  that only certain names are in flight;
* `Resolver.gives_expandAt` and `Resolver.gives_value`: texts by the names in them, and names by
  their texts; `Resolver.gives_solution` puts them together, by induction over the references;
* `Store.expand_eq_fill` says what this means for a store.
-/

namespace Interpolation

open Reference

namespace Resolver

variable {ps : TextMap Text} {owner : Scope} {P P' : ps.Key → Prop} {α β : Type}

/-- A state has these properties, and only certain names are in flight. -/
structure InFlight (owner : Scope) (P : ps.Key → Prop) (s : State) : Prop where
  properties : s.properties = ps
  only : ∀ n : ps.Key, s.guard.contains ⟨owner, n.1⟩ → P n

/-- From some depth on an evaluation gives an answer in the sessions of every store whose properties
have this owner, in the same way whatever the chain is, if only certain names are in flight. Stock
and guard are the same behind. -/
def Gives (owner : Scope) (P : ps.Key → Prop) (e : Resolver → Nat → Eval α) (a : α) : Prop :=
  ∃ least, ∀ s, InFlight owner P s → ∃ t : State, t.stock = s.stock ∧ t.guard = s.guard ∧
    ∀ r : Resolver, r.scope = owner → ∀ depth ≥ least, e r depth s = some (.ok a, t)

theorem InFlight.of_eq {s t : State} (h : InFlight owner P s) (hstock : t.stock = s.stock)
    (hguard : t.guard = s.guard) : InFlight owner P t where
  properties := (congrArg Stock.properties hstock).trans h.properties
  only n hn := h.only n (hguard ▸ hn)

theorem gives_iff {e : Resolver → Nat → Eval α} {a : α} :
    Gives owner P e a ↔ ∃ least, ∀ s, InFlight owner P s → Answers owner least s e a :=
  Iff.rfl

namespace Gives

variable {e e' : Resolver → Nat → Eval α} {f : α → Resolver → Nat → Eval β} {a : α} {b : β}

theorem pure (a : α) : Gives owner P (fun _ _ => Pure.pure a) a :=
  gives_iff.2 ⟨0, fun _ _ => .pure a⟩

theorem bind (he : Gives owner P e a) (hf : Gives owner P (f a) b) :
    Gives owner P (fun r depth => e r depth >>= fun a => f a r depth) b := by
  obtain ⟨least, he⟩ := gives_iff.1 he
  obtain ⟨least', hf⟩ := gives_iff.1 hf
  refine gives_iff.2 ⟨max least least', fun s hs => ?_⟩
  refine ((he s hs).mono (Nat.le_max_left ..)).bind fun t hstock hguard => ?_
  exact (hf t (hs.of_eq hstock hguard)).mono (Nat.le_max_right ..)

theorem mono (h : Gives owner P' e a) (hp : ∀ n, P n → P' n) : Gives owner P e a := by
  obtain ⟨least, h⟩ := h
  exact ⟨least, fun s hs => h s ⟨hs.properties, fun n hn => hp n (hs.only n hn)⟩⟩

/-- What is the same at greater depths, in the states in question, gives the same. -/
theorem congr (start : Nat) (he : Gives owner P e a) (h : ∀ r : Resolver, r.scope = owner →
    ∀ depth ≥ start, ∀ s, InFlight owner P s → e' r depth s = e r depth s) :
    Gives owner P e' a := by
  obtain ⟨least, he⟩ := gives_iff.1 he
  refine gives_iff.2 ⟨max start least, fun s hs => ?_⟩
  exact ((he s hs).mono (Nat.le_max_right ..)).congr fun r hr depth hd => h r hr depth (by omega) s hs

end Gives

/-! ## Texts and names -/

variable {val : ps.Key → Text}

/-- How a reference to a name is looked for. -/
def valueOf (n : ps.Key) (r : Resolver) (depth : Nat) : Eval Value :=
  (r.finder none depth).value (.ofText n.1)

theorem gives_evaluateAll (t : Template ps)
    (h : ∀ n hn, .reference n hn ∈ t → Gives owner P (valueOf n) (.text (val n))) :
    Gives owner P (fun r depth => Segment.evaluateAll (r.finder none depth) (t.map Piece.segment))
      (t.fill val) := by
  induction t with
  | nil => exact .pure []
  | cons p t ih =>
    have hrest := ih fun n hn hm => h n hn (List.mem_cons_of_mem _ hm)
    have hpiece : Gives owner P (fun r depth => p.segment.evaluate (r.finder none depth))
        (p.fill val) := by
      cases p with
      | char c hc =>
        refine (Gives.pure [c]).congr 1 fun r _ depth hd s _ => ?_
        obtain ⟨depth, rfl⟩ := Nat.exists_eq_add_of_le' hd
        rfl
      | dollar => exact .pure ['$']
      | reference n hn => exact (h n hn List.mem_cons_self).bind (.pure (val n))
    exact hpiece.bind (hrest.bind (.pure _))

/-- A template is expanded by the names in it. -/
theorem gives_expandAt (t : Template ps)
    (h : ∀ n hn, .reference n hn ∈ t → Gives owner P (valueOf n) (.text (val n))) :
    Gives owner P (fun r depth => r.expandAt depth t.text) (t.fill val) := by
  refine (gives_evaluateAll t h).congr 0 fun r _ depth _ s _ => ?_
  rw [expandAt, host, (finds_hostWith depth).expand_of_scans t.scans]

/-- A name that is not in flight has the value that its text expands to. While the text is expanded,
the name is in flight as well. -/
theorem gives_value {n : ps.Key} (fresh : ¬P n) {t : Text}
    (h : Gives owner (fun m => m = n ∨ P m) (fun r depth => r.expandAt depth n.raw) t) :
    Gives owner P (valueOf n) (.text t) := by
  obtain ⟨least, h⟩ := gives_iff.1 h
  refine gives_iff.2 ⟨max 1 least + 1, fun s hs => ?_⟩
  have hstored : s.properties.get? n.1 = some n.raw := by rw [hs.properties, n.get?_eq]
  have hfresh : s.guard.contains ⟨owner, n.1⟩ = false := by
    rw [Bool.eq_false_iff]
    exact fun hn => fresh (hs.only n hn)
  have inside : InFlight owner (fun m => m = n ∨ P m)
      (s.withGuard (s.guard.push ⟨owner, n.1⟩)) := by
    refine ⟨hs.properties, fun m hm => ?_⟩
    have hpush : (s.guard.push ⟨owner, n.1⟩).contains ⟨owner, m.1⟩ := hm
    rw [Guard.contains_push, Bool.or_eq_true, decide_eq_true_eq] at hpush
    rcases hpush with hm | hm
    · exact .inl (Subtype.ext (congrArg Frame.token hm))
    · exact .inr (hs.only m hm)
  exact .reference_of_stored hstored hfresh (Nat.le_max_left ..)
    ((h _ inside).mono (Nat.le_max_right ..))

/-- All names have the values of a solution. The names in flight are those that lead to the one that
is asked for, which is none of them. -/
theorem gives_solution (templates : ∀ n : ps.Key, ∃ t : Template ps, t.text = n.raw)
    (acyclic : ∀ n : ps.Key, ¬Relation.TransGen RefersTo n n) (solves : Solves val) (n : ps.Key) :
    Gives owner (fun m => Relation.TransGen RefersTo m n) (valueOf n) (.text (val n)) := by
  induction n using (wellFounded_refersTo acyclic).induction with
  | _ n ih =>
    obtain ⟨t, ht⟩ := templates n
    refine gives_value (P := fun m => Relation.TransGen RefersTo m n) (acyclic n) ?_
    rw [← ht, solves n t ht]
    refine gives_expandAt t fun m hm hmem => ?_
    have hrefers : RefersTo n m := ⟨t, ht, hm, hmem⟩
    refine (ih m hrefers).mono fun k hk => ?_
    rcases hk with rfl | hk
    · exact .single hrefers
    · exact hk.tail hrefers

end Resolver

/-- If every stored text is a template and no name leads back to itself, there is one way to give
the names values that agree with their texts, and a template expands to what these values make of
it. The outcome and the state that is left are the same whatever the chain is, and the stock is what
it was. -/
theorem Store.expand_eq_fill (s : Store)
    (templates : ∀ n : s.properties.Key, ∃ t : Template s.properties, t.text = n.raw)
    (acyclic : ∀ n : s.properties.Key, ¬Relation.TransGen RefersTo n n) :
    (∃! val : s.properties.Key → Text, Solves val) ∧
    ∀ val : s.properties.Key → Text, Solves val → ∀ t : Template s.properties,
      ∃ (least : Nat) (u : State), u.stock = (s.state .empty).stock ∧
        ∀ r : Resolver, r.scope = s.resolver.scope → ∀ depth ≥ least,
          r.expandAt depth t.text (s.state .empty) = some (.ok (t.fill val), u) := by
  refine ⟨existsUnique_solves templates acyclic, fun val solves t => ?_⟩
  have gives : Resolver.Gives s.resolver.scope (fun _ : s.properties.Key => False)
      (fun r depth => r.expandAt depth t.text) (t.fill val) :=
    Resolver.gives_expandAt t fun n _ _ =>
      (Resolver.gives_solution templates acyclic solves n).mono fun _ => False.elim
  obtain ⟨least, h⟩ := gives
  obtain ⟨u, hstock, -, hu⟩ := h (s.state .empty) ⟨rfl, fun n hn => by cases hn⟩
  exact ⟨least, u, hstock, hu⟩

/-- A name that is referred to twice, with an escape in between. -/
theorem Store.expand_eq_fill_shared :
    let s := Store.standard (.ofList [(['a'], "${b}$$${b}".toList), (['b'], ['x'])])
    (∀ n : s.properties.Key, ∃ t : Template s.properties, t.text = n.raw) ∧
    (∀ n : s.properties.Key, ¬Relation.TransGen RefersTo n n) ∧
    ∃ depth u, s.resolver.expandAt depth "${a}-${b}".toList (s.state .empty) =
      some (.ok "x$x-x".toList, u) ∧ u.stock = (s.state .empty).stock := by
  intro s
  let a : s.properties.Key := ⟨['a'], by decide⟩
  let b : s.properties.Key := ⟨['b'], by decide⟩
  have hnames (n : s.properties.Key) : n = a ∨ n = b := by
    have hn : n.1 ∈ [['a'], ['b']] := n.mem_keys
    simp only [List.mem_cons, List.not_mem_nil, or_false] at hn
    exact hn.imp Subtype.ext Subtype.ext
  have ha : IsLiteral a.1 := ⟨by decide, by decide, by decide⟩
  have hb : IsLiteral b.1 := ⟨by decide, by decide, by decide⟩
  have templates (n : s.properties.Key) : ∃ t : Template s.properties, t.text = n.raw ∧
      ∀ m hm, .reference m hm ∈ t → n = a ∧ m = b := by
    rcases hnames n with rfl | rfl
    · refine ⟨[.reference b hb, .dollar, .reference b hb], rfl, fun m hm hmem => ⟨rfl, ?_⟩⟩
      simpa using hmem
    · exact ⟨[.char 'x' (by decide)], rfl, fun m hm hmem => by simp at hmem⟩
  have acyclic : ∀ n : s.properties.Key, ¬Relation.TransGen RefersTo n n := by
    refine acyclic_of_rank (fun n => if n = a then 1 else 0) fun n m hrefers => ?_
    obtain ⟨t, ht, hm, hmem⟩ := hrefers
    obtain ⟨t', ht', honly⟩ := templates n
    obtain rfl := Template.text_injective (ht.trans ht'.symm)
    obtain ⟨rfl, rfl⟩ := honly m hm hmem
    decide
  have templates' (n : s.properties.Key) := (templates n).imp fun _ h => h.1
  obtain ⟨⟨val, solves, -⟩, fills⟩ := expand_eq_fill s templates' acyclic
  have hvalb : val b = ['x'] := solves b [.char 'x' (by decide)] rfl
  have hvala : val a = "x$x".toList := by
    rw [solves a [.reference b hb, .dollar, .reference b hb] rfl]
    simp [Template.fill, Piece.fill, hvalb]
  obtain ⟨least, u, hstock, hu⟩ :=
    fills val solves [.reference a ha, .char '-' (by decide), .reference b hb]
  refine ⟨templates', acyclic, least, u, ?_, hstock⟩
  refine (hu s.resolver rfl least le_rfl).trans ?_
  simp [Template.fill, Piece.fill, hvala, hvalb]

end Interpolation
