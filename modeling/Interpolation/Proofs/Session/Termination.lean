import Interpolation.Proofs.Reference.Forward
import Interpolation.Proofs.Session.Law
import Interpolation.Proofs.Session.Settling

/-!
# Read-only sessions end

Where no operator stores properties, every evaluation ends: a reference leads to a stored property
that was not in flight, or to a shorter token, or further on in the text.

* `Strategy.Assembled.settles`: a strategy settles if the properties with shorter names do;
* `Resolver.settles_propertyValue`: properties settle if the texts do that are expanded with one
  more property in flight;
* `Resolver.settles_nextReference` and `Resolver.settles_expand`: references and texts settle if
  properties do;
* `Resolver.settles_expand_of_above_eq_nil` closes the circle, by induction on the number of
  properties that are not in flight;
* `Store.evaluation_ends`: evaluations in a session of their own end, with a bounded guard.
-/

namespace Interpolation

variable {r : Resolver} {stored : TextMap Text} {g : Guard} {name token : Text}

/-! ## Strategies -/

/-- The operators of read-only sessions. -/
def Operator.ReadsOnly (op : Operator) : Prop :=
  op ≠ .setDefault

/-- A store of built-in strategies that never store properties, whose chains have other scopes than
its properties. -/
def Resolver.ReadsOnly (r : Resolver) : Prop :=
  r.Assembled Operator.ReadsOnly (· ≠ r.scope)

theorem Resolver.ReadsOnly.isStandard (h : r.ReadsOnly) (depth : Nat) : (r.host depth).IsStandard :=
  Resolver.Assembled.isStandard h none depth

/-- An evaluation, at any depth, that settles whatever it answers. -/
abbrev Resolver.Settles (r : Resolver) (stored : TextMap Text) (g : Guard) {α : Type}
    (e : Nat → Eval α) : Prop :=
  Eval.Settles r.scope stored g (fun _ => True) e

theorem Resolver.settles_operandLookup
    (hl : r.Settles stored g fun depth => (r.host depth).lookup name) :
    r.Settles stored g fun depth => Operand.lookup (r.host depth).toProperties name := by
  cases hf : g.contains ⟨r.scope, name⟩ && stored.contains name with
  | true =>
    refine .congr (fun s hs hg depth => ?_) (.pure (a := .inFlight) trivial)
    exact Resolver.run_operandLookup_of_inFlight none depth (by rw [hg, hs.properties_eq, hf])
  | false =>
    refine .congr (fun s hs hg depth => Resolver.run_operandLookup none depth
      (by rw [hg, hs.properties_eq, hf])) (.bind hl fun value _ => ?_)
    cases value with
    | some value => exact .pure trivial
    | none => exact .pure trivial

theorem Resolver.settles_plan {p : Plan} (h : p.Proper Operator.ReadsOnly token)
    (hl : ∀ name, name.length < token.length →
      r.Settles stored g fun depth => (r.host depth).lookup name) :
    r.Settles stored g fun depth => p.run (r.host depth) token := by
  cases h with
  | done => exact .ofExcept fun _ _ => trivial
  | reference id => exact .ask fun _ => trivial
  | operand shorter =>
    exact .bind (Resolver.settles_operandLookup (hl _ shorter)) fun o _ =>
      .ofExcept fun _ _ => trivial
  | setDefault _ allowed => exact absurd rfl allowed
  | construct label content =>
    refine .bind (.newObject label content) fun o _ => .bind (.change fun s => ?_) fun _ _ =>
      .pure trivial
    rfl

theorem Strategy.settles_firstAnswer {ds : List Strategy}
    (h : ∀ d ∈ ds, r.Settles stored g fun depth => d.evaluate (r.host depth) token) :
    r.Settles stored g fun depth => Strategy.firstAnswer ds (r.host depth) token := by
  induction ds with
  | nil => exact .pure trivial
  | cons d ds ih =>
    simp only [Strategy.firstAnswer]
    refine .bind (h d List.mem_cons_self) fun answer _ => ?_
    cases answer with
    | some v => exact .pure trivial
    | none => exact ih fun d hd => h d (List.mem_cons_of_mem _ hd)

/-- A strategy settles if the properties with shorter names do, as long as no more properties are
free. -/
theorem Strategy.Assembled.settles (hr : r.ReadsOnly) {bound : Nat} {s : Strategy}
    (h : s.Assembled Operator.ReadsOnly (· ≠ r.scope))
    (hl : ∀ g : Guard, g.free r.scope stored ≤ bound →
      ∀ name, name.length < token.length → g.Fits r.scope name →
        r.Settles stored g fun depth => (r.host depth).lookup name) :
    ∀ g : Guard, g.free r.scope stored ≤ bound → g.Fits r.scope token →
      r.Settles stored g fun depth => s.evaluate (r.host depth) token := by
  refine h.induct (motive := fun s => ∀ g : Guard, g.free r.scope stored ≤ bound →
    g.Fits r.scope token → r.Settles stored g fun depth => s.evaluate (r.host depth) token)
    (fun s hs => ?_) fun scope balance delegates hs ih => ?_
  · intro g hfree hfits
    obtain ⟨p, hp, hrun⟩ := hs token
    simp only [fun depth => hrun _ (hr.isStandard depth)]
    exact Resolver.settles_plan hp fun name hn => hl g hfree name hn (hfits.shorter hn)
  · intro g hfree hfits
    simp only [Strategy.evaluate]
    cases hc : g.contains ⟨scope, token⟩ with
    | true =>
      refine .congr (fun s _ hg depth => ?_) (.pure (a := none) trivial)
      exact run_resolveOnce_of_contains (by rw [hg, hc])
    | false =>
      refine .congr (fun s _ hg depth => run_resolveOnce_of_not_contains (by rw [hg, hc]))
        (.within balance ?_ fun hn => .chain hn hs hc hfits)
      refine Strategy.settles_firstAnswer fun d hd => ih d hd _ ?_ (hfits.push_of_ne hs)
      rwa [Guard.free_push_of_ne hs]

/-! ## Properties -/

theorem Resolver.settles_lookup
    (h : r.Settles stored g fun depth => r.propertyValue (r.host depth) name) :
    r.Settles stored g fun depth => (r.host depth).lookup name :=
  .deeper (.bind h fun _ _ => .pure trivial)

/-- Properties settle if the texts do that are expanded with one more property in flight. -/
theorem Resolver.settles_propertyValue (hr : r.ReadsOnly) {bound : Nat}
    (he : ∀ g : Guard, g.free r.scope stored < bound → g.above r.scope = [] →
      ∀ text, r.Settles stored g fun depth => Reference.expand (r.host depth) text)
    (name : Text) : ∀ g : Guard, g.free r.scope stored ≤ bound → g.Fits r.scope name →
      r.Settles stored g fun depth => r.propertyValue (r.host depth) name := by
  induction hn : name.length using Nat.strongRecOn generalizing name with
  | ind n ih =>
    intro g hfree hfits
    cases hp : stored.get? name with
    | none =>
      refine .congr (fun s hs _ depth =>
        Resolver.run_propertyValue_of_unset (by rw [hs.properties_eq, hp])) ?_
      refine Strategy.Assembled.settles hr hr.chain (fun g hfree other ho hfits => ?_) g hfree hfits
      exact Resolver.settles_lookup (ih other.length (hn ▸ ho) other rfl g hfree hfits)
    | some raw =>
      cases hc : g.contains ⟨r.scope, name⟩ with
      | true =>
        refine .congr (fun s hs hg depth => ?_) (.pure (a := none) trivial)
        exact Resolver.run_propertyValue_of_inFlight (by rw [hs.properties_eq, hp]) (by rw [hg, hc])
      | false =>
        have known : stored.contains name := by rw [TextMap.contains, hp]; rfl
        refine .congr (fun s hs hg depth => Resolver.run_propertyValue_of_stored
          (by rw [hs.properties_eq, hp]) (by rw [hg, hc])) ?_
        have text := he _ (Nat.lt_of_lt_of_le (Guard.free_push_lt known hc) hfree)
          (Guard.above_push_owner ..) raw
        exact .bind (.within .strict text fun hn => .property hn known hc) fun _ _ => .pure trivial

/-! ## Texts -/

/-- Where a reference leaves the position: further on in the text, or where it was if there is
none. -/
def Reference.Lands {α : Type} (input : Text) (start : Nat) (found : Option α × Nat) : Prop :=
  match found.1 with
  | some _ => start < found.2 ∧ found.2 ≤ input.byteLength
  | none => found.2 = start

/-- A name settles if the references in it do. -/
theorem Resolver.settles_readNameFrom {input : Text} (start : Nat)
    (hn : ∀ pos ≥ start, Eval.Settles r.scope stored g (Reference.Lands input pos) fun depth =>
      ((r.host depth).nextReference input).runFrom pos) (fuel : Nat) :
    ∀ (name : Text) (pos : Nat), start ≤ pos → pos ≤ input.byteLength →
      input.byteLength < pos + fuel →
      Eval.Settles r.scope stored g
        (fun found => found.1.isSome → pos < found.2 ∧ found.2 ≤ input.byteLength) fun depth =>
        (Reference.readNameFrom (r.host depth) input fuel name).runFrom pos := by
  induction fuel with
  | zero =>
    intro name pos _ _ _
    omega
  | succ fuel ih =>
    intro name pos hs hp hf
    simp only [Reference.readNameFrom, Scan.runFrom_position_bind]
    cases hc : input.charAt? pos with
    | none => exact .pure fun h => by cases h
    | some c =>
      have hpos := Char.utf8Size_pos c
      have hle := Text.le_of_charAt? hc
      by_cases hclose : c = '}'
      · simp only [if_pos hclose, Scan.runFrom_advance_bind]
        refine .pure fun _ => ?_
        show pos < pos + 1 ∧ pos + 1 ≤ input.byteLength
        omega
      · simp only [if_neg hclose, Scan.runFrom_bind]
        refine .bind (hn pos hs) fun found hland => ?_
        obtain ⟨found, stop⟩ := found
        cases found with
        | some v =>
          obtain ⟨hlt, hle⟩ : pos < stop ∧ stop ≤ input.byteLength := hland
          refine .mono ?_ (ih _ stop (by omega) hle (by omega))
          intro found h hfound
          have := h hfound
          omega
        | none =>
          obtain rfl : stop = pos := hland
          simp only [Scan.runFrom_position_bind, hc, Scan.runFrom_advance_bind]
          refine .mono ?_ (ih _ (stop + c.utf8Size) (by omega) hle (by omega))
          intro found h hfound
          have := h hfound
          omega

/-- The name of a reference settles if the references behind its opening sign do. -/
theorem Resolver.settles_readName {input : Text} {pos : Nat}
    (hn : ∀ p ≥ pos + 2, pos + 2 ≤ input.byteLength →
      Eval.Settles r.scope stored g (Reference.Lands input p) fun depth =>
        ((r.host depth).nextReference input).runFrom p) :
    Eval.Settles r.scope stored g (Reference.Lands input pos) fun depth =>
      (Reference.readName (r.host depth) input).runFrom pos := by
  simp only [Reference.readName, Scan.runFrom_position_bind]
  by_cases hopen : ((input.from? pos).map Reference.opens).getD false = true
  · have hlen := Reference.add_two_le_of_opens hopen
    simp only [if_pos hopen, Scan.runFrom_moveTo_bind]
    simp only [Scan.runFrom_bind]
    have inside := Resolver.settles_readNameFrom (pos + 2) (fun p hp => hn p hp hlen)
      (input.byteLength + 1) [] (pos + 2) (Nat.le_refl _) hlen (by omega)
    refine .bind inside fun found h => ?_
    obtain ⟨found, stop⟩ := found
    cases found with
    | some name =>
      obtain ⟨hlt, hle⟩ : pos + 2 < stop ∧ stop ≤ input.byteLength := h rfl
      refine .pure ?_
      show pos < stop ∧ stop ≤ input.byteLength
      omega
    | none =>
      simp only [Scan.runFrom_moveTo_bind]
      exact .pure rfl
  · simp only [if_neg hopen]
    exact .pure rfl

/-- A reference settles if properties do. The induction is on the rest of the text, for the
references inside a name stand behind its opening sign. -/
theorem Resolver.settles_nextReference
    (hv : ∀ name, r.Settles stored g fun depth => r.propertyValue (r.host depth) name)
    (input : Text) (pos : Nat) :
    Eval.Settles r.scope stored g (Reference.Lands input pos) fun depth =>
      ((r.host depth).nextReference input).runFrom pos := by
  induction hrest : input.byteLength - pos using Nat.strongRecOn generalizing pos with
  | ind rest ih =>
    have name : Eval.Settles r.scope stored g (Reference.Lands input pos) fun depth =>
        (Reference.readName (r.host depth) input).runFrom pos :=
      Resolver.settles_readName fun p hp hlen => ih (input.byteLength - p) (by omega) p rfl
    refine .deeper ?_
    show Eval.Settles r.scope stored g (Reference.Lands input pos) fun depth =>
      (r.nextReference (r.host depth) input).runFrom pos
    simp only [Resolver.nextReference, Scan.runFrom_position_bind]
    simp only [Scan.runFrom_bind]
    refine .bind name fun found h => ?_
    obtain ⟨found, stop⟩ := found
    cases found with
    | none => exact .pure h
    | some name =>
      simp only [Scan.runFrom_bind, Scan.runFrom_ofEval, bind_assoc, pure_bind]
      refine .bind (hv name) fun v _ => ?_
      cases v with
      | some v => exact .pure h
      | none => exact .pure h

theorem Resolver.settles_expandFrom {text : Text}
    (hn : ∀ pos, Eval.Settles r.scope stored g (Reference.Lands text pos) fun depth =>
      ((r.host depth).nextReference text).runFrom pos) (fuel : Nat) :
    ∀ pos : Nat, pos ≤ text.byteLength → text.byteLength < pos + fuel →
      r.Settles stored g fun depth => Reference.expandFrom (r.host depth) text fuel pos := by
  induction fuel with
  | zero =>
    intro pos _ _
    omega
  | succ fuel ih =>
    intro pos hp hf
    simp only [Reference.expandFrom]
    cases hr : text.from? pos with
    | none => exact .pure trivial
    | some rest =>
      cases rest with
      | nil => exact .pure trivial
      | cons c rest =>
        have hlen := Text.byteLength_of_from? hr
        have hpos := Char.utf8Size_pos c
        rw [Text.byteLength_cons] at hlen
        by_cases hd : c = '$' ∧ rest.head? = some '$'
        · simp only [if_pos hd]
          have hrest : 1 ≤ Text.byteLength rest := by
            cases rest with
            | nil => simp at hd
            | cons d rest =>
              have := Char.utf8Size_pos d
              rw [Text.byteLength_cons]
              omega
          exact .bind (ih (pos + 2) (by omega) (by omega)) fun _ _ => .pure trivial
        · simp only [if_neg hd]
          refine .bind (hn pos) fun found hland => ?_
          obtain ⟨found, stop⟩ := found
          cases found with
          | some v =>
            obtain ⟨hlt, hle⟩ : pos < stop ∧ stop ≤ text.byteLength := hland
            exact .bind (ih stop hle (by omega)) fun _ _ => .pure trivial
          | none =>
            obtain rfl : stop = pos := hland
            exact .bind (ih (stop + c.utf8Size) (by omega) (by omega)) fun _ _ => .pure trivial

/-- A text settles if properties do. -/
theorem Resolver.settles_expand
    (hv : ∀ name, r.Settles stored g fun depth => r.propertyValue (r.host depth) name)
    (text : Text) : r.Settles stored g fun depth => Reference.expand (r.host depth) text :=
  Resolver.settles_expandFrom (fun pos => Resolver.settles_nextReference hv text pos) _ 0
    (Nat.zero_le _) (by omega)

/-- Every text settles. The induction is on the number of properties that are not in flight. -/
theorem Resolver.settles_expand_of_above_eq_nil (hr : r.ReadsOnly) (bound : Nat) :
    ∀ g : Guard, g.free r.scope stored < bound → g.above r.scope = [] →
      ∀ text, r.Settles stored g fun depth => Reference.expand (r.host depth) text := by
  induction bound with
  | zero =>
    intro g hfree
    omega
  | succ bound ih =>
    intro g hfree habove text
    exact Resolver.settles_expand (fun name => Resolver.settles_propertyValue hr ih name g
      (Nat.le_of_lt_succ hfree) (Guard.fits_of_above_eq_nil habove)) text

/-- Every property settles whose name fits the guard. -/
theorem Resolver.settles_value (hr : r.ReadsOnly) (name : Text) (h : g.Fits r.scope name) :
    r.Settles stored g fun depth => r.propertyValue (r.host depth) name :=
  Resolver.settles_propertyValue hr (Resolver.settles_expand_of_above_eq_nil hr _) name g
    (Nat.le_refl _) h

/-- Every token settles that fits the guard. -/
theorem Resolver.settles_resolve (hr : r.ReadsOnly) (h : g.Fits r.scope token) :
    r.Settles stored g fun depth => r.resolve (r.host depth) token :=
  Strategy.Assembled.settles hr hr.chain
    (fun _ _ _ _ hf => Resolver.settles_lookup (Resolver.settles_value hr _ hf)) g
    (Nat.le_refl (g.free r.scope stored)) h

/-! ## Sessions of their own -/

/-- The guard at a moment is bounded by the stored properties, and nothing has been stored. -/
structure Moment.IsBounded (r : Resolver) (stored : TextMap Text) (m : Moment) : Prop where
  properties : m.properties = stored
  /-- No two frames are equal. -/
  nodup : m.guard.frames.Nodup
  /-- At most as many frames of the store as there are stored properties. -/
  count : (m.guard.frames.filter fun f => f.scope = r.scope).length ≤ stored.entries.length
  /-- Where no frame of the store stands in between, the tokens of the chain get shorter towards
  the top. -/
  shorter : ∀ before segment behind, m.guard.frames = before ++ (segment ++ behind) →
    (∀ f ∈ segment, f.scope ≠ r.scope) →
      (segment.filter fun f => f.scope = r.chain.scope).Pairwise fun inner outer =>
        inner.token.length < outer.token.length

theorem State.Quiet.isBounded {s : State} (h : s.Quiet r.scope stored) :
    ∀ m ∈ s.history, m.IsBounded r stored := by
  intro m hm
  obtain ⟨hp, hn⟩ := h m hm
  exact ⟨hp, hn.nodup, hn.length_framesOf_le, fun _ _ _ he hs => hn.pairwise_shorter _ he hs⟩

namespace Store

variable {s : Store}

theorem quiet_state (s : Store) : (s.state .empty).Quiet s.resolver.scope s.properties := by
  intro m hm
  rw [List.mem_singleton.1 hm]
  exact ⟨rfl, .empty⟩

/-- What settles ends in a session of its own, and is bounded all the way. -/
theorem ends_of_settles {α : Type} {e : Nat → Eval α}
    (h : s.resolver.Settles s.properties .empty e) :
    ∃ (least : Nat) (outcome : Except Error α) (t : State),
      (∀ depth ≥ least, e depth (s.state .empty) = some (outcome, t)) ∧
        ∀ m ∈ t.history, m.IsBounded s.resolver s.properties := by
  obtain ⟨least, outcome, t, ht, hq, -, -⟩ := h (s.state .empty) s.quiet_state rfl
  exact ⟨least, outcome, t, ht, hq.isBounded⟩

/-- In a store without strategies that store properties, every token and every text has an outcome
in a session of its own, the same one from some depth on. At every moment on the way nothing has
been stored, and the guard is bounded. -/
theorem evaluation_ends (h : s.resolver.ReadsOnly) :
    (∀ token, ∃ (least : Nat) (outcome : Except Error (Option Value)) (t : State),
      (∀ depth ≥ least, s.resolver.resolveAt depth token (s.state .empty) = some (outcome, t)) ∧
        ∀ m ∈ t.history, m.IsBounded s.resolver s.properties) ∧
    ∀ text, ∃ (least : Nat) (outcome : Except Error Text) (t : State),
      (∀ depth ≥ least, s.resolver.expandAt depth text (s.state .empty) = some (outcome, t)) ∧
        ∀ m ∈ t.history, m.IsBounded s.resolver s.properties :=
  ⟨fun _ => ends_of_settles (Resolver.settles_resolve h (Guard.fits_of_above_eq_nil rfl)),
    fun text => ends_of_settles
      (Resolver.settles_expand_of_above_eq_nil h _ .empty (Nat.lt_succ_self _) rfl text)⟩

/-- Two properties that refer to each other, one of them with a default, in a chain with another
one nested in it. -/
theorem evaluation_ends_mutual :
    let chain : Chain := ⟨⟨1⟩, .lenient,
      [.chain ⟨2⟩ .strict [.operator .defaultValue, .operator .require], .logical, .conditions]⟩
    let s := Store.ofChain chain .standard .standard
      ((TextMap.insert ∅ "a".toList "<${b}>".toList).insert "b".toList "${c:-${a}}".toList)
    ((s.resolver.expandAt 20 "${a}".toList (s.state .empty)).map (·.1) =
      some (.ok "<${a}>".toList)) ∧
    ∃ (least : Nat) (outcome : Except Error Text) (t : State),
      (∀ depth ≥ least, s.resolver.expandAt depth "${a}".toList (s.state .empty) =
        some (outcome, t)) ∧
      ∀ m ∈ t.history, m.IsBounded s.resolver s.properties := by
  intro chain s
  have readsOnly : s.resolver.ReadsOnly := by
    have inner : ∀ d ∈ [Strategy.operator .defaultValue, .operator .require],
        d.Assembled Operator.ReadsOnly (· ≠ s.resolver.scope) :=
      List.forall_mem_cons.2 ⟨.operator nofun, List.forall_mem_singleton.2
        (.operator nofun)⟩
    refine ⟨.chain _ (by decide) ?_, rfl, rfl⟩
    exact List.forall_mem_cons.2 ⟨.chain _ (by decide) inner,
      List.forall_mem_cons.2 ⟨.logical, List.forall_mem_singleton.2 .conditions⟩⟩
  exact ⟨by decide +kernel, (evaluation_ends readsOnly).2 _⟩

end Store

end Interpolation
