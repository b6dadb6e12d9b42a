import Interpolation.Proofs.Session.SelfReference
import Interpolation.Proofs.Strategy.Prefixes
import Interpolation.Session
import Mathlib.Logic.Relation

/-!
# Objects that are fetched back

An object that a store has constructed for a token is registered under the token, and `ref:` in front
of the token gives it back as long as the token is not registered anew.

* `Eval.Objectless` evaluations answer no object; of the strategies of the usual chain only the
  references and the component types are not among them;
* `Chain.registered_of_evaluate`: an object that the usual chain answers has been registered before,
  or it is registered under the token;
* `Store.Step` is what may be done to a store, `Store.Keeps` says that this leaves an id as it is;
* `Store.fetch_constructed` puts these together.
-/

namespace Interpolation

/-! ## Evaluations that answer no object -/

/-- No object is answered. -/
def Eval.Objectless (e : Eval (Option Value)) : Prop :=
  ∀ s o t, e s ≠ some (.ok (some (.object o)), t)

namespace Eval.Objectless

variable {α : Type} {e : Eval (Option Value)}

theorem ofExcept {r : Except Error (Option Value)} (h : ∀ o, r ≠ .ok (some (.object o))) :
    Objectless (Eval.ofExcept r) :=
  fun _ o _ hr => h o (outcome_inj hr).1

theorem pure {a : Option Value} (h : ∀ o, a ≠ some (.object o)) : Objectless (Pure.pure a) :=
  ofExcept fun o ho => h o (Except.ok.inj ho)

theorem none : Objectless (Pure.pure Option.none) := pure fun _ h => by cases h

theorem text (t : Text) : Objectless (Pure.pure (some (.text t))) := pure fun _ h => by cases h

theorem flag (b : Bool) : Objectless (Pure.pure (some (.flag b))) := pure fun _ h => by cases h

theorem fail (x : Error) : Objectless (Eval.fail x) := ofExcept fun _ h => by cases h

/-- The last evaluation is the one that answers. -/
theorem bind {e : Eval α} {f : α → Eval (Option Value)} (h : ∀ a, Objectless (f a)) :
    Objectless (e >>= f) := by
  intro s o t hr
  rcases run_bind_eq_some.1 hr with ⟨a, u, -, ha⟩ | ⟨x, -, hx⟩
  · exact h a u o t ha
  · cases hx

theorem resolveOnce (h : Objectless e) (scope : Scope) (balance : Balance) (token : Text) :
    Objectless (resolveOnce scope balance token e) := by
  intro s o t hr
  obtain ⟨u, hu, -⟩ := exists_run_of_resolveOnce hr
  exact h _ o u hu

end Eval.Objectless

namespace Operator

variable {host : Host} {name token : Text}

theorem objectless_onValue (f : Text → Except Error Text) : (onValue host name f).Objectless := by
  refine .bind fun o => ?_
  cases o.value? with
  | none => exact .none
  | some value => exact .bind fun result => .text result

theorem objectless_orElse {unset : Eval (Option Value)} (h : unset.Objectless) :
    (orElse host name unset).Objectless := by
  refine .bind fun o => ?_
  cases o with
  | set value => exact .text value
  | inFlight => exact .none
  | unset => exact h

/-- Operators answer texts. -/
theorem objectless_evaluate (op : Operator) : (op.evaluate host token).Objectless := by
  rw [evaluate]
  cases recognize? op.grammar token with
  | none => exact .none
  | some g =>
    cases op with
    | substring | transliterate | delete | replace => exact objectless_onValue _
    | defaultValue => exact objectless_orElse (.text _)
    | setDefault => exact objectless_orElse (.bind fun _ => .text _)
    | require => exact objectless_orElse (.fail _)

end Operator

/-! ## Objects of the usual chain -/

namespace Strategy

variable {host : Host} {token : Text} {s t : State} {o : Object} {d : Strategy} {ds : List Strategy}

/-- What strategies answer is answered by the first one or, behind it, by the others. -/
theorem cases_of_firstAnswer {v : Value}
    (h : firstAnswer (d :: ds) host token s = some (.ok (some v), t)) :
    d.evaluate host token s = some (.ok (some v), t) ∨ ∃ u,
      d.evaluate host token s = some (.ok none, u) ∧
        firstAnswer ds host token u = some (.ok (some v), t) := by
  rw [firstAnswer] at h
  rcases Eval.run_bind_eq_some.1 h with ⟨a, u, hu, ht⟩ | ⟨x, -, hx⟩
  · cases a with
    | some w =>
      obtain ⟨hw, rfl⟩ := Eval.ok_inj ht
      exact .inl (hw ▸ hu)
    | none => exact .inr ⟨u, hu, ht⟩
  · cases hx

theorem objectless_firstAnswer (h : ∀ d ∈ ds, (d.evaluate host token).Objectless) :
    (firstAnswer ds host token).Objectless := by
  induction ds with
  | nil => exact .none
  | cons d ds ih =>
    intro s o t hr
    rcases cases_of_firstAnswer hr with hd | ⟨u, -, hrest⟩
    · exact h d List.mem_cons_self s o t hd
    · exact ih (fun d hd => h d (List.mem_cons_of_mem _ hd)) u o t hrest

/-- The strategies between the references and the component types. -/
theorem objectless_between {scope : Scope} (hd : d ∈ [encodeUrlBy .colon, operators scope, .logical,
    .conditions]) : (d.evaluate host token).Objectless := by
  simp only [List.mem_cons, List.not_mem_nil, or_false] at hd
  rcases hd with rfl | rfl | rfl | rfl
  · rw [encodeUrlBy, evaluate]
    refine .bind fun found => ?_
    cases found with
    | none => exact .none
    | some part =>
      refine .pure fun o ho => ?_
      obtain ⟨address, -, h⟩ := Option.map_eq_some_iff.1 ho
      cases h
  · rw [operators, evaluate]
    refine .resolveOnce (objectless_firstAnswer fun d hd => ?_) _ _ _
    obtain ⟨op, -, rfl⟩ := List.mem_map.1 hd
    rw [evaluate]
    exact op.objectless_evaluate
  · rw [evaluate]
    refine .pure fun o ho => ?_
    obtain ⟨b, -, h⟩ := Option.map_eq_some_iff.1 ho
    cases h
  · rw [evaluate, ConditionToken.evaluate]
    split
    · exact .none
    · split
      · exact .none
      · exact .bind fun c => .bind fun holds => .flag _

/-- An object that is fetched by reference is registered. -/
theorem registered_of_references (href : host.reference? = Host.storedReference)
    (h : (referencesBy .colon).evaluate host token s = some (.ok (some (.object o)), t)) :
    ∃ id, s.references.get? id = some (.object o) := by
  rw [referencesBy, evaluate] at h
  rcases Eval.run_bind_eq_some.1 h with ⟨found, u, hu, h⟩ | ⟨x, -, hx⟩
  · obtain ⟨-, rfl⟩ := Eval.outcome_inj hu
    cases found with
    | none => cases (Eval.ok_inj h).1
    | some part =>
      simp only [href] at h
      exact ⟨part.2, (Eval.ok_inj h).1⟩
  · cases hx

/-- An object of the component types is registered under the token. -/
theorem registered_of_componentTypes (hreg : host.register = Host.storeReference)
    (h : (Strategy.componentTypes .colon).evaluate host token s = some (.ok (some (.object o)), t)) :
    t.references.get? token = some (.object o) := by
  rw [evaluate, constructComponent] at h
  cases hs : Text.splitOnce? Delimiter.colon.text token with
  | none =>
    rw [hs] at h
    cases (Eval.ok_inj h).1
  | some part =>
    simp only [hs] at h
    cases ht : host.objectType? part.1 with
    | none =>
      rw [ht] at h
      cases (Eval.ok_inj h).1
    | some type =>
      simp only [ht] at h
      rcases Eval.run_bind_eq_some.1 h with ⟨built, u, -, h⟩ | ⟨x, -, hx⟩
      · cases built with
        | error e => cases (Eval.ok_inj h).1
        | ok p =>
          rw [hreg] at h
          obtain ⟨hp, rfl⟩ := Eval.ok_inj h
          obtain rfl : p = o := Value.object.inj (Option.some.inj hp)
          exact TextMap.get?_insert_self ..
      · cases hx

/-- Behind the references, an object is one of the component types. -/
theorem registered_of_firstAnswer {scope : Scope} (hreg : host.register = Host.storeReference)
    (h : firstAnswer [encodeUrlBy .colon, operators scope, .logical, .conditions,
      .componentTypes .colon] host token s = some (.ok (some (.object o)), t)) :
    t.references.get? token = some (.object o) := by
  let between : List Strategy := [encodeUrlBy .colon, operators scope, .logical, .conditions]
  have hall : firstAnswer (between ++ [.componentTypes .colon]) host token s =
      some (.ok (some (.object o)), t) := h
  rw [firstAnswer_append] at hall
  rcases Eval.run_bind_eq_some.1 hall with ⟨a, u, hu, ht⟩ | ⟨x, -, hx⟩
  · cases a with
    | some v =>
      obtain ⟨hv, rfl⟩ := Eval.ok_inj ht
      rw [hv] at hu
      exact absurd hu (objectless_firstAnswer (fun d hd => objectless_between hd) s o u)
    | none =>
      have last : firstAnswer [.componentTypes .colon] host token u = _ := ht
      rw [firstAnswer_singleton] at last
      exact registered_of_componentTypes hreg last
  · cases hx

end Strategy

theorem Eval.references_of_leave {f : Frame} {balance : Balance} {s t : State} {r : Except Error Unit}
    (h : leave f balance s = some (r, t)) : t.references = s.references := by
  cases balance with
  | strict =>
    rw [leave, pop] at h
    split at h <;> obtain ⟨-, rfl⟩ := outcome_inj h <;> rfl
  | lenient =>
    obtain ⟨-, rfl⟩ := outcome_inj h
    rfl

/-- An object that the usual chain answers has been registered before, or it is registered under the
token. -/
theorem Chain.registered_of_evaluate {first : Nat} {host : Host} {token : Text} {s t : State}
    {o : Object} (href : host.reference? = Host.storedReference)
    (hreg : host.register = Host.storeReference)
    (h : (Chain.standard first).evaluate host token s = some (.ok (some (.object o)), t)) :
    (∃ id, s.references.get? id = some (.object o)) ∨ t.references.get? token = some (.object o) := by
  rw [Chain.evaluate_eq] at h
  obtain ⟨u, hu, ht⟩ := exists_run_of_resolveOnce h
  rw [Eval.references_of_leave ht]
  rcases Strategy.cases_of_firstAnswer hu with href' | ⟨v, -, hu⟩
  · obtain ⟨id, hid⟩ := Strategy.registered_of_references href href'
    exact .inl ⟨id, hid⟩
  · exact .inr (Strategy.registered_of_firstAnswer hreg hu)

/-! ## Stores -/

namespace Store

/-- What may be done to a store: properties and values are stored, and sessions are asked for
something, whatever their guard holds. -/
inductive Step : Store → Store → Prop where
  | setProperty (s : Store) (name value : Text) : Step s (s.setProperty name value)
  | addReference (s : Store) (id : Text) (value : Value) : Step s (s.addReference id value)
  | call {s : Store} {depth : Nat} {g : Guard} {c : Call} {r : Except Error Answer} {t : State}
      (h : c.run s.resolver (s.resolver.host depth) (s.state g) = some (r, t)) : Step s (s.after t)

/-- A step that does not register an id anew. -/
def Keeps (id : Text) (s t : Store) : Prop :=
  Step s t ∧ t.reference? id = s.reference? id

/-- An object that is registered under no id. -/
def IsNew (s : Store) (o : Object) : Prop :=
  ∀ id, s.reference? id ≠ some (.object o)

variable {s s' s'' t : Store} {token : Text} {o : Object} {first depth : Nat}

theorem Step.resolver_eq (h : Step s t) : t.resolver = s.resolver := by
  cases h <;> rfl

/-- Steps that do not register an id anew leave it bound as it is, and the resolver of the store. -/
theorem Keeps.run (h : Relation.ReflTransGen (Keeps token) s t) :
    t.resolver = s.resolver ∧ t.reference? token = s.reference? token := by
  induction h with
  | refl => exact ⟨rfl, rfl⟩
  | tail _ step ih => exact ⟨step.1.resolver_eq.trans ih.1, step.2.trans ih.2⟩

/-- A new object that a token is resolved to is registered under the token. -/
theorem reference?_of_built (hs : s.resolver.chain = .standard first)
    (hbuilt : s.session (s.resolver.resolveAt depth token) = some (.ok (some (.object o)), s'))
    (hnew : s.IsNew o) : s'.resolver = s.resolver ∧ s'.reference? token = some (.object o) := by
  obtain ⟨⟨r, t⟩, hrun, ht⟩ := Option.map_eq_some_iff.1 hbuilt
  obtain ⟨rfl, rfl⟩ := Prod.mk.inj ht
  rw [Resolver.resolveAt, Resolver.resolve, hs] at hrun
  rcases Chain.registered_of_evaluate (Resolver.host_reference? _ depth)
    (Resolver.host_register _ depth) hrun with ⟨id, hid⟩ | h
  · exact absurd hid (hnew id)
  · exact ⟨rfl, h⟩

/-- An object that is new when a token without line feeds is resolved to it is fetched by `ref:` and the
token from then on, until the token is registered anew; and a reference to this expands to its label,
unless a property of this name is stored. -/
theorem fetch_constructed (hs : s.resolver.chain = .standard first)
    (hbuilt : s.session (s.resolver.resolveAt depth token) = some (.ok (some (.object o)), s'))
    (hnew : s.IsNew o) (hline : '\n' ∉ token) (hlater : Relation.ReflTransGen (Keeps token) s' s'') :
    (∀ n, s''.session (s''.resolver.resolveAt n ("ref".toList ++ ':' :: token)) =
      some (.ok (some (.object o)), s'')) ∧
    (token.Unopened → '}' ∉ token → s''.property? ("ref".toList ++ ':' :: token) = none →
      ∀ n ≥ 2, s''.session (s''.resolver.expandAt n
          (Text.reference ("ref".toList ++ ':' :: token))) = some (.ok o.label, s'')) := by
  obtain ⟨hresolver, hregistered⟩ := reference?_of_built hs hbuilt hnew
  obtain ⟨hresolver', hkept⟩ := Keeps.run hlater
  have hchain : s''.resolver.chain = .standard first := by rw [hresolver', hresolver, hs]
  have hv : s''.stock.references.get? token = some (.object o) := hkept.trans hregistered
  have fetched (n : Nat) : Eval.Spec False .empty s''.stock
      (s''.resolver.resolve (s''.resolver.host n) ("ref".toList ++ ':' :: token))
      (fun answer k => answer = .ok (some (.object o)) ∧ k = s''.stock) :=
    Resolver.spec_resolve_reference hchain (Resolver.host_reference? _ n) hline rfl hv
  refine ⟨fun n => session_eq_some (fetched n), ?_⟩
  intro hopen hclose hname n hn
  obtain ⟨n, rfl⟩ := Nat.exists_eq_add_of_le' hn
  have hopen' : Text.Unopened ("ref".toList ++ ':' :: token) :=
    hopen.append (u := "ref:".toList) (by decide)
  have hclose' : '}' ∉ "ref".toList ++ ':' :: token := by simpa using hclose
  exact session_eq_some (Resolver.spec_expandAt_reference hopen' hclose'
    (Resolver.spec_propertyValue_of_unset (k := s''.stock) hname (fetched _)))

/-- An object for a path that is cut by an operator as well, after a property, a value and another
object of the store have come. -/
theorem fetch_constructed_path :
    let s := standard ∅
    let token := "path:a/b/c$".toList
    let o : Object := ⟨1, "a/b/c$".toList, .path "a/b/c$".toList⟩
    ∃ s' s'', s.resolve token = some (.ok (some (.object o)), s') ∧ s.IsNew o ∧
      Relation.ReflTransGen (Keeps token) s' s'' ∧
      s''.resolve "ref:path:a/b/c$".toList = some (.ok (some (.object o)), s'') ∧
      s''.expand "${ref:path:a/b/c$}".toList = some (.ok o.label, s'') := by
  intro s token o
  let prepared (s : Store) : Store :=
    (s.setProperty "path:a".toList "x".toList).addReference "path:b".toList (.flag true)
  let later (s : Store) := (Call.resolve "path:c".toList).run s.resolver
    (s.resolver.host usualDepth) (s.state .empty)
  have built : (s.resolve token).map (·.1) = some (.ok (some (.object o))) := by decide +kernel
  have called : ((s.resolve token).bind fun p => later (prepared p.2)).map
      (fun q => (q.2.references.get? token, q.2.properties.get? ("ref".toList ++ ':' :: token))) =
        some (some (.object o), none) := by
    decide +kernel
  obtain ⟨⟨r, s'⟩, hrun, hr⟩ := Option.map_eq_some_iff.1 built
  obtain rfl : r = _ := hr
  rw [hrun, Option.bind_some] at called
  obtain ⟨⟨r, t⟩, hcall, ht⟩ := Option.map_eq_some_iff.1 called
  obtain ⟨hregistered, hname⟩ := Prod.mk.inj ht
  have hnew : s.IsNew o := fun id h => by cases h
  have hkept : s'.reference? token = some (.object o) := (reference?_of_built rfl hrun hnew).2
  have hset : Keeps token s' (s'.setProperty "path:a".toList "x".toList) := ⟨.setProperty .., rfl⟩
  have hadd : Keeps token (s'.setProperty "path:a".toList "x".toList) (prepared s') :=
    ⟨.addReference .., TextMap.get?_insert_of_ne _ _ (by decide)⟩
  have hkeeps : Keeps token (prepared s') ((prepared s').after t) := by
    refine ⟨.call hcall, hregistered.trans ?_⟩
    exact (hadd.2.trans (hset.2.trans hkept)).symm
  have hlater : Relation.ReflTransGen (Keeps token) s' ((prepared s').after t) :=
    ((Relation.ReflTransGen.single hset).tail hadd).tail hkeeps
  obtain ⟨hfetch, hexpand⟩ := fetch_constructed rfl hrun hnew (by decide) hlater
  have hdepth : usualDepth ≥ 2 := by simp [usualDepth]
  exact ⟨s', _, hrun, hnew, hlater, hfetch usualDepth,
    hexpand (by decide +kernel) (by decide) hname usualDepth hdepth⟩

/-- An object for a path with a line feed is not fetched back; and where a property has the name that an
object is fetched by, a reference expands to the property. -/
theorem fetch_constructed_departs :
    let s := standard ∅
    let stored := standard (.ofList [("ref:path:a".toList, "x".toList)])
    let broken : Object := ⟨0, "a\nb".toList, .path "a\nb".toList⟩
    let o : Object := ⟨0, "a".toList, .path "a".toList⟩
    (s.IsNew broken ∧ ∃ s', s.resolve "path:a\nb".toList = some (.ok (some (.object broken)), s') ∧
      (s'.resolve "ref:path:a\nb".toList).map (·.1) = some (.ok none)) ∧
    stored.IsNew o ∧ ∃ s', stored.resolve "path:a".toList = some (.ok (some (.object o)), s') ∧
      (s'.resolve "ref:path:a".toList).map (·.1) = some (.ok (some (.object o))) ∧
      (s'.expand "${ref:path:a}".toList).map (·.1) = some (.ok "x".toList) ∧ o.label ≠ "x".toList := by
  intro s stored broken o
  have lost : ((s.resolve "path:a\nb".toList).bind fun p =>
      (p.2.resolve "ref:path:a\nb".toList).map fun q => (p.1, q.1)) =
        some (.ok (some (.object broken)), .ok none) := by
    decide +kernel
  have hidden : ((stored.resolve "path:a".toList).bind fun p =>
      (p.2.resolve "ref:path:a".toList).bind fun q =>
        (p.2.expand "${ref:path:a}".toList).map fun t => (p.1, q.1, t.1)) =
      some (.ok (some (.object o)), .ok (some (.object o)), .ok "x".toList) := by
    decide +kernel
  have hnew : s.IsNew broken := fun id h => by cases h
  have hnew' : stored.IsNew o := fun id h => by cases h
  refine ⟨⟨hnew, ?_⟩, hnew', ?_⟩
  · obtain ⟨⟨r, s'⟩, hrun, h⟩ := Option.bind_eq_some_iff.1 lost
    obtain ⟨q, hq, h⟩ := Option.map_eq_some_iff.1 h
    obtain ⟨rfl, hq'⟩ := Prod.mk.inj h
    exact ⟨s', hrun, by rw [hq, Option.map_some, hq']⟩
  · obtain ⟨⟨r, s'⟩, hrun, h⟩ := Option.bind_eq_some_iff.1 hidden
    obtain ⟨q, hq, h⟩ := Option.bind_eq_some_iff.1 h
    obtain ⟨t, ht, h⟩ := Option.map_eq_some_iff.1 h
    obtain ⟨rfl, hq', ht'⟩ := by simpa only [Prod.mk.injEq] using h
    exact ⟨s', hrun, by rw [hq, Option.map_some, hq'], by rw [ht, Option.map_some, ht'], by decide⟩

end Store

end Interpolation
