import Interpolation.Proofs.Session.Depth
import Interpolation.Proofs.Session.Verbatim
import Mathlib.Logic.Relation

/-!
# What resolving a token registers

To resolve a token, operators and conditions look up names that stand in it, and such a name may be
resolved to a new object, which counts as no value but stays registered. Nothing else is registered.

* `TypeRegistry.FromText` and `ConditionRegistry.AsksForProperties` say what types and conditions may
  do; those that every host can offer do no more;
* `Resolver.Consults` lists the names that a token may lead to, `Resolver.Makes` says which object is
  constructed for a token;
* `Resolver.Adds` relates stocks between which only objects for ids of a kind have been registered;
  `Resolver.Searches` evaluations lead to such stocks, and store no property unless they find a text;
* `Resolver.searches_operandLookup`: lookups are among them, by induction on the depth; for this,
  `Resolver.spec_resolve_registering` says what one token does if the lookups for it are;
* `Store.resolve_registers` says what this means for a store.
-/

namespace Interpolation

/-! ## Types and conditions -/

/-- Types that construct objects from the text alone, or fail. -/
def TypeRegistry.FromText (types : TypeRegistry) : Prop :=
  ∀ name type, types.get? name = some type → ∀ arg,
    (∃ e, ∀ ps, type.construct ps arg = Eval.fail e) ∨
      ∃ label content, ∀ ps, type.construct ps arg = Eval.newObject label content

theorem TypeRegistry.fromText_standard : standard.FromText :=
  fun _ _ h => Strategy.construct_of_standard h

/-- Conditions that decide by their attributes alone, or by whether the property that one of them names
is set. -/
def ConditionRegistry.AsksForProperties (conditions : ConditionRegistry) : Prop :=
  ∀ name kind, conditions.get? name = some kind → ∀ a, kind.AsksFor a

theorem ConditionRegistry.asksForProperties_standard : standard.AsksForProperties :=
  fun _ _ h => ConditionKind.asksFor_of_standard h

namespace Resolver

/-- The usual chain, with types and conditions of these sorts. -/
structure IsUsual (r : Resolver) (first : Nat) : Prop where
  chain : r.chain = .standard first
  types : r.types.FromText
  conditions : r.conditions.AsksForProperties

/-- A name that is looked up to resolve a token, if it comes to that: the name in front of an operator,
or the property that a condition asks for. -/
inductive Consults (r : Resolver) (token : Text) : Text → Prop where
  | operator {op : Operator} {g : Groups} (h : recognize? op.grammar token = some g) :
      Consults r token (g.text 1)
  | condition {g : Groups} {kind : ConditionKind} {c : Condition} {name : Text}
      (h : recognize? ConditionToken.grammar token = some g)
      (known : r.conditions.get? (g.text 2) = some kind)
      (configured : ConditionToken.configure (g.text 2) (.ofKind kind)
        (Text.splitOn ',' (g.text 3)) = .ok c)
      (given : Condition.attribute? c.attributes "property" = some name) : Consults r token name

/-- An object is what a type constructs for a token. -/
def Makes (r : Resolver) (token : Text) (o : Object) : Prop :=
  ∃ name arg type, Text.splitOnce? Delimiter.colon.text token = some (name, arg) ∧
    r.types.get? name = some type ∧ ∀ ps, type.construct ps arg = Eval.newObject o.label o.content

end Resolver

/-- No dollar sign stands in the text of a property. -/
def Stock.Literal (k : Stock) : Prop :=
  ∀ name v, k.properties.get? name = some v → '$' ∉ v

/-- The next object has been constructed, and it is registered under an id. -/
def Stock.register (k : Stock) (id : Text) (o : Object) : Stock :=
  ⟨k.properties, k.references.insert id (.object o), k.objects + 1⟩

/-- What has no other outcomes than an evaluation meets its specifications, if it need not end. -/
theorem Eval.Spec.of_le {α : Type} {g : Guard} {k : Stock} {e e' : Eval α}
    {post : Except Error α → Stock → Prop} (h : Spec True g k e' post) (hle : e.Le e') :
    Spec True g k e post := by
  intro s hg hk
  cases hs : e s with
  | none => exact .inl ⟨rfl, trivial⟩
  | some o =>
    rcases h s hg hk with ⟨hnone, -⟩ | ⟨r, t, hr, hpost⟩
    · rw [hle s o hs] at hnone
      cases hnone
    · refine .inr ⟨r, t, ?_, hpost⟩
      rw [← hr, hle s o hs]

/-! ## Registered objects -/

namespace Resolver

variable {r : Resolver} {N N' : Text → Prop} {k k' k'' : Stock}

/-- Nothing has been registered but objects with a new identity, each under the id it is constructed
for, and only under ids of a kind. -/
structure Adds (r : Resolver) (N : Text → Prop) (k k' : Stock) : Prop where
  objects : k.objects ≤ k'.objects
  references : ∀ id, k'.references.get? id = k.references.get? id ∨
    N id ∧ ∃ o, k'.references.get? id = some (.object o) ∧ r.Makes id o ∧
      k.objects ≤ o.id ∧ o.id < k'.objects

namespace Adds

theorem refl (r : Resolver) (N : Text → Prop) (k : Stock) : r.Adds N k k :=
  ⟨Nat.le_refl _, fun _ => .inl rfl⟩

theorem mono (h : r.Adds N k k') (hN : ∀ id, N id → N' id) : r.Adds N' k k' :=
  ⟨h.objects, fun id => (h.references id).imp_right fun ⟨hid, ho⟩ => ⟨hN id hid, ho⟩⟩

theorem trans (h : r.Adds N k k') (h' : r.Adds N k' k'') : r.Adds N k k'' := by
  refine ⟨Nat.le_trans h.objects h'.objects, fun id => ?_⟩
  rcases h'.references id with hkept | ⟨hid, o, ho, hmade, hnew, hlt⟩
  · rw [hkept]
    refine (h.references id).imp_right fun ⟨hid, o, ho, hmade, hnew, hlt⟩ => ?_
    exact ⟨hid, o, ho, hmade, hnew, Nat.lt_of_lt_of_le hlt h'.objects⟩
  · exact .inr ⟨hid, o, ho, hmade, Nat.le_trans h.objects hnew, hlt⟩

/-- The next object, registered under its own id. -/
theorem insert {id : Text} {o : Object} (hid : N id) (hmade : r.Makes id o) (ho : o.id = k.objects) :
    r.Adds N k (k.register id o) := by
  refine ⟨Nat.le_succ _, fun other => ?_⟩
  by_cases h : other = id
  · subst h
    exact .inr ⟨hid, o, TextMap.get?_insert_self .., hmade, Nat.le_of_eq ho.symm, ho ▸ Nat.lt_succ_self _⟩
  · exact .inl (TextMap.get?_insert_of_ne _ _ h)

end Adds

/-- What an evaluation leaves that may register objects: without a text in its answer it has stored no
property. -/
structure Leaves {α : Type} (r : Resolver) (N : Text → Prop) (text? : α → Option Text) (k : Stock)
    (answer : Except Error α) (k' : Stock) : Prop where
  adds : r.Adds N k k'
  properties : ∀ a, answer = .ok a → text? a = none → k'.properties = k.properties

theorem Leaves.error {α : Type} {text? : α → Option Text} {x : Error} (h : r.Adds N k k') :
    r.Leaves N text? k (.error x) k' :=
  ⟨h, fun _ hx => by cases hx⟩

/-- The text of an answer, if it has one to work on. -/
def answerText (v : Option Value) : Option Text := v.bind Value.text?

theorem answerText_text (t : Text) : answerText (some (.text t)) ≠ none := by
  simp [answerText, Value.text?]

theorem answerText_flag (b : Bool) : answerText (some (.flag b)) ≠ none := by
  simp [answerText, Value.text?]

/-- Where no stored text has a reference in it, an evaluation registers nothing but objects under ids
of a kind, and stores a property only if it finds a text. -/
def Searches {α : Type} (r : Resolver) (N : Text → Prop) (text? : α → Option Text) (g : Guard)
    (e : Eval α) : Prop :=
  ∀ k : Stock, k.Literal → Eval.Spec True g k e (r.Leaves N text? k)

namespace Searches

variable {α β : Type} {text? : α → Option Text} {g : Guard} {e : Eval α}

theorem ofExcept (outcome : Except Error α) : Searches r N text? g (Eval.ofExcept outcome) :=
  fun k _ => .ofExcept ⟨.refl r N k, fun _ _ _ => rfl⟩

theorem pure (a : α) : Searches r N text? g (Pure.pure a) := ofExcept (.ok a)

theorem mono (h : Searches r N text? g e) (hN : ∀ id, N id → N' id) : Searches r N' text? g e :=
  fun k hk => (h k hk).mono fun _ _ hl => ⟨hl.adds.mono hN, hl.properties⟩

/-- A token that a chain is not resolving is in its hands. -/
theorem resolveOnce {scope : Scope} {balance : Balance} {token : Text} {e : Eval (Option Value)}
    (h : g.contains ⟨scope, token⟩ = false → Searches r N answerText (g.push ⟨scope, token⟩) e) :
    Searches r N answerText g (resolveOnce scope balance token e) := by
  intro k hk
  cases hg : g.contains ⟨scope, token⟩ with
  | false => exact Strategy.spec_resolveOnce hg (h hg k hk)
  | true =>
    refine (Searches.pure (r := r) (N := N) none k hk).congr fun s hs _ => ?_
    subst hs
    rw [run_resolveOnce_of_contains hg, Eval.run_pure]

/-- Strategies are tried as long as no property is stored. -/
theorem firstAnswer {host : Host} {token : Text} {ds : List Strategy}
    (h : ∀ d ∈ ds, Searches r N answerText g (d.evaluate host token)) :
    Searches r N answerText g (Strategy.firstAnswer ds host token) := by
  induction ds with
  | nil => exact .pure none
  | cons d ds ih =>
    intro k hk
    refine Strategy.spec_firstAnswer (h d List.mem_cons_self k hk) (fun _ _ hl => hl)
      (fun k' hl => ?_) fun _ _ hl => hl
    have hsame : k'.properties = k.properties := hl.properties none rfl rfl
    have hk' : k'.Literal := fun name v hv => hk name v (hsame ▸ hv)
    refine (ih (fun d hd => h d (List.mem_cons_of_mem _ hd)) k' hk').mono fun answer k'' hl' => ?_
    exact ⟨hl.adds.trans hl'.adds, fun a ha hn => (hl'.properties a ha hn).trans hsame⟩

/-- What is done with an operand: nothing is looked up any more if it has a value, and then there is an
answer with a text, or an error. -/
theorem operand {e : Eval Operand} {f : Operand → Eval (Option Value)}
    (he : Searches r N Operand.value? g e)
    (hset : ∀ v, ∃ outcome, f (.set v) = Eval.ofExcept outcome ∧
      ∀ a, outcome = .ok a → answerText a ≠ none)
    (hother : ∀ o, o.value? = none → Searches r N answerText g (f o)) :
    Searches r N answerText g (e >>= f) := by
  intro k hk
  refine (he k hk).bind (fun o k' hl => ?_) fun _ _ hl => .error hl.adds
  cases hv : o.value? with
  | some v =>
    obtain rfl : o = .set v := by cases o <;> simp_all [Operand.value?]
    obtain ⟨outcome, hf, htext⟩ := hset v
    rw [hf]
    exact .ofExcept ⟨hl.adds, fun a ha hn => absurd hn (htext a ha)⟩
  | none =>
    have hsame : k'.properties = k.properties := hl.properties o rfl hv
    have hk' : k'.Literal := fun name v hv => hk name v (hsame ▸ hv)
    refine (hother o hv k' hk').mono fun answer k'' hl' => ?_
    exact ⟨hl.adds.trans hl'.adds, fun a ha hn => (hl'.properties a ha hn).trans hsame⟩

end Searches

/-! ## Strategies -/

section Strategies

variable {g : Guard} {host : Host} {token name : Text} {depth first : Nat}

/-- What an operator does with the value of a property. -/
theorem searches_onValue {f : Text → Except Error Text}
    (h : r.Searches N Operand.value? g (Operand.lookup host.toProperties name)) :
    r.Searches N answerText g (Operator.onValue host name f) := by
  refine .operand h (fun v => ?_) fun o ho => ?_
  · refine ⟨(f v).map fun t => some (.text t), ?_, fun a ha => ?_⟩
    · simp only [Operand.value?]
      cases f v <;> rfl
    · cases hf : f v with
      | error x => simp [hf, Except.map] at ha
      | ok t =>
        rw [hf] at ha
        obtain rfl := Except.ok.inj ha
        exact answerText_text t
  · rw [ho]
    exact .pure none

/-- What an operator does with a property that may be unset. -/
theorem searches_orElse {unset : Eval (Option Value)}
    (h : r.Searches N Operand.value? g (Operand.lookup host.toProperties name))
    (hunset : r.Searches N answerText g unset) :
    r.Searches N answerText g (Operator.orElse host name unset) := by
  refine .operand h (fun v => ⟨.ok (some (.text v)), rfl, fun a ha => ?_⟩) fun o ho => ?_
  · obtain rfl := Except.ok.inj ha
    exact answerText_text v
  · cases o with
    | set v => cases ho
    | inFlight => exact .pure none
    | unset => exact hunset

theorem searches_storeProperty (name text : Text) : r.Searches N answerText g
    (Host.storeProperty name text >>= fun _ => pure (some (.text text))) := by
  intro k _
  have stored : Eval.Spec True g k (Host.storeProperty name text)
      (fun a k' => a = .ok () ∧ k' = { k with properties := k.properties.insert name text }) :=
    .storeProperty ⟨rfl, rfl⟩
  refine stored.bind ?_ fun _ _ h => by cases h.1
  rintro _ _ ⟨-, rfl⟩
  refine .pure ⟨⟨Nat.le_refl _, fun _ => .inl rfl⟩, fun a ha hn => ?_⟩
  obtain rfl := Except.ok.inj ha
  cases hn

/-- An operator looks the name in its token up. -/
theorem searches_operator (op : Operator)
    (h : ∀ name, r.Consults token name →
      r.Searches N Operand.value? g (Operand.lookup (r.host depth).toProperties name)) :
    r.Searches N answerText g (op.evaluate (r.host depth) token) := by
  rw [Operator.evaluate]
  cases hg : recognize? op.grammar token with
  | none => exact .pure none
  | some groups =>
    have lookup := h _ (.operator hg)
    cases op with
    | substring | transliterate | delete | replace => exact searches_onValue lookup
    | defaultValue => exact searches_orElse lookup (.pure _)
    | require => exact searches_orElse lookup (.ofExcept _)
    | setDefault =>
      refine searches_orElse lookup ?_
      rw [host_assign]
      exact searches_storeProperty _ _

/-- A condition looks up at most the property that it is given. -/
theorem searches_conditions (hr : r.conditions.AsksForProperties)
    (h : ∀ name, r.Consults token name →
      r.Searches N Operand.value? g (Operand.lookup (r.host depth).toProperties name)) :
    r.Searches N answerText g (ConditionToken.evaluate (r.host depth) token) := by
  rw [ConditionToken.evaluate]
  cases hg : recognize? ConditionToken.grammar token with
  | none => exact .pure none
  | some groups =>
    have hkind : (r.host depth).conditionKind? = r.conditions.get? := by cases depth <;> rfl
    simp only [hkind]
    cases hk : r.conditions.get? (groups.text 2) with
    | none => exact .pure none
    | some kind =>
      cases hc : ConditionToken.configure (groups.text 2) (.ofKind kind)
          (Text.splitOn ',' (groups.text 3)) with
      | error e =>
        simp only [hc]
        exact .ofExcept (.error e)
      | ok c =>
        simp only [hc, Eval.ofExcept_ok, pure_bind]
        obtain hkind' : c.kind = kind := ConditionToken.kind_of_configure hc
        rw [Condition.eval, hkind']
        rcases hr _ _ hk c.attributes with ⟨outcome, -, hholds⟩ | ⟨name, hname, hholds⟩
        · rw [hholds]
          cases outcome with
          | ok b => exact .pure _
          | error e => exact .ofExcept (.error e)
        · rw [hholds, bind_assoc]
          refine .operand (h name (.condition hg hk hc hname)) (fun v => ?_) fun o _ => .pure _
          refine ⟨.ok _, rfl, fun a ha => ?_⟩
          obtain rfl := Except.ok.inj ha
          exact answerText_flag _

/-- The component types construct an object for the token, if any. -/
theorem spec_componentTypes (hr : r.types.FromText) (k : Stock) : Eval.Spec True g k
    ((Strategy.componentTypes .colon).evaluate (r.host depth) token) (fun answer k' =>
      (answer = .ok none ∧ k' = k) ∨ ∃ o, answer = .ok (some (.object o)) ∧ r.Makes token o ∧
        o.id = k.objects ∧ k' = k.register token o) := by
  have htypes : (r.host depth).objectType? = r.types.get? := by cases depth <;> rfl
  rw [Strategy.evaluate, constructComponent, htypes, host_register]
  cases hs : Text.splitOnce? Delimiter.colon.text token with
  | none => exact .pure (.inl ⟨rfl, rfl⟩)
  | some part =>
    obtain ⟨name, arg⟩ := part
    cases ht : r.types.get? name with
    | none =>
      simp only [ht]
      exact .pure (.inl ⟨rfl, rfl⟩)
    | some type =>
      simp only [ht]
      rcases hr name type ht arg with ⟨e, he⟩ | ⟨label, content, hmade⟩
      · rw [he]
        exact .pure (.inl ⟨rfl, rfl⟩)
      · rw [hmade]
        rintro s hg rfl
        let o : Object := ⟨s.objects, label, content⟩
        exact .inr ⟨.ok (some (.object o)), _, rfl, hg,
          .inr ⟨o, rfl, ⟨name, arg, type, hs, ht, hmade⟩, rfl, rfl⟩⟩

/-- A registered value is fetched. -/
theorem searches_referencesBy :
    r.Searches N answerText g ((Strategy.referencesBy .colon).evaluate (r.host depth) token) := by
  rw [Strategy.referencesBy, Strategy.evaluate, host_reference?]
  cases PrefixKey.split? ⟨some "ref".toList, .colon⟩ token with
  | error e => exact .ofExcept (.error e)
  | ok found =>
    cases found with
    | none => exact .pure none
    | some part =>
      rintro k - s hg rfl
      exact .inr ⟨_, s, rfl, hg, .refl r N s.stock, fun _ _ _ => rfl⟩

theorem searches_encodeUrlBy :
    r.Searches N answerText g ((Strategy.encodeUrlBy .colon).evaluate host token) := by
  rw [Strategy.encodeUrlBy, Strategy.evaluate]
  cases PrefixKey.split? ⟨some "encodeURL".toList, .colon⟩ token with
  | error e => exact .ofExcept (.error e)
  | ok found => cases found <;> exact .pure _

end Strategies

/-! ## Tokens -/

section Tokens

variable {g : Guard} {token name id : Text} {depth first : Nat}

/-- The names that a token leads to, unless the chain is resolving them. -/
def Below (r : Resolver) (first : Nat) (g : Guard) (token id : Text) : Prop :=
  g.contains ⟨⟨first⟩, id⟩ = false ∧ Relation.TransGen r.Consults token id

/-- A token and the names that it leads to, unless the chain is resolving them. -/
def Reaches (r : Resolver) (first : Nat) (g : Guard) (token id : Text) : Prop :=
  g.contains ⟨⟨first⟩, id⟩ = false ∧ Relation.ReflTransGen r.Consults token id

theorem Reaches.below (h : r.Reaches first g name id) (hname : r.Consults token name) :
    r.Below first g token id :=
  ⟨h.1, .head' hname h.2⟩

theorem Below.of_push {f : Frame} (h : r.Below first (g.push f) token id) : r.Below first g token id :=
  ⟨Guard.not_contains_of_push h.1, h.2⟩

/-- While a token is in the hands of the chain, it is not registered. -/
theorem Below.ne (h : r.Below first (g.push ⟨⟨first⟩, token⟩) token id) : id ≠ token := by
  rintro rfl
  simpa [Guard.contains_push] using h.1

/-- What resolving a token leaves: the objects for the names in it, and then the object for the token
itself if that is the answer. -/
inductive Registers (r : Resolver) (first : Nat) (g : Guard) (token : Text) (k : Stock) :
    Except Error (Option Value) → Stock → Prop where
  | searched {answer : Except Error (Option Value)} {k' : Stock}
      (h : r.Leaves (r.Below first (g.push ⟨⟨first⟩, token⟩) token) answerText k answer k') :
      Registers r first g token k answer k'
  | constructed {k' : Stock} {o : Object} (hg : g.contains ⟨⟨first⟩, token⟩ = false)
      (h : r.Leaves (r.Below first (g.push ⟨⟨first⟩, token⟩) token) answerText k (.ok none) k')
      (made : r.Makes token o) (new : o.id = k'.objects) :
      Registers r first g token k (.ok (some (.object o))) (k'.register token o)

theorem Registers.leaves {k k' : Stock} {answer : Except Error (Option Value)}
    (h : r.Registers first g token k answer k') :
    r.Leaves (r.Reaches first g token) answerText k answer k' := by
  have reaches : ∀ id, r.Below first (g.push ⟨⟨first⟩, token⟩) token id → r.Reaches first g token id :=
    fun id hid => ⟨hid.of_push.1, hid.2.to_reflTransGen⟩
  cases h with
  | searched h => exact ⟨h.adds.mono reaches, h.properties⟩
  | constructed hg h made new =>
    refine ⟨(h.adds.mono reaches).trans ?_, fun _ _ _ => h.properties none rfl rfl⟩
    exact .insert ⟨hg, .refl⟩ made new

section Resolve

variable (hr : r.IsUsual first)
  (hl : ∀ name g, r.Searches (r.Reaches first g name) Operand.value? g
    (Operand.lookup (r.host depth).toProperties name))

include hr hl

/-- The strategies in front of the component types register what the names in a token lead to. -/
theorem searches_before : ∀ d ∈ [Strategy.referencesBy .colon, .encodeUrlBy .colon,
      .operators ⟨first + 3⟩, .logical, .conditions],
    r.Searches (r.Below first g token) answerText g (d.evaluate (r.host depth) token) := by
  have lookup : ∀ name, r.Consults token name → r.Searches (r.Below first g token) Operand.value? g
      (Operand.lookup (r.host depth).toProperties name) :=
    fun name hname => (hl name g).mono fun id hid => hid.below hname
  intro d hd
  simp only [List.mem_cons, List.not_mem_nil, or_false] at hd
  rcases hd with rfl | rfl | rfl | rfl | rfl
  · exact searches_referencesBy
  · exact searches_encodeUrlBy
  · rw [Strategy.operators, Strategy.evaluate]
    refine .resolveOnce fun _ => .firstAnswer fun d hd => ?_
    obtain ⟨op, -, rfl⟩ := List.mem_map.1 hd
    rw [Strategy.evaluate]
    exact searches_operator op fun name hname =>
      (hl name _).mono fun id hid => (hid.below hname).of_push
  · rw [Strategy.evaluate]
    exact .pure _
  · rw [Strategy.evaluate]
    exact searches_conditions hr.conditions lookup

/-- A token is resolved by looking up names in it and, in the end, by an object for it. -/
theorem spec_resolve_registering {k : Stock} (hk : k.Literal) (g : Guard) (token : Text) :
    Eval.Spec True g k (r.resolve (r.host depth) token) (r.Registers first g token k) := by
  rw [resolve, hr.chain, Chain.evaluate_eq]
  cases hg : g.contains ⟨⟨first⟩, token⟩ with
  | true =>
    refine (Eval.Spec.pure (a := none) ?_).congr fun s hs _ => ?_
    · exact .searched ⟨.refl _ _ k, fun _ _ _ => rfl⟩
    · subst hs
      rw [Chain.standard, run_resolveOnce_of_contains hg, Eval.run_pure]
  | false =>
    refine Strategy.spec_resolveOnce hg ?_
    let before : List Strategy := [.referencesBy .colon, .encodeUrlBy .colon,
      .operators ⟨first + 3⟩, .logical, .conditions]
    have searched : r.Searches (r.Below first (g.push ⟨⟨first⟩, token⟩) token) answerText
        (g.push ⟨⟨first⟩, token⟩) (Strategy.firstAnswer before (r.host depth) token) :=
      .firstAnswer (searches_before hr hl)
    show Eval.Spec True _ k (Strategy.firstAnswer (before ++ [.componentTypes .colon]) _ _) _
    rw [Strategy.firstAnswer_append]
    refine (searched k hk).bind (fun a k' h => ?_) fun _ _ h => .searched h
    cases a with
    | some v => exact .pure (.searched h)
    | none =>
      show Eval.Spec True _ k' (Strategy.firstAnswer [.componentTypes .colon] _ _) _
      rw [Strategy.firstAnswer_singleton]
      refine (spec_componentTypes hr.types k').mono fun answer l hanswer => ?_
      rcases hanswer with ⟨rfl, rfl⟩ | ⟨o, rfl, made, new, rfl⟩
      · exact .searched h
      · exact .constructed hg h made new

end Resolve

/-- Where it ends, expanding a text without dollar signs gives the same text. -/
theorem spec_expand_literal {k : Stock} {v : Text} (hv : '$' ∉ v) (g : Guard) (depth : Nat) :
    Eval.Spec True g k (Reference.expand (r.host depth) v) fun t k' => t = .ok v ∧ k' = k := by
  have literal : ∀ depth, Eval.Spec True g k (Reference.expand (r.host (depth + 1)) v)
      fun t k' => t = .ok v ∧ k' = k := by
    intro depth
    rw [host, expand_eq_pure r none depth hv]
    exact .pure ⟨rfl, rfl⟩
  cases depth with
  | succ depth => exact literal depth
  | zero =>
    have hle : (r.host 0).Le (r.host 1) :=
      le_host (le_finder_zero r _) fun _ => Eval.exhausted_le _
    exact Eval.Spec.of_le (literal 0) (Eval.le_congruence.expand hle.related v)

/-- The value of a property that is not in flight registers what its name leads to, if lookups do. -/
theorem spec_propertyValue_registering (hr : r.IsUsual first)
    (hl : ∀ name g, r.Searches (r.Reaches first g name) Operand.value? g
      (Operand.lookup (r.host depth).toProperties name)) {k : Stock} (hk : k.Literal)
    (hflight : (g.contains ⟨r.scope, name⟩ && k.properties.contains name) = false) :
    Eval.Spec True g k (r.propertyValue (r.host depth) name)
      (r.Leaves (r.Reaches first g name) answerText k) := by
  cases hv : k.properties.get? name with
  | none =>
    exact spec_propertyValue_of_unset hv
      ((spec_resolve_registering hr hl hk g name).mono fun _ _ h => h.leaves)
  | some v =>
    rw [TextMap.contains, hv, Option.isSome_some, Bool.and_true] at hflight
    refine (spec_propertyValue_of_stored hv hflight
      (spec_expand_literal (hk name v hv) _ depth)).mono ?_
    rintro _ _ ⟨rfl, rfl⟩
    exact ⟨.refl r _ _, fun _ _ _ => rfl⟩

/-- At every depth a name that is looked up registers what it leads to. -/
theorem searches_operandLookup (hr : r.IsUsual first) (depth : Nat) : ∀ name g,
    r.Searches (r.Reaches first g name) Operand.value? g
      (Operand.lookup (r.host depth).toProperties name) := by
  -- a condition may ask for a longer name than the token, so the length of names does not decrease
  induction depth using Nat.strongRecOn with
  | ind depth ih =>
  intro name g k hk
  cases hflight : g.contains ⟨r.scope, name⟩ && k.properties.contains name with
  | true =>
    refine (Searches.pure (r := r) (N := r.Reaches first g name) Operand.inFlight k hk).congr ?_
    rintro s rfl rfl
    rw [host, run_operandLookup_of_inFlight none depth hflight, Eval.run_pure]
  | false =>
    have value : ∀ n, depth = n + 1 → Eval.Spec True g k (r.propertyValue (r.host n) name)
        (r.Leaves (r.Reaches first g name) answerText k) :=
      fun n hn => spec_propertyValue_registering hr (ih n (by omega)) hk hflight
    refine spec_operandLookup hflight (fun _ => trivial) value (fun v k' h => ?_) fun _ _ h => ?_
    · refine ⟨h.adds, fun o ho hnone => h.properties v rfl ?_⟩
      obtain rfl := Except.ok.inj ho
      cases hv : v.bind Value.text? with
      | none => exact hv
      | some t =>
        rw [hv] at hnone
        cases hnone
    · exact .error h.adds

end Tokens

end Resolver

/-! ## Stores -/

namespace Store

/-- Where no text of a property has a dollar sign in it, resolving a token registers objects that are
new, each under the id it is constructed for. Other ids than the token are names that the token leads to;
and the token itself is registered anew only if the answer is the object constructed for it, which it is
then bound to. -/
theorem resolve_registers {s : Store} {first : Nat} (hs : s.resolver.IsUsual first)
    (hplain : ∀ name v, s.property? name = some v → '$' ∉ v) {depth : Nat} {g : Guard} {token : Text}
    {answer : Except Error (Option Value)} {t : State}
    (hrun : s.resolver.resolveAt depth token (s.state g) = some (answer, t)) :
    (∀ id ≠ token, (s.after t).reference? id ≠ s.reference? id →
      Relation.TransGen s.resolver.Consults token id ∧ ∃ o,
        (s.after t).reference? id = some (.object o) ∧ s.resolver.Makes id o ∧ s.objects ≤ o.id) ∧
    ((s.after t).reference? token ≠ s.reference? token → ∃ o, answer = .ok (some (.object o)) ∧
      (s.after t).reference? token = some (.object o) ∧ s.resolver.Makes token o ∧
        s.objects ≤ o.id) := by
  have spec := Resolver.spec_resolve_registering hs (Resolver.searches_operandLookup hs depth)
    (k := s.stock) hplain g token
  have registers := spec.of_run (s := s.state g) rfl rfl hrun
  constructor
  · intro id hid hchanged
    rcases registers.leaves.adds.references id with hkept | ⟨hreach, o, ho, made, new, -⟩
    · exact absurd hkept hchanged
    · have hpath := (Relation.reflTransGen_iff_eq_or_transGen.1 hreach.2).resolve_left hid
      exact ⟨hpath, o, ho, made, new⟩
  · intro hchanged
    generalize hstock : t.stock = k' at registers
    have hlater : (s.after t).reference? token = k'.references.get? token := by rw [← hstock]; rfl
    rw [hlater] at hchanged ⊢
    cases registers with
    | searched h =>
      rcases h.adds.references token with hkept | ⟨hbelow, -⟩
      · exact absurd hkept hchanged
      · exact absurd rfl hbelow.ne
    | constructed hg h made new =>
      exact ⟨_, rfl, TextMap.get?_insert_self .., made, new ▸ h.adds.objects⟩

/-- The name in front of an operator is resolved to an object as well. -/
theorem resolve_registers_path :
    let s := standard (.ofList [("n".toList, "v".toList)])
    let token := "path:a/b/c".toList
    let id := "path:a".toList
    ∃ o p t, s.resolver.resolveAt usualDepth token (s.state .empty) = some (.ok (some (.object o)), t) ∧
      (s.after t).reference? token = some (.object o) ∧ s.resolver.Makes token o ∧
      (s.after t).reference? id = some (.object p) ∧ s.resolver.Makes id p ∧
      Relation.TransGen s.resolver.Consults token id := by
  intro s token id
  let o : Object := ⟨1, "a/b/c".toList, .path "a/b/c".toList⟩
  let p : Object := ⟨0, "a".toList, .path "a".toList⟩
  have run : (s.resolver.resolveAt usualDepth token (s.state .empty)).map
      (fun q => (q.1, q.2.references.get? token, q.2.references.get? id)) =
        some (.ok (some (.object o)), some (.object o), some (.object p)) := by
    decide +kernel
  obtain ⟨⟨answer, t⟩, hrun, h⟩ := Option.map_eq_some_iff.1 run
  simp only [Prod.mk.injEq] at h
  obtain ⟨rfl, htoken, hid⟩ := h
  have hplain : ∀ name v, s.property? name = some v → '$' ∉ v := by
    intro name v hv
    have hentry : (name, v) ∈ [("n".toList, "v".toList)] := TextMap.mem_entries_of_find? hv
    obtain ⟨-, rfl⟩ := Prod.mk.inj (List.mem_singleton.1 hentry)
    decide
  have husual : s.resolver.IsUsual 1 :=
    ⟨rfl, TypeRegistry.fromText_standard, ConditionRegistry.asksForProperties_standard⟩
  obtain ⟨hothers, hown⟩ := resolve_registers husual hplain hrun
  have hid' : (s.after t).reference? id = some (.object p) := hid
  have htoken' : (s.after t).reference? token = some (.object o) := htoken
  have hchanged : (s.after t).reference? id ≠ s.reference? id := by
    rw [hid']
    exact Option.some_ne_none _
  have hchanged' : (s.after t).reference? token ≠ s.reference? token := by
    rw [htoken']
    exact Option.some_ne_none _
  obtain ⟨hpath, p', hp', hmakes, -⟩ := hothers id (by decide) hchanged
  obtain ⟨o', ho', -, hmakes', -⟩ := hown hchanged'
  obtain rfl : p = p' := by simpa [hid'] using hp'
  obtain rfl : o = o' := by simpa using ho'
  exact ⟨o, p, t, hrun, htoken', hmakes', hid', hmakes, hpath⟩

/-- Resolving a token binds another id as well, and a type that looks properties up binds even ids that
the token does not lead to. -/
theorem resolve_registers_departs :
    let s := standard ∅
    let token := "path:a/b/c".toList
    let id := "path:a".toList
    let echo : ObjectType := ⟨"echo".toList, .ofContext fun ps arg => do
      match ← ps.lookup arg with
      | some v => pure (v, .other)
      | none => Eval.fail (.failure (arg ++ " is unset".toList))⟩
    let other : Store := ofChain (.standard 1) (TypeRegistry.standard.register echo) .standard ∅
    let asking := "echo:path:x".toList
    (id ≠ token ∧ s.reference? id = none ∧
      ∃ s', s.resolve token = some (.ok (some (.object ⟨1, "a/b/c".toList, .path "a/b/c".toList⟩)), s') ∧
        s'.reference? id = some (.object ⟨0, "a".toList, .path "a".toList⟩)) ∧
    (∀ name, ¬other.resolver.Consults asking name) ∧ other.reference? "path:x".toList = none ∧
      ∃ s', other.resolve asking = some (.ok none, s') ∧
        s'.reference? "path:x".toList = some (.object ⟨0, "x".toList, .path "x".toList⟩) := by
  intro s token id echo other asking
  have run : (s.resolve token).map (fun q => (q.1, q.2.reference? id)) =
      some (.ok (some (.object ⟨1, "a/b/c".toList, .path "a/b/c".toList⟩)),
        some (.object ⟨0, "a".toList, .path "a".toList⟩)) := by
    decide +kernel
  have run' : (other.resolve asking).map (fun q => (q.1, q.2.reference? "path:x".toList)) =
      some (.ok none, some (.object ⟨0, "x".toList, .path "x".toList⟩)) := by
    decide +kernel
  have unread : ∀ op ∈ Operator.all, recognize? op.grammar asking = none := by decide +kernel
  have untested : recognize? ConditionToken.grammar asking = none := by decide +kernel
  refine ⟨⟨by decide, rfl, ?_⟩, ?_, rfl, ?_⟩
  · obtain ⟨⟨answer, s'⟩, hrun, h⟩ := Option.map_eq_some_iff.1 run
    obtain ⟨rfl, h⟩ := Prod.mk.inj h
    exact ⟨s', hrun, h⟩
  · rintro name (⟨h⟩ | ⟨h⟩)
    · rw [unread _ (Operator.mem_all _)] at h
      cases h
    · rw [untested] at h
      cases h
  · obtain ⟨⟨answer, s'⟩, hrun, h⟩ := Option.map_eq_some_iff.1 run'
    obtain ⟨rfl, h⟩ := Prod.mk.inj h
    exact ⟨s', hrun, h⟩

end Store

end Interpolation
