import Interpolation.Proofs.Strategy.Conditions

/-!
# What a strategy does with a token

Every built-in strategy other than a chain does one of a few things with a token. Which one depends
on the token alone.

* `Plan` lists these things, `Plan.run` does them;
* `Plan.Proper` says what the plans of the built-in strategies promise: a property that is looked
  up has a shorter name than the token, and only an operand without a value leads to no answer or
  to an object;
* `Strategy.Follows` says that a strategy has a proper plan for every token; `Operator.follows` and
  its companions: the built-in strategies do;
* `Strategy.Assembled` says which strategies are built in, with chains of them among them.
-/

namespace Interpolation

/-- What a strategy does with a token. -/
inductive Plan where
  /-- It knows the outcome. -/
  | done (r : Except Error (Option Value))
  /-- It gives the value registered under an id. -/
  | reference (id : Text)
  /-- It looks a property up. -/
  | operand (name : Text) (answer : Operand → Except Error (Option Value))
  /-- It looks a property up, and gives it a value if it is unset. -/
  | setDefault (name text : Text)
  /-- It constructs an object and registers it under the token. -/
  | construct (label : Text) (content : Content)

namespace Plan

/-- Carries a plan out. -/
def run (host : Host) (token : Text) : Plan → Eval (Option Value)
  | done r => Eval.ofExcept r
  | reference id => Host.storedReference id
  | operand name answer => do
    let o ← Operand.lookup host.toProperties name
    Eval.ofExcept (answer o)
  | setDefault name text => do
    match ← Operand.lookup host.toProperties name with
    | .set value => pure (some (.text value))
    | .inFlight => pure none
    | .unset => do
      Host.storeProperty name text
      pure (some (.text text))
  | construct label content => do
    let o ← Eval.newObject label content
    Host.storeReference token (.object o)
    pure (some (.object o))

/-- What the plans of the built-in strategies promise. The operators are those in use. -/
inductive Proper (ops : Operator → Prop) (token : Text) : Plan → Prop where
  | done {r : Except Error (Option Value)} (harmless : Error.Harmless r) : Proper ops token (.done r)
  | reference (id : Text) : Proper ops token (.reference id)
  | operand {name : Text} {answer : Operand → Except Error (Option Value)}
      (shorter : name.length < token.length) (harmless : ∀ o, Error.Harmless (answer o))
      (text : ∀ value a, answer (.set value) = .ok a → (a.bind Value.text?).isSome) :
      Proper ops token (.operand name answer)
  | setDefault {name : Text} (text : Text) (allowed : ops .setDefault)
      (shorter : name.length < token.length) : Proper ops token (.setDefault name text)
  | construct (label : Text) (content : Content) : Proper ops token (.construct label content)

end Plan

/-- A host of a session of a store with the standard registries. -/
structure Host.IsStandard (host : Host) : Prop where
  assign : host.assign = Host.storeProperty
  objectType? : host.objectType? = TypeRegistry.standard.get?
  conditionKind? : host.conditionKind? = ConditionRegistry.standard.get?
  reference? : host.reference? = Host.storedReference
  register : host.register = Host.storeReference

/-- A strategy that carries a proper plan out for every token. -/
def Strategy.Follows (ops : Operator → Prop) (s : Strategy) : Prop :=
  ∀ token, ∃ p : Plan, p.Proper ops token ∧
    ∀ host : Host, host.IsStandard → s.evaluate host token = p.run host token

/-- The strategies that are built from the built-in ones: some of the operators, the other
strategies, and chains whose scopes are restricted. -/
inductive Strategy.Assembled (ops : Operator → Prop) (scopes : Scope → Prop) : Strategy → Prop where
  | operator {op : Operator} (h : ops op) : Assembled ops scopes (.operator op)
  | logical : Assembled ops scopes .logical
  | conditions : Assembled ops scopes .conditions
  | references (key : PrefixKey) : Assembled ops scopes (.references key)
  | encodeUrl (key : PrefixKey) : Assembled ops scopes (.encodeUrl key)
  | componentTypes (d : Delimiter) : Assembled ops scopes (.componentTypes d)
  | chain {scope : Scope} (balance : Balance) {delegates : List Strategy} (h : scopes scope)
      (hd : ∀ d ∈ delegates, Assembled ops scopes d) :
      Assembled ops scopes (.chain scope balance delegates)

/-! ## Operators -/

namespace Operator

variable {ops : Operator → Prop}

/-- The property that an operator works on has a shorter name than the token. -/
theorem length_lt_of_recognize? {op : Operator} {token : Text} {g : Groups}
    (h : recognize? op.grammar token = some g) : (g.text 1).length < token.length := by
  cases op with
  | substring | defaultValue | setDefault | transliterate | require | replace =>
    exact Interpolation.length_lt_of_recognize? rfl (by decide) (by decide) (by decide) h
  | delete d =>
    rcases d with ⟨_ | _, _ | _⟩ <;>
      exact Interpolation.length_lt_of_recognize? rfl (by decide) (by decide) (by decide) h

/-- The plan of an operator on the value of a property. -/
def planOnValue (name : Text) (f : Text → Except Error Text) : Plan :=
  .operand name fun o =>
    match o.value? with
    | none => .ok none
    | some value => (f value).map fun t => some (.text t)

theorem run_planOnValue (host : Host) (token name : Text) (f : Text → Except Error Text) :
    (planOnValue name f).run host token = onValue host name f := by
  refine bind_congr fun o => ?_
  cases o with
  | unset | inFlight => rfl
  | set value =>
    show Eval.ofExcept ((f value).map _) = Eval.ofExcept (f value) >>= _
    cases f value <;> rfl

theorem proper_planOnValue {token name : Text} {f : Text → Except Error Text}
    (h : name.length < token.length) (hf : ∀ value, Error.Harmless (f value)) :
    (planOnValue name f).Proper ops token := by
  refine .operand h (fun o => ?_) fun value a ha => ?_
  · cases o.value? with
    | none => exact Error.harmless_ok none
    | some value => exact (hf value).map _
  · simp only [Operand.value?] at ha
    cases hv : f value with
    | error e => simp [hv, Except.map] at ha
    | ok t =>
      rw [hv] at ha
      obtain rfl := Except.ok.inj ha
      rfl

/-- The plan of an operator that knows what to answer for a property that is unset. -/
def planOrElse (name : Text) (unset : Except Error (Option Value)) : Plan :=
  .operand name fun
    | .set value => .ok (some (.text value))
    | .inFlight => .ok none
    | .unset => unset

theorem run_planOrElse (host : Host) (token name : Text) (unset : Except Error (Option Value)) :
    (planOrElse name unset).run host token = orElse host name (Eval.ofExcept unset) := by
  refine bind_congr fun o => ?_
  cases o <;> rfl

theorem proper_planOrElse {token name : Text} {unset : Except Error (Option Value)}
    (h : name.length < token.length) (hu : Error.Harmless unset) :
    (planOrElse name unset).Proper ops token := by
  refine .operand h (fun o => ?_) fun value a ha => ?_
  · cases o with
    | set value => exact Error.harmless_ok _
    | inFlight => exact Error.harmless_ok _
    | unset => exact hu
  · obtain rfl := Except.ok.inj ha
    rfl

theorem harmless_slice (name value : Text) (start stop : Nat) :
    Error.Harmless (slice name value start stop) := by
  rw [slice]
  split
  · exact Error.harmless_error id
  · exact Error.harmless_ok _

theorem harmless_deletion (d : Deletion) (glob value : Text) :
    Error.Harmless (d.apply glob value) := by
  rw [Deletion.apply]
  split
  · exact Error.harmless_pattern _
  · exact Error.harmless_ok _

theorem harmless_replacement (every : Bool) (glob replacement value : Text) :
    Error.Harmless (Replacement.apply every glob replacement value) := by
  rw [Replacement.apply]
  split
  · exact Error.harmless_pattern _
  · exact Error.harmless_ok _

/-- The plan of an operator for the groups of its token. -/
def plan (op : Operator) (g : Groups) : Plan :=
  let name := g.text 1
  match op with
  | .substring =>
    planOnValue name fun value =>
      slice name value (readIndex (g.text 2)) (((g.get? 3).map readIndex).getD value.length)
  | .defaultValue => planOrElse name (.ok (some (.text (g.text 2))))
  | .setDefault => .setDefault name (g.text 2)
  | .transliterate =>
    planOnValue name fun value =>
      .ok (Transliteration.apply (Transliteration.expandSet (g.text 2))
        (Transliteration.expandSet (g.text 3)) value)
  | .require =>
    planOrElse name (.error (.failure (if (g.text 2).isEmpty then missing name else g.text 2)))
  | .delete d => planOnValue name (d.apply (g.text 2))
  | .replace =>
    planOnValue name (Replacement.apply (g.text 2 = ['/', '/']) (g.text 3) (g.text 4))

theorem run_plan (op : Operator) {host : Host} (hh : host.IsStandard) (token : Text) (g : Groups) :
    (op.plan g).run host token = op.apply host g := by
  cases op with
  | substring | transliterate | delete | replace => exact run_planOnValue ..
  | defaultValue | require => exact run_planOrElse ..
  | setDefault =>
    refine bind_congr fun o => ?_
    cases o with
    | set | inFlight => rfl
    | unset => rw [hh.assign]

theorem proper_plan {op : Operator} (h : ops op) {token : Text} {g : Groups}
    (hg : (g.text 1).length < token.length) : (op.plan g).Proper ops token := by
  cases op with
  | substring => exact proper_planOnValue hg fun value => harmless_slice ..
  | defaultValue => exact proper_planOrElse hg (Error.harmless_ok _)
  | setDefault => exact .setDefault _ h hg
  | transliterate => exact proper_planOnValue hg fun value => Error.harmless_ok _
  | require => exact proper_planOrElse hg (Error.harmless_failure _)
  | delete d => exact proper_planOnValue hg fun value => harmless_deletion ..
  | replace => exact proper_planOnValue hg fun value => harmless_replacement ..

theorem follows {op : Operator} (h : ops op) : (Strategy.operator op).Follows ops := by
  intro token
  cases hg : recognize? op.grammar token with
  | none =>
    refine ⟨.done (.ok none), .done (Error.harmless_ok _), fun host _ => ?_⟩
    rw [Strategy.evaluate, evaluate, hg]
    rfl
  | some g =>
    refine ⟨op.plan g, proper_plan h (length_lt_of_recognize? hg), fun host hh => ?_⟩
    rw [Strategy.evaluate, evaluate, hg, run_plan op hh]

end Operator

/-! ## The other strategies -/

namespace Strategy

variable {ops : Operator → Prop} {scopes : Scope → Prop}

/-- A strategy that knows the outcome. -/
theorem follows_of_done {s : Strategy} (h : ∀ token, ∃ r, Error.Harmless r ∧
    ∀ host, s.evaluate host token = Eval.ofExcept r) : s.Follows ops := by
  intro token
  obtain ⟨r, hr, hs⟩ := h token
  exact ⟨.done r, .done hr, fun host _ => hs host⟩

theorem logical_follows : Strategy.logical.Follows ops :=
  follows_of_done fun token => ⟨.ok ((Logical.evaluate? token).map .flag), Error.harmless_ok _,
    fun _ => rfl⟩

theorem harmless_split? (key : PrefixKey) (token : Text) : Error.Harmless (key.split? token) := by
  have hg : Error.Harmless (key.pattern.groups? token) := by
    rw [TokenPattern.groups?]
    split
    · exact Error.harmless_ok _
    · split
      · exact Error.harmless_error id
      · split
        · exact Error.harmless_ok _
        · exact Error.harmless_pattern _
  refine hg.bind fun found _ => ?_
  cases found with
  | none => exact Error.harmless_ok _
  | some g =>
    have hc : Error.Harmless (key.canInterpret (g.text 1)) := by
      rw [PrefixKey.canInterpret]
      split
      · exact Error.harmless_error id
      · exact Error.harmless_ok _
    refine hc.bind fun b _ => ?_
    cases b with
    | true => exact Error.harmless_ok _
    | false => exact Error.harmless_ok _

theorem references_follows (key : PrefixKey) : (Strategy.references key).Follows ops := by
  intro token
  have h := harmless_split? key token
  cases hs : key.split? token with
  | error e =>
    refine ⟨.done (.error e), .done (Error.harmless_error ?_), fun host _ => ?_⟩
    · exact h.not_imbalance e hs
    · rw [evaluate, hs]
      rfl
  | ok found =>
    cases found with
    | none => exact ⟨.done (.ok none), .done (Error.harmless_ok _), fun host _ => by
        rw [evaluate, hs]
        rfl⟩
    | some part => exact ⟨.reference part.2, .reference part.2, fun host hh => by
        rw [evaluate, hs, hh.reference?]
        rfl⟩

theorem encodeUrl_follows (key : PrefixKey) : (Strategy.encodeUrl key).Follows ops := by
  refine follows_of_done fun token => ?_
  have h := harmless_split? key token
  cases hs : key.split? token with
  | error e =>
    refine ⟨.error e, Error.harmless_error (h.not_imbalance e hs), fun host => ?_⟩
    rw [evaluate, hs]
    rfl
  | ok found =>
    refine ⟨.ok (found.bind fun part => (Url.normalize part.2).toOption.map .text),
      Error.harmless_ok _, fun host => ?_⟩
    rw [evaluate, hs]
    cases found <;> rfl

/-- The types of the standard registry. -/
theorem mem_types_standard {name : Text} {type : ObjectType}
    (h : TypeRegistry.standard.get? name = some type) :
    type ∈ [ObjectType.url, ObjectType.path, ObjectType.regex] := by
  have := List.mem_map_of_mem (f := Prod.snd) (TextMap.mem_entries_of_find? h)
  exact this

/-- A type of the standard registry constructs its objects from the text alone. -/
theorem construct_of_standard {name : Text} {type : ObjectType}
    (h : TypeRegistry.standard.get? name = some type) (arg : Text) :
    (∃ e, ∀ ps, type.construct ps arg = Eval.fail e) ∨
      ∃ label content, ∀ ps, type.construct ps arg = Eval.newObject label content := by
  have h := mem_types_standard h
  simp only [List.mem_cons, List.not_mem_nil, or_false] at h
  rcases h with rfl | rfl | rfl
  · cases hu : Url.normalize arg with
    | error fault => exact .inl ⟨_, fun _ => by simp only [ObjectType.construct, ObjectType.url, hu]; rfl⟩
    | ok address => exact .inr ⟨_, _, fun _ => by simp only [ObjectType.construct, ObjectType.url, hu]; rfl⟩
  · exact .inr ⟨_, _, fun _ => rfl⟩
  · cases hp : Pattern.read arg with
    | error fault => exact .inl ⟨_, fun _ => by simp only [ObjectType.construct, ObjectType.regex, hp]; rfl⟩
    | ok p => exact .inr ⟨_, _, fun _ => by simp only [ObjectType.construct, ObjectType.regex, hp]; rfl⟩

theorem componentTypes_follows (d : Delimiter) : (Strategy.componentTypes d).Follows ops := by
  intro token
  have none_of {h : ∀ host : Host, host.IsStandard → constructComponent d host token = pure none} :
      ∃ p : Plan, p.Proper ops token ∧ ∀ host : Host, host.IsStandard →
        (Strategy.componentTypes d).evaluate host token = p.run host token :=
    ⟨.done (.ok none), .done (Error.harmless_ok _), fun host hh => by rw [evaluate, h host hh]; rfl⟩
  cases hs : Text.splitOnce? d.text token with
  | none => exact none_of (h := fun host _ => by rw [constructComponent, hs])
  | some part =>
    cases ht : TypeRegistry.standard.get? part.1 with
    | none => exact none_of (h := fun host hh => by simp only [constructComponent, hs, hh.objectType?, ht])
    | some type =>
      rcases construct_of_standard ht part.2 with ⟨e, he⟩ | ⟨label, content, hc⟩
      · exact none_of (h := fun host hh => by
          simp only [constructComponent, hs, hh.objectType?, ht, he]
          rfl)
      · refine ⟨.construct label content, .construct label content, fun host hh => ?_⟩
        simp only [evaluate, constructComponent, hs, hh.objectType?, ht, hc, hh.register]
        rfl

/-- The list of attributes in a token is shorter than the token. -/
theorem length_lt_of_condition {token : Text} {g : Groups}
    (h : recognize? ConditionToken.grammar token = some g) : (g.text 3).length < token.length := by
  obtain ⟨-, w, hw, -, rfl⟩ := exists_way_of_recognize? h
  obtain ⟨x, hx, y, hy, rfl⟩ := Pattern.mem_ways_seqs_cons.1 hw
  obtain ⟨name, r, hr, -, y', hy', rfl⟩ := (Pattern.mem_ways_seqs_group rfl).1 hy
  obtain ⟨sign, r', hr', -, hy''⟩ := (Pattern.mem_ways_seqs_plain rfl).1 hy'
  obtain ⟨list, r'', hr'', -, z, hz, rfl⟩ := (Pattern.mem_ways_seqs_group rfl).1 hy''
  have marksX : ∀ m ∈ x.marks, m.number ≠ 3 := by
    intro m hm he
    have := Pattern.number_mem_of_mem_marks _ _ x hx m hm
    rw [he] at this
    exact absurd this (by decide)
  have marksZ : ∀ m ∈ z.marks, m.number ≠ 3 := by
    intro m hm
    exact absurd (Pattern.number_mem_of_mem_marks _ _ z hz m hm) (by simp [Pattern.groupNumbers,
      Pattern.seqs, Grammar.sign])
  have span := Way.span?_catching 3 ((x.stop.past name r).past sign r') list r''
  rw [← Way.span?_andThen_left marksZ,
    ← Way.span?_andThen_right (Way.marks_catching_ne (s := x.stop) (u := name) (r := r)
      (show (3 : Nat) ≠ 2 by decide)),
    ← Way.span?_andThen_right marksX] at span
  rw [Pattern.text_groupsOf span (by decide)]
  refine Nat.lt_of_le_of_lt (Pattern.length_slice_le ..) ?_
  have hwidth : 1 ≤ r''.length := Pattern.width_le_of_mem_ways hz
  obtain ⟨sure, hs, -, -⟩ := Pattern.takes_of_mem_ways _ _ x hx
  have htoken := congrArg List.length hs
  have hrest := congrArg List.length hr
  have hrest' := congrArg List.length hr'
  have hrest'' := congrArg List.length hr''
  simp only [Place.start, Place.past_rest, List.length_append] at htoken hrest hrest' hrest''
  omega

/-- The test of a condition, possibly negated, whose attributes are shorter than the token. -/
theorem exists_plan_of_test {token name : Text} {c : Condition} {n : Nat}
    (hk : ConditionRegistry.standard.get? name = some c.kind) (ha : c.attributes.Within n)
    (hn : n < token.length) (negated : Bool) : ∃ p : Plan, p.Proper ops token ∧
      ∀ host : Host, (c.eval host.toProperties >>= fun holds => pure (some (.flag (holds ^^ negated)))) =
        p.run host token := by
  rcases ConditionKind.asksFor_of_standard hk c.attributes with ⟨r, hr, h⟩ | ⟨property, hp, h⟩
  · refine ⟨.done (r.map fun b => some (.flag (b ^^ negated))), .done (hr.map _), fun host => ?_⟩
    rw [Condition.eval, h]
    cases r <;> rfl
  · refine ⟨.operand property fun o => .ok (some (.flag (decide (o ≠ .unset) ^^ negated))),
      .operand ?_ (fun o => Error.harmless_ok _) ?_, fun host => ?_⟩
    · exact Nat.lt_of_le_of_lt (ha _ _ hp) hn
    · intro value a h
      obtain rfl := Except.ok.inj h
      rfl
    · rw [Condition.eval, h, bind_assoc]
      rfl

theorem conditions_follows : Strategy.conditions.Follows ops := by
  intro token
  cases hg : recognize? ConditionToken.grammar token with
  | none =>
    refine ⟨.done (.ok none), .done (Error.harmless_ok _), fun host _ => ?_⟩
    simp only [evaluate, ConditionToken.evaluate, hg]
    rfl
  | some g =>
    cases hk : ConditionRegistry.standard.get? (g.text 2) with
    | none =>
      refine ⟨.done (.ok none), .done (Error.harmless_ok _), fun host hh => ?_⟩
      simp only [evaluate, ConditionToken.evaluate, hg, hh.conditionKind?, hk]
      rfl
    | some kind =>
      obtain ⟨condition, known, ha⟩ := ConditionKind.assign_of_standard hk
      cases hc : ConditionToken.configure (g.text 2) (.ofKind kind)
          (Text.splitOn ',' (g.text 3)) with
      | error e =>
        have harmless : Error.Harmless (ConditionToken.configure (g.text 2) (.ofKind kind)
          (Text.splitOn ',' (g.text 3))) :=
            ConditionToken.harmless_configure ha
        refine ⟨.done (.error e), .done (Error.harmless_error (harmless.not_imbalance e hc)),
          fun host hh => ?_⟩
        simp only [evaluate, ConditionToken.evaluate, hg, hh.conditionKind?, hk, hc]
        rfl
      | ok c =>
        have hnone : (Condition.ofKind kind).attributes.Within (g.text 3).length := nofun
        obtain ⟨hkind, hwithin⟩ := ConditionToken.within_of_configure ha hnone
          (fun t ht => Text.length_le_of_mem_splitOn ht) hc
        obtain rfl : c.kind = kind := hkind
        obtain ⟨p, hp, hrun⟩ : ∃ p : Plan, p.Proper ops token ∧ _ :=
          exists_plan_of_test hk hwithin (length_lt_of_condition hg) (g.get? 1).isSome
        refine ⟨p, hp, fun host hh => ?_⟩
        simp only [evaluate, ConditionToken.evaluate, hg, hh.conditionKind?, hk, hc,
          Eval.ofExcept_ok, pure_bind, hrun]

/-! ## Chains of built-in strategies -/

/-- What strategies with plans have, and chains of strategies that have it, all assembled
strategies have. -/
theorem Assembled.induct {motive : Strategy → Prop} (follows : ∀ s, s.Follows ops → motive s)
    (chain : ∀ scope balance delegates, scopes scope → (∀ d ∈ delegates, motive d) →
      motive (.chain scope balance delegates)) {s : Strategy} (h : s.Assembled ops scopes) :
    motive s := by
  induction h with
  | operator h => exact follows _ (Operator.follows h)
  | logical => exact follows _ logical_follows
  | conditions => exact follows _ conditions_follows
  | references key => exact follows _ (references_follows key)
  | encodeUrl key => exact follows _ (encodeUrl_follows key)
  | componentTypes d => exact follows _ (componentTypes_follows d)
  | chain balance h _ ih => exact chain _ balance _ h ih

theorem Assembled.mono {scopes' : Scope → Prop} {s : Strategy} (h : s.Assembled ops scopes)
    (hs : ∀ scope, scopes scope → scopes' scope) : s.Assembled ops scopes' := by
  induction h with
  | operator h => exact .operator h
  | logical => exact .logical
  | conditions => exact .conditions
  | references key => exact .references key
  | encodeUrl key => exact .encodeUrl key
  | componentTypes d => exact .componentTypes d
  | chain balance h _ ih => exact .chain balance (hs _ h) ih

end Strategy

end Interpolation
