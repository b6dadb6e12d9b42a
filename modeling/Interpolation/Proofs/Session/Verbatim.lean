import Interpolation.Proofs.Guard.Nesting
import Interpolation.Proofs.Operator.Naming
import Interpolation.Proofs.Operator.Reader
import Interpolation.Proofs.Reference.Scanning
import Interpolation.Proofs.Strategy.PlainNames

/-!
# Texts behind operators, as a store reads them

A store with the usual chain is asked for a plain name with `:-`, `:=` or `:?` and a text. The text may
stand for itself or be misread, whatever else is stored and whichever types and conditions there are.

* `Guard.Over` guards hold tokens over a length only, so that shorter ones are new to them;
* `Resolver.spec_resolve`: a token that the chain is not resolving yet, by what the operators and the
  strategies behind them do; `Resolver.spec_resolve_reference`: a registered value is fetched by
  reference;
* `Resolver.spec_propertyValue_of_stored`, `Resolver.spec_propertyValue_of_unset` and
  `Resolver.spec_operandLookup`: the value of a property and what an operator gets to work on, by what
  is stored; `Resolver.spec_propertyValue_of_unopened`: a stored text without opening signs;
* `Resolver.spec_resolve_orElse`: a text that is not misread comes to the operator of its sign;
* `Resolver.spec_resolve_text`: a text that is not misread is taken as it stands;
* `Resolver.spec_resolve_misread`: a misread text does not come out whole;
* `Store.resolve_verbatim` and `Store.resolve_text` put these together for sessions of their own.
-/

namespace Interpolation

/-! ## Guards over a length -/

/-- Every frame holds a token over a length. -/
def Guard.Over (g : Guard) (n : Nat) : Prop :=
  ∀ f ∈ g.frames, n < f.token.length

namespace Guard.Over

variable {g : Guard} {n : Nat} {f : Frame}

theorem empty (n : Nat) : Guard.empty.Over n := nofun

theorem mono (h : g.Over n) {m : Nat} (hm : m ≤ n) : g.Over m :=
  fun f hf => Nat.lt_of_le_of_lt hm (h f hf)

theorem push (h : g.Over n) (hf : n < f.token.length) : (g.push f).Over n := by
  intro f' hf'
  rcases List.mem_cons.1 hf' with rfl | hf'
  · exact hf
  · exact h f' hf'

/-- A shorter token is in no frame. -/
theorem not_contains (h : g.Over f.token.length) : g.contains f = false := by
  cases hc : g.contains f with
  | false => rfl
  | true => exact absurd (h f (by simpa [contains] using hc)) (Nat.lt_irrefl _)

end Guard.Over

namespace Resolver

variable {unended : Prop} {g : Guard} {k : Stock} {host : Host} {token x d name : Text} {c : Char}
variable {r : Resolver} {first depth : Nat}

/-! ## The usual chain -/

/-- Neither the usual chain, whose scopes are numbered from a number on, nor its operators are resolving a
token. -/
def Fresh (first : Nat) (g : Guard) (token : Text) : Prop :=
  g.contains ⟨⟨first⟩, token⟩ = false ∧ g.contains ⟨⟨first + 3⟩, token⟩ = false

theorem fresh_of_over (hg : g.Over token.length) : Fresh first g token :=
  ⟨hg.not_contains (f := ⟨⟨first⟩, token⟩), hg.not_contains (f := ⟨⟨first + 3⟩, token⟩)⟩

/-- The frames of a token on the way to the operators. -/
def inHand (first : Nat) (g : Guard) (token : Text) : Guard :=
  (g.push ⟨⟨first⟩, token⟩).push ⟨⟨first + 3⟩, token⟩

theorem over_inHand (hg : g.Over token.length) {n : Nat} (hn : n < token.length) :
    (inHand first g token).Over n :=
  ((hg.mono (Nat.le_of_lt hn)).push hn).push hn

/-- A token that is neither a reference nor an address comes to the operators, and to the other
strategies if these do not apply. -/
theorem spec_resolve {found post : Except Error (Option Value) → Stock → Prop}
    (hr : r.chain = .standard first) (href : host.reference? = Host.storedReference)
    (hk : Strategy.Unregistered k.references token) (hg : Fresh first g token)
    (hurl : (Strategy.encodeUrlBy .colon).evaluate host token = pure none)
    (h : Eval.Spec unended (inHand first g token) k
      (Strategy.firstAnswer (Operator.all.map .operator) host token) found)
    (hsome : ∀ v k', found (.ok (some v)) k' → post (.ok (some v)) k')
    (hnone : ∀ k', found (.ok none) k' → Eval.Spec unended (g.push ⟨⟨first⟩, token⟩) k'
      (Strategy.firstAnswer [.logical, .conditions, .componentTypes .colon] host token) post)
    (herror : ∀ e k', found (.error e) k' → post (.error e) k') :
    Eval.Spec unended g k (r.resolve host token) post := by
  have fresh : (g.push ⟨⟨first⟩, token⟩).contains ⟨⟨first + 3⟩, token⟩ = false := by
    rw [Guard.contains_push, hg.2]
    simp
  have noReference : Eval.Spec unended (g.push ⟨⟨first⟩, token⟩) k
      ((Strategy.referencesBy .colon).evaluate host token)
      (fun answer k' => answer = .ok none ∧ k' = k) :=
    (Eval.Spec.pure ⟨rfl, rfl⟩).congr fun s _ hs => by
      subst hs
      exact Strategy.run_referencesBy href hk
  rw [resolve, hr, Chain.evaluate_eq]
  refine Strategy.spec_resolveOnce hg.1 ?_
  refine Strategy.spec_firstAnswer noReference (fun _ _ h => by cases h.1) (fun k' hk' => ?_)
    fun _ _ h => by cases h.1
  obtain ⟨-, rfl⟩ := hk'
  rw [Strategy.firstAnswer_of_declines hurl]
  refine Strategy.spec_firstAnswer ?_ hsome hnone herror
  rw [Strategy.operators, Strategy.evaluate]
  exact Strategy.spec_resolveOnce fresh h

/-- A registered value is fetched by reference. -/
theorem spec_resolve_reference {v : Value} (hr : r.chain = .standard first)
    (href : host.reference? = Host.storedReference) (hline : '\n' ∉ token)
    (hg : g.contains ⟨⟨first⟩, "ref".toList ++ ':' :: token⟩ = false)
    (hv : k.references.get? token = some v) :
    Eval.Spec unended g k (r.resolve host ("ref".toList ++ ':' :: token))
      fun answer k' => answer = .ok (some v) ∧ k' = k := by
  rw [resolve, hr, Chain.evaluate_eq]
  refine Strategy.spec_resolveOnce hg (Strategy.spec_firstAnswer_head ?_ fun _ h => by cases h.1)
  refine (Eval.Spec.pure (a := some v) ⟨rfl, rfl⟩).congr fun s _ hs => ?_
  subst hs
  rw [Strategy.run_referencesBy_registered href hline]
  have hv : s.references.get? token = some v := hv
  rw [hv, Eval.run_pure]

/-- A token without the signs of operators comes to the strategies behind these. -/
theorem spec_resolve_of_no_signs {post : Except Error (Option Value) → Stock → Prop}
    (hr : r.chain = .standard first) (href : host.reference? = Host.storedReference)
    (hg : Fresh first g token) (hsigns : ∀ c ∈ Operator.signs, c ∉ token)
    (h : Eval.Spec unended (g.push ⟨⟨first⟩, token⟩) k
      (Strategy.firstAnswer [.logical, .conditions, .componentTypes .colon] host token) post) :
    Eval.Spec unended g k (r.resolve host token) post := by
  have hcolon : ':' ∉ token := hsigns _ (by decide)
  have declined : Eval.Spec unended (inHand first g token) k
      (Strategy.firstAnswer (Operator.all.map .operator) host token)
      (fun answer k' => answer = .ok none ∧ k' = k) := by
    rw [Operator.firstAnswer_of_forall_not_mem hsigns]
    exact .pure ⟨rfl, rfl⟩
  refine spec_resolve hr href (Strategy.unregistered_of_not_mem hcolon _) hg
    (Strategy.evaluate_encodeUrlBy_of_not_mem hcolon) declined (fun _ _ h => by cases h.1) ?_
    fun _ _ h => by cases h.1
  rintro k' ⟨-, rfl⟩
  exact h

/-- A plain name is resolved to nothing. -/
theorem spec_resolve_plainName (hr : r.chain = .standard first)
    (href : host.reference? = Host.storedReference) (hg : g.Over x.length) (hx : x.isPlainName) :
    Eval.Spec unended g k (r.resolve host x)
      (fun answer k' => answer = .ok none ∧ k' = k) := by
  have hsigns : ∀ c ∈ Operator.signs, c ∉ x := by
    intro c hc
    refine Text.not_mem_of_isPlainName hx ?_
    simp only [Operator.signs, List.mem_cons, List.not_mem_nil, or_false] at hc
    rcases hc with rfl | rfl | rfl | rfl <;> rfl
  have htoken := Text.isTokenChar_of_isPlainName hx
  refine spec_resolve_of_no_signs hr href (fresh_of_over hg) hsigns ?_
  rw [Strategy.firstAnswer_of_declines (Strategy.evaluate_logical_eq_none htoken),
    Strategy.firstAnswer_of_declines (Strategy.evaluate_conditions_eq_none htoken),
    Strategy.firstAnswer_of_declines (Strategy.evaluate_componentTypes_plainName hx),
    Strategy.firstAnswer]
  exact .pure ⟨rfl, rfl⟩

/-- A token with a text gets the answer of the operator that reads it. -/
theorem spec_resolve_of_reader {op : Operator} {post : Except Error (Option Value) → Stock → Prop}
    (hr : r.chain = .standard first) (hx : x.isPlainName) (hc : c ∈ ['-', '=', '?'])
    (hk : Strategy.Unregistered k.references (x ++ ':' :: c :: d))
    (hg : g.Over (x ++ ':' :: c :: d).length) (href : host.reference? = Host.storedReference)
    (hop : Operator.reader? (x ++ ':' :: c :: d) = some op)
    (h : Eval.Spec unended (inHand first g (x ++ ':' :: c :: d)) k
      (op.evaluate host (x ++ ':' :: c :: d)) post)
    (hnone : ∀ k', ¬post (.ok none) k') :
    Eval.Spec unended g k (r.resolve host (x ++ ':' :: c :: d)) post :=
  spec_resolve hr href hk (fresh_of_over hg) (Strategy.evaluate_encodeUrlBy_text hx hc)
    (Operator.spec_operators hop h hnone) (fun _ _ h => h) (fun k' hk' => absurd hk' (hnone k'))
    fun _ _ h => h

/-! ## Values and operands -/

/-- Over the length of its name a property is not in flight. -/
theorem not_inFlight_of_over (hg : g.Over name.length) :
    (g.contains ⟨r.scope, name⟩ && k.properties.contains name) = false := by
  rw [hg.not_contains (f := ⟨r.scope, name⟩), Bool.false_and]

/-- A property that is not stored has the value of the token. -/
theorem spec_propertyValue_of_unset {post : Except Error (Option Value) → Stock → Prop}
    (hv : k.properties.get? name = none) (h : Eval.Spec unended g k (r.resolve host name) post) :
    Eval.Spec unended g k (r.propertyValue host name) post :=
  h.congr fun _ _ hs => run_propertyValue_of_unset ((congrArg (·.properties.get? name) hs).trans hv)

/-- A property that is stored has the value that its text expands to. -/
theorem spec_propertyValue_of_stored {raw v : Text} (hv : k.properties.get? name = some raw)
    (hg : g.contains ⟨r.scope, name⟩ = false)
    (h : Eval.Spec unended (g.push ⟨r.scope, name⟩) k (Reference.expand host raw)
      fun t k' => t = .ok v ∧ k' = k) :
    Eval.Spec unended g k (r.propertyValue host name)
      fun answer k' => answer = .ok (some (.text v)) ∧ k' = k := by
  refine Eval.Spec.congr ((h.within .strict _).bind (f := fun t => pure (some (.text t))) ?_
    fun _ _ h => by cases h.1) fun s hs hk => ?_
  · rintro _ _ ⟨⟨⟩, rfl⟩
    exact .pure ⟨rfl, rfl⟩
  · subst hs hk
    exact run_propertyValue_of_stored hv hg

/-- An operator works on the value of a property that is not in flight. At the end of the depth the
lookup does not end. -/
theorem spec_operandLookup {post : Except Error (Option Value) → Stock → Prop}
    {after : Except Error Operand → Stock → Prop}
    (hflight : (g.contains ⟨r.scope, name⟩ && k.properties.contains name) = false)
    (hzero : depth = 0 → unended)
    (h : ∀ n, depth = n + 1 → Eval.Spec unended g k (r.propertyValue (r.host n) name) post)
    (hok : ∀ v k', post (.ok v) k' → after (.ok ((v.bind Value.text?).elim .unset .set)) k')
    (herror : ∀ e k', post (.error e) k' → after (.error e) k') :
    Eval.Spec unended g k (Operand.lookup (r.host depth).toProperties name) after := by
  have run : ∀ s : State, s.guard = g → s.stock = k →
      Operand.lookup (r.host depth).toProperties name s =
        ((r.host depth).lookup name >>= fun v => pure (v.elim .unset .set)) s := by
    rintro s rfl rfl
    rw [host, run_operandLookup none depth hflight]
    refine congrArg (fun f => ((r.hostWith none depth).lookup name >>= f) s) (funext fun v => ?_)
    cases v <;> rfl
  refine Eval.Spec.congr ?_ run
  · cases depth with
    | zero => exact .congr (.exhausted (hzero rfl)) fun _ _ _ => rfl
    | succ n =>
      show Eval.Spec unended g k ((r.propertyValue (r.host n) name >>=
        fun v => pure (v.bind Value.text?)) >>= fun v => pure (v.elim .unset .set)) after
      rw [bind_assoc]
      exact (h n rfl).bind (fun v k' hv => .pure (hok v k' hv)) herror

/-- A stored text without opening signs gives its property the value that it stands for. -/
theorem spec_propertyValue_of_unopened {v : Text} (hv : k.properties.get? name = some v)
    (hg : g.contains ⟨r.scope, name⟩ = false) (hopen : v.Unopened) :
    Eval.Spec unended g k (r.propertyValue (r.host (depth + 1)) name)
      fun answer k' => answer = .ok (some (.text v.undouble)) ∧ k' = k := by
  refine spec_propertyValue_of_stored hv hg ?_
  rw [host, expand_of_unopened r none depth hopen]
  exact .pure ⟨rfl, rfl⟩

theorem spec_operandLookup_set {v : Text} (hg : g.Over x.length)
    (hv : k.properties.get? x = some v) (hopen : v.Unopened) :
    Eval.Spec unended g k (Operand.lookup (r.host (depth + 2)).toProperties x)
      (fun o k' => o = .ok (.set v.undouble) ∧ k' = k) := by
  have value : ∀ n, depth + 2 = n + 1 → Eval.Spec unended g k (r.propertyValue (r.host n) x)
      (fun answer k' => answer = .ok (some (.text v.undouble)) ∧ k' = k) := by
    intro n hn
    obtain rfl : n = depth + 1 := by omega
    exact spec_propertyValue_of_unopened hv (hg.not_contains (f := ⟨r.scope, x⟩)) hopen
  refine spec_operandLookup (not_inFlight_of_over hg) (fun h => absurd h (Nat.succ_ne_zero _)) value ?_
    fun _ _ h => by cases h.1
  rintro _ _ ⟨⟨⟩, rfl⟩
  exact ⟨rfl, rfl⟩

theorem host_reference? (r : Resolver) (depth : Nat) :
    (r.host depth).reference? = Host.storedReference := by
  cases depth <;> rfl

theorem host_register (r : Resolver) (depth : Nat) :
    (r.host depth).register = Host.storeReference := by
  cases depth <;> rfl

/-- A property that is not stored is unset if its name is resolved to nothing that has a text. -/
theorem spec_operandLookup_unresolved {v : Option Value} (hv : k.properties.get? name = none)
    (htext : v.bind Value.text? = none) (hzero : depth = 0 → unended)
    (h : ∀ n, depth = n + 1 → Eval.Spec unended g k (r.resolve (r.host n) name)
      fun answer k' => answer = .ok v ∧ k' = k) :
    Eval.Spec unended g k (Operand.lookup (r.host depth).toProperties name)
      (fun o k' => o = .ok .unset ∧ k' = k) := by
  refine spec_operandLookup ?_ hzero (fun n hn => spec_propertyValue_of_unset hv (h n hn)) ?_
    fun _ _ h => by cases h.1
  · rw [TextMap.contains, hv, Option.isSome_none, Bool.and_false]
  · rintro _ _ ⟨⟨⟩, rfl⟩
    rw [htext]
    exact ⟨rfl, rfl⟩

theorem spec_operandLookup_unset (hr : r.chain = .standard first) (hx : x.isPlainName)
    (hg : g.Over x.length) (hv : k.properties.get? x = none) (hzero : depth = 0 → unended) :
    Eval.Spec unended g k (Operand.lookup (r.host depth).toProperties x)
      (fun o k' => o = .ok .unset ∧ k' = k) :=
  spec_operandLookup_unresolved hv rfl hzero fun n _ =>
    spec_resolve_plainName hr (host_reference? r n) hg hx

end Resolver

/-! ## Texts that are taken as they stand -/

/-- What a plain name with an operator and a text behind it stands for, and the properties
afterwards: the text counts only where the property is unset. -/
def Operator.verbatim (ps : TextMap Text) (x d : Text) (c : Char) :
    Except Error (Option Value) × TextMap Text :=
  match ps.get? x with
  | some v => (.ok (some (.text v)), ps)
  | none =>
    match c with
    | '-' => (.ok (some (.text d)), ps)
    | '=' => (.ok (some (.text d)), ps.insert x d)
    | _ => (.error (.failure (if d.isEmpty then missing x else d)), ps)

/-- It stands for something in any case. -/
theorem Operator.verbatim_ne_none (ps : TextMap Text) (x d : Text) (c : Char) :
    (verbatim ps x d c).1 ≠ .ok none := by
  unfold verbatim
  split
  · simp
  · split <;> simp

namespace Resolver

variable {unended : Prop} {g : Guard} {k : Stock} {x d : Text} {c : Char} {r : Resolver}
variable {first depth : Nat}

theorem host_assign (r : Resolver) (depth : Nat) : (r.host depth).assign = Host.storeProperty := by
  cases depth <;> rfl

/-- The operator of a sign does with an unset property what the text says. -/
theorem spec_fallback (hc : c ∈ ['-', '=', '?']) (hv : k.properties.get? x = none) (r : Resolver) :
    Eval.Spec unended g k (Operator.fallback (r.host depth) x d c) (fun answer k' =>
      answer = (Operator.verbatim k.properties x d c).1 ∧
        k' = { k with properties := (Operator.verbatim k.properties x d c).2 }) := by
  simp only [List.mem_cons, List.not_mem_nil, or_false] at hc
  rcases hc with rfl | rfl | rfl
  · exact .pure (by simp [Operator.verbatim, hv])
  · have stored : Eval.Spec unended g k ((r.host depth).assign x d) (fun a k' =>
        a = .ok () ∧ k' = { k with properties := k.properties.insert x d }) := by
      rw [host_assign]
      exact .storeProperty ⟨rfl, rfl⟩
    refine stored.bind ?_ fun _ _ h => by cases h.1
    rintro _ _ ⟨-, rfl⟩
    exact .pure (by simp [Operator.verbatim, hv])
  · exact .ofExcept (by simp [Operator.verbatim, hv])

/-- A text that is not misread comes to the operator of its sign. -/
theorem spec_resolve_orElse {post : Except Error (Option Value) → Stock → Prop}
    (hr : r.chain = .standard first) (hx : x.isPlainName) (hc : c ∈ ['-', '=', '?']) (hd : '\n' ∉ d)
    (hm : ¬Text.Misread c d) (hk : Strategy.Unregistered k.references (x ++ ':' :: c :: d))
    (hg : g.Over (x ++ ':' :: c :: d).length)
    (h : Eval.Spec unended (inHand first g (x ++ ':' :: c :: d)) k
      (Operator.orElse (r.host depth) x (Operator.fallback (r.host depth) x d c)) post)
    (hnone : ∀ k', ¬post (.ok none) k') :
    Eval.Spec unended g k (r.resolve (r.host depth) (x ++ ':' :: c :: d)) post := by
  have hcolon : ':' ∉ x := Text.not_mem_of_isPlainName hx (by decide)
  have hnewline : '\n' ∉ x := Text.not_mem_of_isPlainName hx (by decide)
  refine spec_resolve_of_reader hr hx hc hk hg (host_reference? r _)
    (Operator.reader?_text hcolon hnewline hc hd hm) ?_ hnone
  rwa [Operator.evaluate_textOperator hcolon hc hd]

/-- A text that is not misread is taken as it stands. -/
theorem spec_resolve_text (hr : r.chain = .standard first) (hx : x.isPlainName)
    (hc : c ∈ ['-', '=', '?']) (hd : '\n' ∉ d) (hm : ¬Text.Misread c d)
    (hk : Strategy.Unregistered k.references (x ++ ':' :: c :: d))
    (hv : ∀ v, k.properties.get? x = some v → '$' ∉ v)
    (hg : g.Over (x ++ ':' :: c :: d).length) :
    Eval.Spec False g k (r.resolve (r.host (depth + 2)) (x ++ ':' :: c :: d))
      (fun answer k' => answer = (Operator.verbatim k.properties x d c).1 ∧
        k' = { k with properties := (Operator.verbatim k.properties x d c).2 }) := by
  have longer : (inHand first g (x ++ ':' :: c :: d)).Over x.length := over_inHand hg (by simp)
  refine spec_resolve_orElse hr hx hc hd hm hk hg ?_
    fun k' h => Operator.verbatim_ne_none _ _ _ _ h.1.symm
  rw [Operator.orElse]
  cases hx' : k.properties.get? x with
  | some v =>
    have hdollar := hv v hx'
    refine (spec_operandLookup_set longer hx' (Text.unopened_of_not_mem hdollar)).bind ?_
      fun _ _ h => by cases h.1
    rintro _ _ ⟨⟨⟩, rfl⟩
    exact .pure (by simp [Operator.verbatim, hx', Text.undouble_of_not_mem hdollar])
  | none =>
    refine (spec_operandLookup_unset hr hx longer hx' nofun).bind ?_ fun _ _ h => by cases h.1
    rintro _ _ ⟨⟨⟩, rfl⟩
    exact spec_fallback hc hx' r

end Resolver

/-! ## Texts that are misread -/

/-- No outcome that a text of more than some characters would have. -/
def Operator.Falls (c : Char) (x : Text) (n : Nat) : Except Error (Option Value) → Prop
  | .ok (some (.text t)) => c ≠ '?' ∧ t.length ≤ n
  | .ok _ => False
  | .error e => c = '?' → ∀ m, e = .failure m → m = missing x ∨ m.length ≤ n

namespace Operator.Falls

variable {x d : Text} {c : Char} {n : Nat} {ps : TextMap Text}

theorem mono {answer : Except Error (Option Value)} (h : Falls c x n answer) {m : Nat}
    (hm : n ≤ m) : Falls c x m answer := by
  match answer, h with
  | .ok (some (.text t)), h => exact ⟨h.1, Nat.le_trans h.2 hm⟩
  | .error e, h => exact fun hc m he => (h hc m he).imp_right fun h => Nat.le_trans h hm

theorem colon_not_mem_missing (hx : ':' ∉ x) : ':' ∉ missing x := by
  intro h
  rcases List.mem_append.1 h with h | h
  · exact absurd h (by decide)
  · exact hx h

theorem ne_verbatim {answer : Except Error (Option Value)} (h : Falls c x n answer)
    (hx : ':' ∉ x) (hc : c ∈ ['-', '=', '?']) (hn : n < d.length) (hd : ':' ∈ d)
    (hv : ps.get? x = none) : answer ≠ (verbatim ps x d c).1 := by
  rintro rfl
  simp only [List.mem_cons, List.not_mem_nil, or_false] at hc
  rcases hc with rfl | rfl | rfl
  · have hle : d.length ≤ n := by simpa [Falls, verbatim, hv] using h
    exact absurd hle (Nat.not_le_of_lt hn)
  · have hle : d.length ≤ n := by simpa [Falls, verbatim, hv] using h
    exact absurd hle (Nat.not_le_of_lt hn)
  · have hne : d.isEmpty = false := by
      cases d with
      | nil => simp at hd
      | cons => rfl
    have hle : d = missing x ∨ d.length ≤ n := by simpa [Falls, verbatim, hv, hne] using h
    refine absurd (hle.resolve_left fun he => ?_) (Nat.not_le_of_lt hn)
    exact colon_not_mem_missing hx (he ▸ hd)

/-- The outcome of a text has its length. -/
theorem verbatim (hc : c ∈ ['-', '=', '?']) (hv : ps.get? x = none) :
    Falls c x d.length (Operator.verbatim ps x d c).1 := by
  simp only [List.mem_cons, List.not_mem_nil, or_false] at hc
  rcases hc with rfl | rfl | rfl
  · simp [Falls, Operator.verbatim, hv]
  · simp [Falls, Operator.verbatim, hv]
  · by_cases hd : d.isEmpty
    · simp [Falls, Operator.verbatim, hv, hd]
    · simp [Falls, Operator.verbatim, hv, hd]

end Operator.Falls

namespace Text

/-- A text that is misread has a colon. -/
theorem Misread.mem_colon {c : Char} {d : Text} (h : Misread c d) : ':' ∈ d := by
  rcases h with ⟨a, digits, rfl, -, -⟩ | ⟨-, a, source, target, rfl, -, -, -⟩ <;> simp

end Text

namespace Resolver

variable {x : Text} {c : Char} {r : Resolver} {first : Nat}

/-- What an operator makes of a value is no longer, or it has none to work on. -/
theorem spec_onValue {g : Guard} {k : Stock} {name : Text} {n depth : Nat}
    {f : Text → Except Error Text} (hf : c ≠ '?' → ∀ v t, f v = .ok t → t.length ≤ v.length)
    (hg : g.Over name.length)
    (h : ∀ n', depth = n' + 1 → Eval.Spec True g k (r.propertyValue (r.host n') name)
      (fun answer _ => Operator.Falls c x n answer)) :
    Eval.Spec True g k (Operator.onValue (r.host depth) name f)
      (fun answer _ => Operator.Falls c x n answer) := by
  have operand : Eval.Spec True g k (Operand.lookup (r.host depth).toProperties name)
      (fun o _ => Operator.Falls c x n (o.map fun o => o.value?.map .text)) := by
    refine spec_operandLookup (not_inFlight_of_over hg) (fun _ => trivial) h (fun v _ hv => ?_) fun _ _ h => h
    match v, hv with
    | some (.text t), hv => exact hv
  refine operand.bind (fun o k' ho => ?_) fun _ _ h => h
  match o, ho with
  | .set v, ho =>
    obtain ⟨hc, hlength⟩ : c ≠ '?' ∧ v.length ≤ n := ho
    dsimp only [Operand.value?]
    cases hresult : f v with
    | ok t => exact .pure ⟨hc, Nat.le_trans (hf hc v t hresult) hlength⟩
    | error e => exact .ofExcept fun hc' => absurd hc' hc

/-- Where neither the property nor any name that begins with it and a colon is stored, no more than
the text comes out, and less if it is misread. -/
theorem spec_resolve_misread (hr : r.chain = .standard first) (hx : x.isPlainName)
    (hc : c ∈ ['-', '=', '?']) {k : Stock}
    (hk : ∀ rest, Strategy.Unregistered k.references (x ++ ':' :: rest))
    (hv : k.properties.get? x = none)
    (hnames : ∀ rest, k.properties.get? (x ++ ':' :: rest) = none) (n : Nat) :
    ∀ {g : Guard} {d : Text} (depth : Nat), d.length = n → '\n' ∉ d →
      g.Over (x ++ ':' :: c :: d).length →
      Eval.Spec True g k (r.resolve (r.host depth) (x ++ ':' :: c :: d))
        (fun answer _ => ∃ m ≤ n, (Text.Misread c d → m < n) ∧ Operator.Falls c x m answer) := by
  have hcolon : ':' ∉ x := Text.not_mem_of_isPlainName hx (by decide)
  have hnewline : '\n' ∉ x := Text.not_mem_of_isPlainName hx (by decide)
  induction n using Nat.strongRecOn with
  | ind n ih =>
  intro g d depth hlength hd hg
  by_cases hm : Text.Misread c d
  · obtain ⟨op, a, behind, f, hreader, rfl, hf, hop⟩ :=
      Operator.exists_evaluate_of_misread hcolon hnewline hc hd hm
    have shorter : a.length < n := by rw [← hlength]; simp
    have longer : (inHand first g (x ++ ':' :: c :: (a ++ ':' :: behind))).Over
        (x ++ ':' :: c :: a).length := over_inHand hg (by simp)
    have value : ∀ n', depth = n' + 1 →
        Eval.Spec True (inHand first g (x ++ ':' :: c :: (a ++ ':' :: behind))) k
        (r.propertyValue (r.host n') (x ++ ':' :: c :: a))
        (fun answer _ => Operator.Falls c x a.length answer) := by
      intro n' _
      refine spec_propertyValue_of_unset (hnames _) ?_
      refine (ih a.length shorter n' rfl (fun hn => hd (List.mem_append_left _ hn)) longer).mono ?_
      exact fun _ _ ⟨m, hm, _, h⟩ => h.mono hm
    refine spec_resolve_of_reader hr hx hc (hk _) hg (host_reference? r _) hreader ?_
      fun _ ⟨_, _, _, h⟩ => h
    rw [hop]
    exact (spec_onValue hf longer value).mono fun _ _ h =>
      ⟨a.length, Nat.le_of_lt shorter, fun _ => shorter, h⟩
  · refine spec_resolve_orElse hr hx hc hd hm (hk _) hg ?_ fun _ ⟨_, _, _, h⟩ => h
    rw [Operator.orElse]
    refine (spec_operandLookup_unset hr hx (over_inHand hg (by simp)) hv fun _ => trivial).bind ?_
      fun _ _ h => by cases h.1
    rintro _ _ ⟨⟨⟩, rfl⟩
    refine (spec_fallback hc hv r).mono fun answer _ h => ?_
    rw [h.1, ← hlength]
    exact ⟨d.length, Nat.le_refl _, fun h => absurd h hm, .verbatim hc hv⟩

end Resolver

/-! ## Sessions of their own -/

namespace Store

variable {s : Store} {x d : Text} {c : Char} {first : Nat}

/-- An evaluation that leaves everything but the properties leaves the store with these. -/
theorem after_eq {t : State} {ps : TextMap Text} (ht : t.stock = { s.stock with properties := ps }) :
    s.after t = { s with properties := ps } := by
  obtain ⟨rfl, hr, ho⟩ := Stock.mk.inj ht
  rw [after, hr, ho]
  rfl

/-- In a session of its own a token stands for what the text says, as long as the text is not
misread. -/
theorem resolve_verbatim (hs : s.resolver.chain = .standard first) (hx : x.isPlainName)
    (hc : c ∈ ['-', '=', '?']) (hd : '\n' ∉ d) (hm : ¬Text.Misread c d)
    (hk : Strategy.Unregistered s.references (x ++ ':' :: c :: d))
    (hv : ∀ v, s.property? x = some v → '$' ∉ v) : s.resolve (x ++ ':' :: c :: d) =
      some ((Operator.verbatim s.properties x d c).1,
        { s with properties := (Operator.verbatim s.properties x d c).2 }) := by
  have spec : Eval.Spec False .empty s.stock
      (s.resolver.resolve (s.resolver.host (999998 + 2)) (x ++ ':' :: c :: d)) _ :=
    Resolver.spec_resolve_text (k := s.stock) hs hx hc hd hm hk hv (Guard.Over.empty _)
  obtain ⟨answer, t, hrun, rfl, ht⟩ := spec.exists_run (s := s.state .empty) rfl rfl
  show (s.resolver.resolve (s.resolver.host (999998 + 2)) _ _).map _ = _
  rw [hrun, Option.map_some]
  exact congrArg some (Prod.ext rfl (after_eq ht))

/-- In a session of its own a token stands for what the text says, as long as the text is not
misread. Where the property is unset and no stored name begins with it and a colon, this is so for
no other texts. Nothing may be registered, as far as the token has the form of a reference. -/
theorem resolve_text (hs : s.resolver.chain = .standard first) (hx : x.isPlainName)
    (hc : c ∈ ['-', '=', '?']) (hd : '\n' ∉ d) (hk : x = "ref".toList → s.references = ∅)
    (hv : ∀ v, s.property? x = some v → '$' ∉ v) :
    (¬Text.Misread c d → s.resolve (x ++ ':' :: c :: d) =
      some ((Operator.verbatim s.properties x d c).1,
        { s with properties := (Operator.verbatim s.properties x d c).2 })) ∧
    (Text.Misread c d → s.property? x = none → (∀ rest, s.property? (x ++ ':' :: rest) = none) →
      (s.resolve (x ++ ':' :: c :: d)).map (·.1) ≠ some (Operator.verbatim s.properties x d c).1) := by
  have unregistered (rest : Text) : Strategy.Unregistered s.references (x ++ ':' :: rest) :=
    Strategy.unregistered_of_plainName hx fun h => by
      rw [hk h]
      rfl
  refine ⟨fun hm => resolve_verbatim hs hx hc hd hm (unregistered _) hv, ?_⟩
  intro hm hunset hnames hanswer
  have spec := Resolver.spec_resolve_misread (k := s.stock) hs hx hc unregistered hunset hnames _
    usualDepth rfl hd (Guard.Over.empty _)
  obtain ⟨⟨answer, u⟩, hrun, rfl⟩ := Option.map_eq_some_iff.1 hanswer
  obtain ⟨⟨answer', t⟩, hrun', ht⟩ := Option.map_eq_some_iff.1 hrun
  obtain ⟨rfl, -⟩ := Prod.mk.inj ht
  obtain ⟨m, -, hm', hfalls⟩ := spec.of_run (s := s.state .empty) rfl rfl hrun'
  have hcolon : ':' ∉ x := Text.not_mem_of_isPlainName hx (by decide)
  exact hfalls.ne_verbatim hcolon hc (hm' hm) hm.mem_colon hunset rfl

/-- The end of another operator's token in a text does no harm, a port at the end of an address
does. -/
theorem resolve_text_url :
    (standard ∅).resolve "url:-a:?b".toList =
      some (.ok (some (.text "a:?b".toList)), standard ∅) ∧
    ((standard ∅).resolve "url:-http://localhost:8080".toList).map (·.1) ≠
      some (.ok (some (.text "http://localhost:8080".toList))) := by
  have plain : ¬Text.Misread '-' "a:?b".toList := by
    rintro (h | ⟨h, -⟩)
    · have := Operator.isSome_recognize?_slice (x := "url".toList) (c := '-') (by decide) (by decide)
        (by decide) h
      exact absurd this (by decide +kernel)
    · exact absurd h (by decide)
  have digits : "8080".toList.all Unicode.isDecimalDigit := by decide
  have port : Text.Misread '-' "http://localhost:8080".toList :=
    .inl ⟨"http://localhost".toList, "8080".toList, rfl, by decide, List.all_eq_true.1 digits⟩
  have unset : ∀ v, (standard ∅).property? "url".toList = some v → '$' ∉ v := by
    intro v h
    cases h
  have unregistered : "url".toList = "ref".toList → (standard ∅).references = ∅ := fun _ => rfl
  exact ⟨(resolve_text (s := standard ∅) (c := '-') rfl (by decide) (by decide) (by decide) unregistered
      unset).1 plain,
    (resolve_text (s := standard ∅) (c := '-') rfl (by decide) (by decide) (by decide) unregistered
      unset).2 port rfl fun _ => rfl⟩

end Store

end Interpolation
