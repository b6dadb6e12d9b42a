import Interpolation.Proofs.Operator.Reader
import Interpolation.Proofs.Session.Rules
import Interpolation.Proofs.Strategy.Conditions

/-!
# Whether a property is set

The condition `isset` and the operators `:-`, `:=` and `:?` each find out on their own whether a property
is set, by a lookup that may lead anywhere and change anything.

* `Resolver.run_operandLookup_eq`: what they make of the lookup depends on whether the property is in
  flight (`Resolver.flies`) in the state in front;
* `Host.run_isSet` and `Operator.run_textOperator`: the condition and the operators go on from there;
* `Resolver.isSet_agrees`: they agree in every state of a session.
-/

namespace Interpolation

variable {host : Host} {r : Resolver} {depth : Nat} {s t : State} {n d m : Text} {c : Char}

/-! ## Lookups -/

namespace Resolver

/-- Whether a property is stored and being expanded in a state. -/
def flies (r : Resolver) (s : State) (n : Text) : Bool :=
  s.guard.contains ⟨r.scope, n⟩ && s.properties.contains n

/-- A property as it was in a state, when its lookup has found a value or nothing. -/
def operand (r : Resolver) (s : State) (n : Text) (v : Option Text) : Operand :=
  if r.flies s n then .inFlight else v.elim .unset .set

/-- The lookup of a property in flight finds nothing. -/
theorem run_lookup_of_flies (h : r.flies s n) :
    (r.host (depth + 1)).lookup n s = some (.ok none, s) := by
  obtain ⟨hguard, hstored⟩ := Bool.and_eq_true_iff.1 h
  obtain ⟨raw, hraw⟩ := Option.isSome_iff_exists.1 hstored
  show r.lookup (r.host depth) n s = _
  rw [lookup, Eval.run_bind, run_propertyValue_of_inFlight hraw hguard]
  rfl

theorem operand_ne_unset_iff {v : Option Text} : r.operand s n v ≠ .unset ↔ r.flies s n ∨ v.isSome := by
  cases h : r.flies s n <;> cases v <;> simp [operand, h]

theorem value?_operand {v : Option Text} (h : r.flies s n → v = none) : (r.operand s n v).value? = v := by
  cases hf : r.flies s n with
  | true => rw [h hf, operand, if_pos hf, Operand.value?]
  | false => cases v <;> simp [operand, hf, Operand.value?]

/-- In a session, the lookup decides about everything but being in flight. -/
theorem run_operandLookup_eq (r : Resolver) (depth : Nat) (s : State) (n : Text) :
    Operand.lookup (r.host (depth + 1)).toProperties n s =
      ((r.host (depth + 1)).lookup n s).map fun (v, t) => (v.map (r.operand s n), t) := by
  cases h : r.flies s n with
  | true =>
    rw [run_lookup_of_flies h, host, run_operandLookup_of_inFlight none (depth + 1) h]
    simp [operand, h, Except.map]
  | false =>
    rw [host, run_operandLookup none (depth + 1) h, Eval.run_bind]
    cases (r.hostWith none (depth + 1)).lookup n s with
    | none => rfl
    | some o =>
      obtain ⟨e | v, t⟩ := o
      · rfl
      · cases v <;> simp [operand, h, Except.map, Eval.goOn]

end Resolver

/-! ## The condition and the operators -/

/-- Tests the condition `isset` for a property. -/
def Host.isSet (host : Host) (n : Text) : Eval Bool := do
  let c ← Eval.ofExcept ((Condition.ofKind Condition.isSet).set "property".toList n)
  c.eval host.toProperties

theorem Host.run_isSet {o : Option (Except Error Operand × State)}
    (h : Operand.lookup host.toProperties n s = o) :
    host.isSet n s = o.bind (Eval.goOn fun o => pure (decide (o ≠ .unset))) := by
  rw [← h, ← Eval.run_bind, ← ConditionKind.isSet_holds host.toProperties
    (TextMap.insert ∅ "property".toList n) n (TextMap.get?_insert_self ..)]
  rfl

/-- To store a property is to go on to another state. -/
theorem State.withProperties_ne (t : State) (ps : TextMap Text) : t.withProperties ps ≠ t := by
  intro h
  have := congrArg (fun s : State => s.past.length) h
  simp [State.withProperties, State.history] at this

namespace Operator

variable (hn : ':' ∉ n) (hc : c ∈ ['-', '=', '?']) (hd : '\n' ∉ d)

include hn hc hd

theorem run_textOperator {o : Option (Except Error Operand × State)}
    (h : Operand.lookup host.toProperties n s = o) :
    (textOperator c).evaluate host (n ++ ':' :: c :: d) s = o.bind (Eval.goOn fun
      | .set value => pure (some (.text value))
      | .inFlight => pure none
      | .unset => fallback host n d c) := by
  rw [evaluate_textOperator hn hc hd, ← h]
  exact Eval.run_bind ..

/-- If a property is set or in flight, all three operators give what there is of a value. -/
theorem run_textOperator_of_ne_unset {o : Operand}
    (h : Operand.lookup host.toProperties n s = some (.ok o, t)) (ho : o ≠ .unset) :
    (textOperator c).evaluate host (n ++ ':' :: c :: d) s = some (.ok (o.value?.map .text), t) := by
  rw [run_textOperator hn hc hd h]
  cases o with
  | set | inFlight => rfl
  | unset => exact absurd rfl ho

/-- If a property is unset, each of them does what it does then. -/
theorem run_textOperator_of_unset (h : Operand.lookup host.toProperties n s = some (.ok .unset, t)) :
    (textOperator c).evaluate host (n ++ ':' :: c :: d) s = fallback host n d c t := by
  rw [run_textOperator hn hc hd h]
  rfl

omit hc hd in
/-- `:-` gives back whatever text stands behind it just if the property is unset. -/
theorem defaultValue_falls_back_iff {o : Operand}
    (h : Operand.lookup host.toProperties n s = some (.ok o, t)) :
    (∀ d, '\n' ∉ d → defaultValue.evaluate host (n ++ ':' :: '-' :: d) s = some (.ok (some (.text d)), t)) ↔
      o = .unset := by
  constructor
  · intro hall
    refine Decidable.byContradiction fun ho => ?_
    -- the value cannot be each of two texts
    have answer {d : Text} (hd : '\n' ∉ d) : o.value?.map Value.text = some (.text d) :=
      (Eval.ok_inj ((run_textOperator_of_ne_unset (c := '-') hn (by decide) hd h ho).symm.trans (hall d hd))).1
    cases (answer (d := []) (by decide)).symm.trans (answer (d := ['x']) (by decide))
  · rintro rfl d hd
    exact run_textOperator_of_unset (c := '-') hn (by decide) hd h

omit hc in
/-- `:=` leaves the state as the lookup has left it just if the property is not unset. -/
theorem setDefault_leaves_iff {o : Operand} (hassign : host.assign = Host.storeProperty)
    (h : Operand.lookup host.toProperties n s = some (.ok o, t)) :
    (∃ a, setDefault.evaluate host (n ++ ':' :: '=' :: d) s = some (.ok a, t)) ↔ o ≠ .unset := by
  constructor
  · rintro ⟨a, ha⟩ rfl
    have hstored := (run_textOperator_of_unset (c := '=') hn (by decide) hd h).symm.trans ha
    simp only [fallback, hassign] at hstored
    exact State.withProperties_ne _ _ (Eval.outcome_inj hstored).2
  · exact fun ho => ⟨_, run_textOperator_of_ne_unset (c := '=') hn (by decide) hd h ho⟩

omit hc in
/-- `:?` fails just if the property is unset. -/
theorem require_fails_iff {o : Operand} (h : Operand.lookup host.toProperties n s = some (.ok o, t)) :
    (∃ e u, require.evaluate host (n ++ ':' :: '?' :: d) s = some (.error e, u)) ↔ o = .unset := by
  constructor
  · rintro ⟨e, u, he⟩
    refine Decidable.byContradiction fun ho => ?_
    cases (run_textOperator_of_ne_unset (c := '?') hn (by decide) hd h ho).symm.trans he
  · rintro rfl
    exact ⟨_, _, run_textOperator_of_unset (c := '?') hn (by decide) hd h⟩

end Operator

/-! ## Agreement -/

/-- In every state, the condition `isset` for a property and the operators with a text behind the property
end with the error of its lookup if there is one, and do not end if the lookup does not. Otherwise the
condition holds just if the property is in flight or has a value. This is when `:?` does not fail, when `:=`
leaves the state as the lookup has left it, and when `:-` does not give back any text behind it; then all
three give the value, or nothing if the property is in flight. If the condition does not hold, `:=` stores
its text. -/
theorem Resolver.isSet_agrees (r : Resolver) (depth : Nat) (s : State) (hn : ':' ∉ n) (hd : '\n' ∉ d)
    (hm : '\n' ∉ m) :
    let host := r.host (depth + 1)
    let byDefault (d : Text) := Operator.defaultValue.evaluate host (n ++ ':' :: '-' :: d) s
    let bySetDefault := Operator.setDefault.evaluate host (n ++ ':' :: '=' :: d) s
    let byRequire := Operator.require.evaluate host (n ++ ':' :: '?' :: m) s
    match host.lookup n s with
    | none => host.isSet n s = none ∧ byDefault d = none ∧ bySetDefault = none ∧ byRequire = none
    | some (.error e, t) =>
      host.isSet n s = some (.error e, t) ∧ byDefault d = some (.error e, t) ∧
        bySetDefault = some (.error e, t) ∧ byRequire = some (.error e, t)
    | some (.ok v, t) =>
      ∃ set, host.isSet n s = some (.ok set, t) ∧ (set = true ↔ r.flies s n ∨ v.isSome) ∧
        (set = true ↔ ¬∃ e u, byRequire = some (.error e, u)) ∧
        (set = true ↔ ∃ a, bySetDefault = some (.ok a, t)) ∧
        (set = true ↔ ¬∀ d, '\n' ∉ d → byDefault d = some (.ok (some (.text d)), t)) ∧
        (set = true → byDefault d = some (.ok (v.map .text), t) ∧
          bySetDefault = some (.ok (v.map .text), t) ∧ byRequire = some (.ok (v.map .text), t)) ∧
        (set = false → bySetDefault =
          some (.ok (some (.text d)), t.withProperties (t.properties.insert n d))) ∧
        (r.flies s n → v = none) := by
  intro host byDefault bySetDefault byRequire
  have operator {c : Char} (hc : c ∈ ['-', '=', '?']) {d : Text} (hd : '\n' ∉ d) {o}
      (h : Operand.lookup host.toProperties n s = o) := Operator.run_textOperator hn hc hd h
  have hoperand : Operand.lookup host.toProperties n s =
    (host.lookup n s).map fun (v, t) => (v.map (r.operand s n), t) := r.run_operandLookup_eq depth s n
  cases hlookup : host.lookup n s with
  | none =>
    rw [hlookup] at hoperand
    exact ⟨Host.run_isSet hoperand, operator (c := '-') (by decide) hd hoperand,
      operator (c := '=') (by decide) hd hoperand, operator (c := '?') (by decide) hm hoperand⟩
  | some o =>
    rw [hlookup] at hoperand
    obtain ⟨e | v, t⟩ := o
    · exact ⟨Host.run_isSet hoperand, operator (c := '-') (by decide) hd hoperand,
        operator (c := '=') (by decide) hd hoperand, operator (c := '?') (by decide) hm hoperand⟩
    · replace hoperand : Operand.lookup host.toProperties n s = some (.ok (r.operand s n v), t) := hoperand
      have hflies (h : r.flies s n) : v = none :=
        (Eval.ok_inj (hlookup.symm.trans (run_lookup_of_flies h))).1
      have answer {c : Char} (hc : c ∈ ['-', '=', '?']) {d : Text} (hd : '\n' ∉ d) :=
        Operator.run_textOperator_of_ne_unset hn hc hd hoperand
      rw [value?_operand hflies] at answer
      refine ⟨_, Host.run_isSet hoperand, ?_, ?_, ?_, ?_, fun h => ?_, fun h => ?_, hflies⟩
      · rw [decide_eq_true_iff, operand_ne_unset_iff]
      · rw [decide_eq_true_iff, Operator.require_fails_iff hn hm hoperand]
      · rw [decide_eq_true_iff, Operator.setDefault_leaves_iff hn hd rfl hoperand]
      · rw [decide_eq_true_iff, Operator.defaultValue_falls_back_iff hn hoperand]
      · have hset := of_decide_eq_true h
        exact ⟨answer (c := '-') (by decide) hd hset, answer (c := '=') (by decide) hd hset,
          answer (c := '?') (by decide) hm hset⟩
      · have hunset := Decidable.not_not.1 (of_decide_eq_false h)
        exact Operator.run_textOperator_of_unset (c := '=') hn (by decide) hd (hunset ▸ hoperand)

/-- A property that is being expanded counts as set, and the operators give nothing for it. -/
theorem Resolver.isSet_agrees_inFlight :
    let store := Store.standard (.ofList [("p".toList, "${p}".toList)])
    let s := store.state (Guard.empty.push ⟨store.resolver.scope, "p".toList⟩)
    let host := store.resolver.host 1
    host.lookup "p".toList s = some (.ok none, s) ∧ host.isSet "p".toList s = some (.ok true, s) ∧
      Operator.defaultValue.evaluate host "p:-d".toList s = some (.ok none, s) ∧
      Operator.setDefault.evaluate host "p:=d".toList s = some (.ok none, s) ∧
      Operator.require.evaluate host "p:?m".toList s = some (.ok none, s) := by
  intro store s host
  have hflies : store.resolver.flies s "p".toList := by decide
  have hlookup : host.lookup "p".toList s = some (.ok none, s) := run_lookup_of_flies hflies
  have h := isSet_agrees store.resolver 0 s (n := "p".toList) (d := "d".toList) (m := "m".toList)
    (by decide) (by decide) (by decide)
  simp only [show (store.resolver.host (0 + 1)).lookup "p".toList s = _ from hlookup] at h
  obtain ⟨set, hset, hiff, -, -, -, hanswers, -, -⟩ := h
  obtain rfl : set = true := hiff.2 (.inl hflies)
  obtain ⟨hdefault, hsetDefault, hrequire⟩ := hanswers rfl
  exact ⟨hlookup, hset, hdefault, hsetDefault, hrequire⟩

end Interpolation
