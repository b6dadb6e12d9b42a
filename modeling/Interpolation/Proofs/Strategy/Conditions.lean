import Interpolation.Proofs.Evaluation.Law
import Interpolation.Proofs.Pattern.Groups
import Interpolation.Proofs.Text.Cutting
import Interpolation.Settings

/-!
# What conditions ask for

* `ConditionKind.asksFor_of_standard`: a condition of the standard registry either decides by its
  attributes alone, or looks up the property that one of them names;
* `ConditionToken.within_of_configure`: the attributes of a condition in a token are no longer
  than the list of attributes.
-/

namespace Interpolation

/-! ## Lengths of parts of texts -/

namespace Text

theorem length_trimStart_le (t : Text) : (trimStart t).length ≤ t.length :=
  (List.dropWhile_suffix _).length_le

theorem length_trim_le (t : Text) : (trim t).length ≤ t.length := by
  have h := length_trimStart_le (trimStart t).reverse
  rw [List.length_reverse] at h
  rw [trim, trimEnd, List.length_reverse]
  exact Nat.le_trans h (length_trimStart_le t)

theorem length_le_of_mem_splitOn {c : Char} {t u : Text} (h : u ∈ splitOn c t) :
    u.length ≤ t.length := by
  induction t generalizing u with
  | nil =>
    rw [splitOn, List.mem_singleton] at h
    exact Nat.le_of_eq (congrArg _ h)
  | cons d cs ih =>
    rw [splitOn] at h
    split at h
    · rcases List.mem_cons.1 h with rfl | h
      · exact Nat.zero_le _
      · exact Nat.le_succ_of_le (ih h)
    · split at h
      · rw [List.mem_singleton.1 h]
        exact Nat.succ_le_succ (Nat.zero_le _)
      · rename_i first others hs
        rcases List.mem_cons.1 h with rfl | h
        · exact Nat.succ_le_succ (ih (hs ▸ List.mem_cons_self))
        · exact Nat.le_succ_of_le (ih (hs ▸ List.mem_cons_of_mem _ h))

end Text

/-! ## Maps -/

namespace TextMap

variable {α : Type}

theorem mem_entries_of_find? {key : Text} {a : α} {entries : List (Text × α)}
    (h : find? key entries = some a) : (key, a) ∈ entries := by
  induction entries with
  | nil => simp [find?] at h
  | cons e rest ih =>
    obtain ⟨k, b⟩ := e
    rw [find?] at h
    split at h
    · rename_i hk
      rw [hk, Option.some.inj h]
      exact List.mem_cons_self
    · exact List.mem_cons_of_mem _ (ih h)

theorem get?_insert (m : TextMap α) (key other : Text) (value : α) :
    (m.insert key value).get? other = if other = key then some value else m.get? other := by
  split
  · rename_i h
    rw [h, get?_insert_self]
  · rename_i h
    exact get?_insert_of_ne m value h

end TextMap

/-! ## The conditions of the standard registry -/

/-- What the value of a condition depends on. -/
inductive ConditionKind.AsksFor (kind : ConditionKind) (a : Attributes) : Prop where
  /-- The attributes alone. -/
  | nothing (r : Except Error Bool) (harmless : Error.Harmless r)
      (h : ∀ ps, kind.holds ps a = Eval.ofExcept r)
  /-- Whether a property is set. -/
  | property (name : Text) (given : Condition.attribute? a "property" = some name)
      (h : ∀ ps, kind.holds ps a =
        Operand.lookup ps name >>= fun o => pure (decide (o ≠ .unset)))

namespace ConditionKind

theorem isSet_holds (ps : Properties) (a : Attributes) (name : Text)
    (h : Condition.attribute? a "property" = some name) :
    Condition.isSet.holds ps a = Operand.lookup ps name >>= fun o => pure (decide (o ≠ .unset)) := by
  simp only [Condition.isSet, h, Operand.lookup, bind_assoc]
  refine bind_congr fun flying => ?_
  cases flying with
  | true => rfl
  | false =>
    simp only [Bool.false_eq_true, if_false, bind_assoc]
    refine bind_congr fun value => ?_
    cases value <;> rfl

/-- The conditions of the standard registry. -/
theorem mem_standard {name : Text} {kind : ConditionKind}
    (h : ConditionRegistry.standard.get? name = some kind) :
    kind ∈ [Condition.equals, Condition.isTrue, Condition.isFalse, Condition.isSet,
      Condition.contains, Condition.matchesPattern] := by
  have := List.mem_map_of_mem (f := Prod.snd) (TextMap.mem_entries_of_find? h)
  exact this

theorem AsksFor.ofPure {kind : ConditionKind} {a : Attributes} {b : Bool}
    (h : ∀ ps, kind.holds ps a = pure b) : kind.AsksFor a :=
  .nothing (.ok b) (Error.harmless_ok b) h

theorem AsksFor.ofFailure {kind : ConditionKind} {a : Attributes} {message : String}
    (h : ∀ ps, kind.holds ps a = Condition.failWith message) : kind.AsksFor a :=
  .nothing _ (Error.harmless_failure message.toList) h

/-- A condition of the standard registry decides by its attributes alone, or by whether a property
is set. -/
theorem asksFor_of_standard {name : Text} {kind : ConditionKind}
    (h : ConditionRegistry.standard.get? name = some kind) (a : Attributes) : kind.AsksFor a := by
  have h := mem_standard h
  simp only [List.mem_cons, List.not_mem_nil, or_false] at h
  rcases h with rfl | rfl | rfl | rfl | rfl | rfl
  · cases hx : Condition.attribute? a "arg1" with
    | none => exact .ofFailure fun _ => by simp only [Condition.equals, hx]; rfl
    | some x =>
      cases hy : Condition.attribute? a "arg2" with
      | none => exact .ofFailure fun _ => by simp only [Condition.equals, hx, hy]; rfl
      | some y => exact .ofPure fun _ => by simp only [Condition.equals, hx, hy]; rfl
  · cases hx : Condition.attribute? a "value" with
    | none => exact .ofFailure fun _ => by simp only [Condition.isTrue, hx]; rfl
    | some x => exact .ofPure fun _ => by simp only [Condition.isTrue, hx]; rfl
  · cases hx : Condition.attribute? a "value" with
    | none => exact .ofFailure fun _ => by simp only [Condition.isFalse, hx]; rfl
    | some x => exact .ofPure fun _ => by simp only [Condition.isFalse, hx]; rfl
  · cases hx : Condition.attribute? a "property" with
    | none => exact .ofFailure fun _ => by simp only [Condition.isSet, hx]; rfl
    | some x => exact .property x hx fun ps => isSet_holds ps a x hx
  · cases hx : Condition.attribute? a "string" with
    | none => exact .ofFailure fun _ => by simp only [Condition.contains, hx]; rfl
    | some x =>
      cases hy : Condition.attribute? a "substring" with
      | none => exact .ofFailure fun _ => by simp only [Condition.contains, hx, hy]; rfl
      | some y => exact .ofPure fun _ => by simp only [Condition.contains, hx, hy, ← apply_ite]; rfl
  · cases hx : Condition.attribute? a "string" with
    | none => exact .ofFailure fun _ => by simp only [Condition.matchesPattern, hx]; rfl
    | some x =>
      cases hy : Condition.attribute? a "pattern" with
      | none => exact .ofFailure fun _ => by simp only [Condition.matchesPattern, hx, hy]; rfl
      | some source =>
        cases hp : Pattern.read (if Condition.switch a "casesensitive" true then source
            else Condition.anyCaseMark ++ source) with
        | ok p => exact .ofPure fun _ => by simp only [Condition.matchesPattern, hx, hy, hp]; rfl
        | error fault =>
          exact .nothing _ (Error.harmless_pattern fault) fun _ => by
            simp only [Condition.matchesPattern, hx, hy, hp]
            rfl

/-- A condition of the standard registry takes attributes under their names in lower case. -/
theorem assign_of_standard {name : Text} {kind : ConditionKind}
    (h : ConditionRegistry.standard.get? name = some kind) :
    ∃ condition known, kind.assign = Condition.assignKnown condition known := by
  have h := mem_standard h
  simp only [List.mem_cons, List.not_mem_nil, or_false] at h
  rcases h with rfl | rfl | rfl | rfl | rfl | rfl <;> exact ⟨_, _, rfl⟩

end ConditionKind

/-! ## The attributes in a token -/

/-- Attributes that are no longer than a number of characters. -/
def Attributes.Within (a : Attributes) (n : Nat) : Prop :=
  ∀ name value, a.get? name = some value → value.length ≤ n

namespace ConditionToken

theorem length_le_of_readAttribute {condition t name value : Text}
    (h : readAttribute condition t = .ok (name, value)) : value.length ≤ t.length := by
  rw [readAttribute] at h
  split at h
  · rename_i before rest hs
    obtain ⟨-, rfl⟩ := Prod.mk.inj (Except.ok.inj h)
    refine Nat.le_trans (Text.length_trim_le rest) ?_
    rw [Text.splitOnce?_eq_some hs, List.length_append, List.length_append]
    omega
  · simp at h

theorem harmless_readAttribute (condition t : Text) :
    Error.Harmless (readAttribute condition t) := by
  rw [readAttribute]
  split
  · exact Error.harmless_ok _
  · exact Error.harmless_failure _

theorem harmless_assignKnown (condition : String) (known : List String) (name value : Text)
    (a : Attributes) : Error.Harmless (Condition.assignKnown condition known name value a) := by
  rw [Condition.assignKnown]
  split
  · exact Error.harmless_ok _
  · exact Error.harmless_failure _

theorem within_of_assignKnown {condition : String} {known : List String} {name value : Text}
    {a a' : Attributes} {n : Nat} (h : Condition.assignKnown condition known name value a = .ok a')
    (ha : a.Within n) (hv : value.length ≤ n) : a'.Within n := by
  rw [Condition.assignKnown] at h
  split at h
  · obtain rfl := Except.ok.inj h
    intro other text ht
    rw [TextMap.get?_insert] at ht
    split at ht
    · rwa [← Option.some.inj ht]
    · exact ha other text ht
  · simp at h

variable {condition : Text} {kind : String} {known : List String} {c c' : Condition} {ts : List Text}

theorem set_eq_ok {name value : Text} (h : c.set name value = .ok c') :
    c'.kind = c.kind ∧ c.kind.assign name value c.attributes = .ok c'.attributes := by
  rw [Condition.set] at h
  cases ha : c.kind.assign name value c.attributes with
  | error e => simp [ha, Except.map] at h
  | ok a =>
    rw [ha] at h
    obtain rfl := Except.ok.inj h
    exact ⟨rfl, rfl⟩

theorem kind_of_configure (h : configure condition c ts = .ok c') : c'.kind = c.kind := by
  induction ts generalizing c with
  | nil =>
    obtain rfl := Except.ok.inj h
    rfl
  | cons t ts ih =>
    obtain ⟨⟨key, value⟩, -, h⟩ := Error.bind_eq_ok h
    obtain ⟨d, hd, h⟩ := Error.bind_eq_ok h
    exact (ih h).trans (set_eq_ok hd).1

theorem harmless_configure (hc : c.kind.assign = Condition.assignKnown kind known) :
    Error.Harmless (configure condition c ts) := by
  induction ts generalizing c with
  | nil => exact Error.harmless_ok _
  | cons t ts ih =>
    rw [configure]
    refine (harmless_readAttribute condition t).bind fun (key, value) _ => ?_
    have hs : Error.Harmless (c.set key value) := by
      rw [Condition.set, hc]
      exact (harmless_assignKnown _ _ key value _).map _
    refine hs.bind fun c' hc' => ih ?_
    rw [(set_eq_ok hc').1, hc]

/-- The attributes of a condition in a token are no longer than those of the list. -/
theorem within_of_configure {n : Nat}
    (hc : c.kind.assign = Condition.assignKnown kind known) (ha : c.attributes.Within n)
    (ht : ∀ t ∈ ts, t.length ≤ n) (h : configure condition c ts = .ok c') :
    c'.kind = c.kind ∧ c'.attributes.Within n := by
  induction ts generalizing c with
  | nil =>
    obtain rfl := Except.ok.inj h
    exact ⟨rfl, ha⟩
  | cons t ts ih =>
    rw [configure] at h
    obtain ⟨⟨key, value⟩, hr, h⟩ := Error.bind_eq_ok h
    obtain ⟨d, hd, h⟩ := Error.bind_eq_ok h
    obtain ⟨hk, hs⟩ := set_eq_ok hd
    rw [hc] at hs
    have hv := Nat.le_trans (length_le_of_readAttribute hr) (ht t List.mem_cons_self)
    rw [← hk]
    exact ih (by rw [hk, hc]) (within_of_assignKnown hs ha hv)
      (fun t hm => ht t (List.mem_cons_of_mem _ hm)) h

end ConditionToken

end Interpolation
