import Interpolation.Proofs.Evaluation.Rules
import Interpolation.Store

/-!
# Congruences and laws

A congruence is a relation between evaluations that they keep when they are composed in the same
way, and a law is a property that they keep. What is composed of lookups and references keeps what
these keep.

* `Eval.Congruence` is what a congruence has to promise;
* `Host.Related` says that what two hosts do when they are asked is related;
* `Eval.Congruence.expand` and `Eval.Congruence.nextReference`: texts and the references in them are
  related if the hosts and the values of properties are;
* `Eval.Law` is what a law has to promise, `Host.Obeys` says that a host keeps it; a law is a
  congruence on equal evaluations (`Eval.Law.congruence`).
-/

namespace Interpolation

/-- Whether an error reports a guard out of balance. -/
def Error.IsImbalance : Error → Prop
  | .imbalance _ _ => True
  | _ => False

/-- An outcome that is no imbalance. -/
structure Error.Harmless {α : Type} (r : Except Error α) : Prop where
  not_imbalance : ∀ e, r = .error e → ¬e.IsImbalance

namespace Error

variable {α β : Type}

theorem harmless_ok (a : α) : Harmless (.ok a) := ⟨nofun⟩

theorem harmless_error {e : Error} (h : ¬e.IsImbalance) :
    Harmless (.error e : Except Error α) := by
  refine ⟨fun e' he => ?_⟩
  obtain rfl := Except.error.inj he
  exact h

theorem harmless_failure (message : Text) : Harmless (.error (.failure message) : Except Error α) :=
  harmless_error id

theorem harmless_pattern (fault : Pattern.Fault) :
    Harmless (.error (.pattern fault) : Except Error α) :=
  harmless_error id

theorem bind_eq_ok {r : Except Error α} {f : α → Except Error β} {b : β}
    (h : r >>= f = .ok b) : ∃ a, r = .ok a ∧ f a = .ok b := by
  cases r with
  | error e => cases h
  | ok a => exact ⟨a, rfl, h⟩

theorem Harmless.bind {r : Except Error α} {f : α → Except Error β} (h : Harmless r)
    (hf : ∀ a, r = .ok a → Harmless (f a)) : Harmless (r >>= f) := by
  cases r with
  | error e => exact harmless_error (h.not_imbalance e rfl)
  | ok a => exact hf a rfl

theorem Harmless.map {r : Except Error α} (h : Harmless r) (f : α → β) : Harmless (r.map f) := by
  cases r with
  | error e => exact harmless_error (h.not_imbalance e rfl)
  | ok a => exact harmless_ok _

end Error

/-! ## Congruences -/

/-- A relation between evaluations that they keep when they are composed in the same way. -/
structure Eval.Congruence (R : ∀ ⦃α : Type⦄, Eval α → Eval α → Prop) : Prop where
  ofExcept : ∀ {α : Type} {r : Except Error α}, Error.Harmless r →
    R (Eval.ofExcept r) (Eval.ofExcept r)
  bind : ∀ {α β : Type} {e e' : Eval α} {f f' : α → Eval β}, R e e' → (∀ a, R (f a) (f' a)) →
    R (e >>= f) (e' >>= f')
  exhausted : ∀ {α : Type}, R (Eval.exhausted : Eval α) Eval.exhausted

variable {R : ∀ ⦃α : Type⦄, Eval α → Eval α → Prop} {α β : Type} {host host' : Host}

/-- What two hosts do when they are asked for properties and references is related. -/
structure Host.Related (R : ∀ ⦃α : Type⦄, Eval α → Eval α → Prop) (host host' : Host) : Prop where
  lookup : ∀ name, R (host.lookup name) (host'.lookup name)
  isInFlight : ∀ name, R (host.isInFlight name) (host'.isInFlight name)
  nextReference : ∀ input pos,
    R ((host.nextReference input).runFrom pos) ((host'.nextReference input).runFrom pos)

namespace Eval.Congruence

theorem pure (congruence : Congruence R) (a : α) : R (Pure.pure a : Eval α) (Pure.pure a) :=
  congruence.ofExcept (Error.harmless_ok a)

theorem map (congruence : Congruence R) {e e' : Eval α} (f : α → β) (h : R e e') :
    R (f <$> e) (f <$> e') :=
  congruence.bind h fun a => congruence.pure (f a)

theorem ofEval (congruence : Congruence R) {e e' : Eval α} (h : R e e') (pos : Nat) :
    R ((Scan.ofEval e).runFrom pos) ((Scan.ofEval e').runFrom pos) := by
  rw [Scan.runFrom_ofEval, Scan.runFrom_ofEval]
  exact congruence.bind h fun a => congruence.pure _

theorem operandLookup (congruence : Congruence R) (related : host.Related R host') (name : Text) :
    R (Operand.lookup host.toProperties name) (Operand.lookup host'.toProperties name) := by
  refine congruence.bind (related.isInFlight name) fun flying => ?_
  cases flying with
  | true => exact congruence.pure _
  | false =>
    refine congruence.bind (related.lookup name) fun value => ?_
    cases value <;> exact congruence.pure _

/-- Strategies that are tried in order are related if each of them is. -/
theorem firstAnswer (congruence : Congruence R) {token : Text} {ds : List Strategy}
    (h : ∀ d ∈ ds, R (d.evaluate host token) (d.evaluate host' token)) :
    R (Strategy.firstAnswer ds host token) (Strategy.firstAnswer ds host' token) := by
  induction ds with
  | nil => exact congruence.pure none
  | cons d ds ih =>
    refine congruence.bind (h d List.mem_cons_self) fun answer => ?_
    cases answer with
    | some v => exact congruence.pure _
    | none => exact ih fun d hd => h d (List.mem_cons_of_mem _ hd)

/-! ## Texts -/

theorem readNameFrom (congruence : Congruence R) (related : host.Related R host') (input : Text)
    (fuel : Nat) : ∀ name pos, R ((Reference.readNameFrom host input fuel name).runFrom pos)
      ((Reference.readNameFrom host' input fuel name).runFrom pos) := by
  induction fuel with
  | zero => exact fun _ _ => congruence.exhausted
  | succ fuel ih =>
    intro name pos
    rw [Reference.readNameFrom, Reference.readNameFrom, Scan.runFrom_position_bind,
      Scan.runFrom_position_bind]
    split
    · exact congruence.pure _
    · split
      · exact congruence.pure _
      · rw [Scan.runFrom_bind, Scan.runFrom_bind]
        refine congruence.bind (related.nextReference input pos) fun ⟨found, pos⟩ => ?_
        cases found with
        | some v => exact ih _ _
        | none =>
          rw [Scan.runFrom_position_bind, Scan.runFrom_position_bind]
          split
          · exact congruence.pure _
          · exact ih _ _

theorem readName (congruence : Congruence R) (related : host.Related R host') (input : Text)
    (pos : Nat) : R ((Reference.readName host input).runFrom pos)
      ((Reference.readName host' input).runFrom pos) := by
  rw [Reference.readName, Reference.readName, Scan.runFrom_position_bind,
    Scan.runFrom_position_bind]
  split
  · rw [Scan.runFrom_moveTo_bind, Scan.runFrom_moveTo_bind, Scan.runFrom_bind, Scan.runFrom_bind]
    refine congruence.bind (congruence.readNameFrom related input _ _ _) fun ⟨found, pos⟩ => ?_
    cases found with
    | some name => exact congruence.pure _
    | none => exact congruence.pure _
  · exact congruence.pure _

theorem expandFrom (congruence : Congruence R) (related : host.Related R host') (text : Text)
    (fuel : Nat) : ∀ pos, R (Reference.expandFrom host text fuel pos)
      (Reference.expandFrom host' text fuel pos) := by
  induction fuel with
  | zero => exact fun _ => congruence.exhausted
  | succ fuel ih =>
    intro pos
    rw [Reference.expandFrom, Reference.expandFrom]
    split
    · exact congruence.pure _
    · exact congruence.pure _
    · split
      · exact congruence.bind (ih _) fun out => congruence.pure _
      · refine congruence.bind (related.nextReference text pos) fun ⟨found, pos⟩ => ?_
        cases found with
        | some v => exact congruence.bind (ih _) fun out => congruence.pure _
        | none => exact congruence.bind (ih _) fun out => congruence.pure _

/-- The expansions of a text are related if the references in it are. -/
theorem expand (congruence : Congruence R) (related : host.Related R host') (text : Text) :
    R (Reference.expand host text) (Reference.expand host' text) :=
  congruence.expandFrom related text _ _

/-- References are related if the values of properties are. -/
theorem nextReference (congruence : Congruence R) (related : host.Related R host')
    (r r' : Resolver) (value : ∀ name, R (r.propertyValue host name) (r'.propertyValue host' name))
    (input : Text) (pos : Nat) : R ((r.nextReference host input).runFrom pos)
      ((r'.nextReference host' input).runFrom pos) := by
  rw [Resolver.nextReference, Resolver.nextReference, Scan.runFrom_position_bind,
    Scan.runFrom_position_bind, Scan.runFrom_bind, Scan.runFrom_bind]
  refine congruence.bind (congruence.readName related input pos) fun ⟨found, stop⟩ => ?_
  cases found with
  | none => exact congruence.pure _
  | some name =>
    rw [Scan.runFrom_bind, Scan.runFrom_bind]
    refine congruence.bind (congruence.ofEval (value name) stop) fun ⟨v, stop⟩ => ?_
    cases v with
    | some v => exact congruence.pure _
    | none => exact congruence.pure _

end Eval.Congruence

/-! ## Laws -/

/-- A property that evaluations keep when they are composed. -/
structure Eval.Law (I : ∀ ⦃α : Type⦄, Eval α → Prop) : Prop where
  ofExcept : ∀ {α : Type} {r : Except Error α}, Error.Harmless r → I (Eval.ofExcept r)
  bind : ∀ {α β : Type} {e : Eval α} {f : α → Eval β}, I e → (∀ a, I (f a)) → I (e >>= f)
  exhausted : ∀ {α : Type}, I (Eval.exhausted : Eval α)

variable {I : ∀ ⦃α : Type⦄, Eval α → Prop}

/-- What a host does when it is asked for properties and references keeps a law. -/
structure Host.Obeys (host : Host) (I : ∀ ⦃α : Type⦄, Eval α → Prop) : Prop where
  lookup : ∀ name, I (host.lookup name)
  isInFlight : ∀ name, I (host.isInFlight name)
  nextReference : ∀ input pos, I ((host.nextReference input).runFrom pos)

/-- Equal evaluations that keep a law. -/
def Eval.Same (I : ∀ ⦃α : Type⦄, Eval α → Prop) ⦃α : Type⦄ (e e' : Eval α) : Prop :=
  e = e' ∧ I e

theorem Host.Obeys.related (obeys : host.Obeys I) : host.Related (Eval.Same I) host :=
  ⟨fun name => ⟨rfl, obeys.lookup name⟩, fun name => ⟨rfl, obeys.isInFlight name⟩,
    fun input pos => ⟨rfl, obeys.nextReference input pos⟩⟩

theorem Host.Related.obeys (related : host.Related (Eval.Same I) host) : host.Obeys I :=
  ⟨fun name => (related.lookup name).2, fun name => (related.isInFlight name).2,
    fun input pos => (related.nextReference input pos).2⟩

namespace Eval.Law

theorem pure (law : Law I) (a : α) : I (Pure.pure a : Eval α) :=
  law.ofExcept (Error.harmless_ok a)

theorem map (law : Law I) {e : Eval α} (f : α → β) (h : I e) : I (f <$> e) :=
  law.bind h fun a => law.pure (f a)

/-- A law is a congruence on equal evaluations. -/
theorem congruence (law : Law I) : Congruence (Same I) where
  ofExcept h := ⟨rfl, law.ofExcept h⟩
  bind := by
    rintro α β e _ f f' ⟨rfl, he⟩ hf
    obtain rfl : f = f' := funext fun a => (hf a).1
    exact ⟨rfl, law.bind he fun a => (hf a).2⟩
  exhausted := ⟨rfl, law.exhausted⟩

theorem operandLookup (law : Law I) (obeys : host.Obeys I) (name : Text) :
    I (Operand.lookup host.toProperties name) :=
  (law.congruence.operandLookup obeys.related name).2

/-- The expansion of a text keeps the laws that the references in it keep. -/
theorem expand (law : Law I) (obeys : host.Obeys I) (text : Text) :
    I (Reference.expand host text) :=
  (law.congruence.expand obeys.related text).2

end Eval.Law

end Interpolation
