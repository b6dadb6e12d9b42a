import Interpolation.Proofs.Operator.FirstSign
import Interpolation.Proofs.Session.Verbatim

/-!
# Sessions that share a store

Sessions have guards of their own, but the store that they read and write is one. It takes one request at a
time, in whatever order the requests of different sessions reach it. A session with a token such as `n:=d` asks
for `n`, and writes `d` if it is told that `n` is unset. By then others may have been told the same.

* `Operator.evaluate_eq_told`: an evaluation with `:=` asks for its property once, and what it does further
  depends on the answer alone (`Host.told`);
* `Sharing` is a store and how far its sessions have come, `Sharing.turn` is a request of one of them, and
  `Sharing.run` an order of requests; `Sharing.turn_turn_eq_resolve`: a session that nobody comes between does
  what the store does by itself;
* `Sharing.openers` are the sessions that have asked before anything is written. While there are no others the
  store is only read (`Sharing.Reading`), and from the first write on the property holds the text of one of
  them (`Sharing.Written`);
* `Sharing.agree_iff`: the openers answer with their own texts and all others with the text of an opener, so
  that sessions agree just if the openers have the same text.
-/

namespace Interpolation

/-! ## What a session asks for -/

/-- A host that has found out before what the property of a token is: it is not in flight, and has this
value. -/
def Host.told (host : Host) (found : Option Text) : Host :=
  { host with
    lookup := fun _ => pure found
    isInFlight := fun _ => pure false }

namespace Operator

variable {host : Host} {token n d : Text}

theorem evaluate_setDefault (h : setDefault.Accepts token n d) (host : Host) :
    setDefault.evaluate host token = orElse host n (fallback host n d '=') := by
  obtain ⟨g, hg, rfl, rfl⟩ := h
  rw [evaluate, hg]
  rfl

/-- What is done with the answer. -/
theorem evaluate_told (h : setDefault.Accepts token n d) (host : Host) (found : Option Text) :
    setDefault.evaluate (host.told found) token =
      match found with
      | some v => pure (some (.text v))
      | none => fallback host n d '=' := by
  rw [evaluate_setDefault h]
  cases found <;> rfl

/-- The property is asked for once, unless it is in flight, and everything else depends on the answer. -/
theorem evaluate_eq_told (h : setDefault.Accepts token n d) (host : Host) :
    setDefault.evaluate host token = (do
      if ← host.isInFlight n then pure none
      else setDefault.evaluate (host.told (← host.lookup n)) token) := by
  rw [evaluate_setDefault h, orElse, Operand.lookup, bind_assoc]
  refine bind_congr fun flies => ?_
  cases flies with
  | true => rfl
  | false =>
    simp only [Bool.false_eq_true, if_false, bind_assoc]
    refine bind_congr fun found => ?_
    rw [evaluate_told h]
    cases found <;> rfl

/-- A name without colons is the name of the token that it makes with a text. -/
theorem accepts_setDefault (hn : ':' ∉ n) (hd : '\n' ∉ d) :
    setDefault.Accepts (n ++ ':' :: '=' :: d) n d := by
  obtain ⟨g, hg⟩ := Option.isSome_iff_exists.1
    ((isSome_recognize?_textGrammar_iff hn (by decide) hd).2 (rfl : '=' = '='))
  exact ⟨g, hg, (recognize?_textGrammar_eq_some hn (by decide) hg).2⟩

end Operator

/-- What a session does with the answer to its read. -/
theorem Store.session_told {token n d : Text} (h : Operator.setDefault.Accepts token n d) (s : Store)
    (found : Option Text) :
    s.session (Operator.setDefault.evaluate ((s.resolver.host usualDepth).told found) token) =
      some (match found with
        | some v => (.ok (some (.text v)), s)
        | none => (.ok (some (.text d)), s.setProperty n d)) := by
  rw [session, Operator.evaluate_told h]
  cases found with
  | some v => rfl
  | none =>
    dsimp only [Operator.fallback]
    rw [Resolver.host_assign]
    rfl

@[simp] theorem Store.setProperty_setProperty (s : Store) (n a b : Text) :
    (s.setProperty n a).setProperty n b = s.setProperty n b := by
  simp [setProperty]

/-! ## Requests of several sessions -/

/-- How far a session has come. -/
inductive Sharing.Stage where
  | waiting
  /-- The store has answered the read of the property. -/
  | told (found : Option Text)
  | ended (answer : Except Error (Option Value))

/-- A store and the sessions that share it. -/
structure Sharing (ι : Type) where
  store : Store
  stage : ι → Sharing.Stage

namespace Sharing

variable {ι : Type} [DecidableEq ι]

/-- Nothing has been asked yet. -/
def start (store : Store) : Sharing ι := ⟨store, fun _ => .waiting⟩

/-- The next request of a session with the token `n:=text` reaches the store: first the read of the property,
then whatever the operator does once it has been told. A session that has ended asks for nothing. -/
def turn (n : Text) (text : ι → Text) (s : Sharing ι) (i : ι) : Sharing ι :=
  match s.stage i with
  | .waiting => { s with stage := Function.update s.stage i (.told (s.store.property? n)) }
  | .told found =>
    let host := (s.store.resolver.host usualDepth).told found
    match s.store.session (Operator.setDefault.evaluate host (n ++ ':' :: '=' :: text i)) with
    | some (answer, store) => ⟨store, Function.update s.stage i (.ended answer)⟩
    | none => s
  | .ended _ => s

/-- Requests in the order in which they reach the store. -/
def run (n : Text) (text : ι → Text) (s : Sharing ι) (order : List ι) : Sharing ι :=
  order.foldl (turn n text) s

variable {n : Text} {text : ι → Text} {s : Sharing ι} {i j : ι} {store : Store} {readers : List ι}

namespace Stage

/-- A session that has ended with a text. -/
def answered (t : Text) : Stage := .ended (.ok (some (.text t)))

/-- How far a turn takes a session with the given text, if the given value is stored. -/
def next (stored : Option Text) (d : Text) : Stage → Stage
  | .waiting => .told stored
  | .told found => .answered (found.getD d)
  | .ended answer => .ended answer

/-- What a turn of a session with the given text leaves of the store. -/
def write (store : Store) (n d : Text) : Stage → Store
  | .told none => store.setProperty n d
  | .waiting | .told (some _) | .ended _ => store

/-- How many turns a session has had, as far as they matter. -/
def turns : Stage → Nat
  | .waiting => 0
  | .told _ => 1
  | .ended _ => 2

theorem turns_le (stage : Stage) : stage.turns ≤ 2 := by
  cases stage <;> simp [turns]

theorem turns_next (stage : Stage) (stored : Option Text) (d : Text) :
    (stage.next stored d).turns = min 2 (stage.turns + 1) := by
  cases stage <;> rfl

theorem answered_inj {t u : Text} : answered t = answered u ↔ t = u := by
  simp [answered]

end Stage

/-- All that a turn does: a session that has been told that the property is unset writes its text, and nothing
else is written. -/
theorem turn_eq (h : Operator.setDefault.Accepts (n ++ ':' :: '=' :: text i) n (text i)) (s : Sharing ι) :
    s.turn n text i = ⟨(s.stage i).write s.store n (text i),
      Function.update s.stage i ((s.stage i).next (s.store.property? n) (text i))⟩ := by
  rw [turn]
  cases hi : s.stage i with
  | waiting => rfl
  | told found =>
    simp only [Store.session_told h]
    cases found <;> rfl
  | ended answer =>
    rw [Stage.next, ← hi, Function.update_eq_self, hi]
    rfl

theorem store_turn (h : Operator.setDefault.Accepts (n ++ ':' :: '=' :: text i) n (text i)) (s : Sharing ι) :
    (s.turn n text i).store = (s.stage i).write s.store n (text i) := by
  rw [turn_eq h]

theorem stage_turn_self (h : Operator.setDefault.Accepts (n ++ ':' :: '=' :: text i) n (text i))
    (s : Sharing ι) :
    (s.turn n text i).stage i = (s.stage i).next (s.store.property? n) (text i) := by
  rw [turn_eq h]
  exact Function.update_self ..

theorem stage_turn_of_ne (h : Operator.setDefault.Accepts (n ++ ':' :: '=' :: text i) n (text i))
    (s : Sharing ι) (hj : j ≠ i) : (s.turn n text i).stage j = s.stage j := by
  rw [turn_eq h]
  exact Function.update_of_ne hj ..

/-- A session that nobody comes between does what the store does by itself, if the store has the usual chain,
the value that it may find needs no expanding, and nothing is registered that the token is a reference to. -/
theorem turn_turn_eq_resolve {first : Nat} (hs : s.store.resolver.chain = .standard first)
    (hi : s.stage i = .waiting) (hn : n.isPlainName) (hline : '\n' ∉ text i)
    (hslice : ¬(text i).EndsInSlice) (href : n = "ref".toList → s.store.reference? ('=' :: text i) = none)
    (hv : ∀ v, s.store.property? n = some v → '$' ∉ v) :
    let s' := (s.turn n text i).turn n text i
    ∃ answer, s'.stage i = .ended answer ∧
      s.store.resolve (n ++ ':' :: '=' :: text i) = some (answer, s'.store) := by
  intro s'
  have haccepts : Operator.setDefault.Accepts (n ++ ':' :: '=' :: text i) n (text i) :=
    Operator.accepts_setDefault (Text.not_mem_of_isPlainName hn (by decide)) hline
  have hmisread : ¬Text.Misread '=' (text i) := fun h =>
    hslice (h.resolve_right fun h => absurd h.1 (by decide))
  have hstage : (s.turn n text i).stage i = .told (s.store.property? n) := by
    rw [stage_turn_self haccepts, hi]
    rfl
  have hstore : (s.turn n text i).store = s.store := by
    rw [store_turn haccepts, hi]
    rfl
  have hended : s'.stage i = .answered ((s.store.property? n).getD (text i)) := by
    show ((s.turn n text i).turn n text i).stage i = _
    rw [stage_turn_self haccepts, hstage]
    rfl
  have hwritten : s'.store = Stage.write s.store n (text i) (.told (s.store.property? n)) := by
    show ((s.turn n text i).turn n text i).store = _
    rw [store_turn haccepts (s.turn n text i), hstage, hstore]
  have hresolve := Store.resolve_verbatim hs hn (List.mem_cons_of_mem '-' List.mem_cons_self) hline hmisread
    (Strategy.unregistered_of_plainName hn href) hv
  refine ⟨(Operator.verbatim s.store.properties n (text i) '=').1, ?_⟩
  rw [hresolve, hended, hwritten, Store.property?]
  cases hget : s.store.properties.get? n with
  | some v => simp only [Operator.verbatim, hget]; exact ⟨rfl, rfl⟩
  | none => simp only [Operator.verbatim, hget]; exact ⟨rfl, rfl⟩

/-! ## All sessions have their turns -/

section Orders

variable (haccepts : ∀ i, Operator.setDefault.Accepts (n ++ ':' :: '=' :: text i) n (text i))

include haccepts

theorem turns_turn (s : Sharing ι) (i j : ι) :
    ((s.turn n text i).stage j).turns = min 2 ((s.stage j).turns + if i = j then 1 else 0) := by
  by_cases hij : i = j
  · subst hij
    rw [if_pos rfl, stage_turn_self (haccepts i), Stage.turns_next]
  · have := (s.stage j).turns_le
    rw [if_neg hij, stage_turn_of_ne (haccepts i) s (Ne.symm hij)]
    omega

/-- A session that has had two turns has ended. -/
theorem turns_run (s : Sharing ι) (order : List ι) (j : ι) :
    ((s.run n text order).stage j).turns = min 2 ((s.stage j).turns + order.count j) := by
  induction order generalizing s with
  | nil =>
    have := (s.stage j).turns_le
    show (s.stage j).turns = _
    rw [List.count_nil]
    omega
  | cons i order ih =>
    rw [run, List.foldl_cons, ← run, ih, turns_turn haccepts, List.count_cons]
    simp only [beq_iff_eq]
    omega

end Orders

/-! ## Before and after the first write -/

/-- The sessions that have a turn before any session has its second one, behind those that have had one. -/
def openersFrom (readers : List ι) : List ι → List ι
  | [] => readers
  | i :: order => if i ∈ readers then readers else openersFrom (readers ++ [i]) order

/-- The sessions whose reads reach the store before anything is written: an order begins with one turn each
of theirs, and then one of them has its second turn. -/
def openers (order : List ι) : List ι := openersFrom [] order

/-- The store has only been read, by some of the sessions. -/
structure Reading (store : Store) (readers : List ι) (s : Sharing ι) : Prop where
  store_eq : s.store = store
  told : ∀ i ∈ readers, s.stage i = .told none
  waiting : ∀ i ∉ readers, s.stage i = .waiting

/-- What a session may be up to when the property has been written: those that were told before that it is
unset go by their own text, and all others by the text of one of these. -/
inductive Follows (text : ι → Text) (openers : List ι) (i : ι) : Stage → Prop where
  | asked (hi : i ∈ openers) : Follows text openers i (.told none)
  | opened (hi : i ∈ openers) : Follows text openers i (.answered (text i))
  | waiting (hi : i ∉ openers) : Follows text openers i .waiting
  | told {j : ι} (hi : i ∉ openers) (hj : j ∈ openers) : Follows text openers i (.told (some (text j)))
  | answered {j : ι} (hi : i ∉ openers) (hj : j ∈ openers) : Follows text openers i (.answered (text j))

omit [DecidableEq ι] in
/-- A session that has had its turns has answered with a text. -/
theorem Follows.of_turns {stage : Stage} (h : Follows text readers i stage) (hturns : stage.turns = 2) :
    (i ∈ readers ∧ stage = .answered (text i)) ∨
      i ∉ readers ∧ ∃ j ∈ readers, stage = .answered (text j) := by
  cases h with
  | asked | waiting | told => cases hturns
  | opened hi => exact .inl ⟨hi, rfl⟩
  | answered hi hj => exact .inr ⟨hi, _, hj, rfl⟩

/-- The property has been written by one of the sessions that were told that it is unset. -/
structure Written (store : Store) (n : Text) (text : ι → Text) (openers : List ι) (s : Sharing ι) :
    Prop where
  store_eq : ∃ j ∈ openers, s.store = store.setProperty n (text j)
  follows : ∀ i, Follows text openers i (s.stage i)

section Phases

variable (haccepts : ∀ i, Operator.setDefault.Accepts (n ++ ':' :: '=' :: text i) n (text i))

include haccepts

/-- A session that asks for the first time is told that the property is unset, too. -/
theorem Reading.turn_of_not_mem (h : Reading store readers s) (hunset : store.property? n = none)
    (hi : i ∉ readers) : Reading store (readers ++ [i]) (s.turn n text i) := by
  have hwaiting : s.stage i = .waiting := h.waiting i hi
  refine ⟨?_, fun j hj => ?_, fun j hj => ?_⟩
  · rw [store_turn (haccepts i), hwaiting]
    exact h.store_eq
  · by_cases hji : j = i
    · rw [hji, stage_turn_self (haccepts i), hwaiting, h.store_eq, hunset]
      rfl
    · rw [stage_turn_of_ne (haccepts i) s hji]
      exact h.told j ((List.mem_append.1 hj).resolve_right fun h => hji (List.mem_singleton.1 h))
  · obtain ⟨hj, hji⟩ := not_or.1 (fun h => hj (List.mem_append.2 h))
    rw [stage_turn_of_ne (haccepts i) s fun h => hji (List.mem_singleton.2 h)]
    exact h.waiting j hj

/-- A session that has its second turn writes. -/
theorem Reading.turn_of_mem (h : Reading store readers s) (hi : i ∈ readers) :
    Written store n text readers (s.turn n text i) := by
  have htold : s.stage i = .told none := h.told i hi
  refine ⟨⟨i, hi, ?_⟩, fun j => ?_⟩
  · rw [store_turn (haccepts i), htold, h.store_eq]
    rfl
  · by_cases hji : j = i
    · subst hji
      rw [stage_turn_self (haccepts j), htold]
      exact .opened hi
    · rw [stage_turn_of_ne (haccepts i) s hji]
      by_cases hj : j ∈ readers
      · rw [h.told j hj]
        exact .asked hj
      · rw [h.waiting j hj]
        exact .waiting hj

/-- Whoever has a turn, the property keeps the text of one of the sessions that were told that it is unset, and
nothing else changes in the store. -/
theorem Written.turn (h : Written store n text readers s) (i : ι) :
    Written store n text readers (s.turn n text i) := by
  obtain ⟨⟨k, hk, hstore⟩, hfollows⟩ := h
  have hstored : s.store.property? n = some (text k) := by
    rw [hstore]
    exact TextMap.get?_insert_self ..
  -- the session with the turn, and what it leaves of the store
  have own : (∃ j ∈ readers, (s.stage i).write s.store n (text i) = store.setProperty n (text j)) ∧
      Follows text readers i ((s.stage i).next (s.store.property? n) (text i)) := by
    rw [hstored]
    have hi := hfollows i
    generalize s.stage i = stage at hi
    cases hi with
    | asked hi =>
      refine ⟨⟨i, hi, ?_⟩, .opened hi⟩
      rw [Stage.write, hstore, Store.setProperty_setProperty]
    | opened hi => exact ⟨⟨k, hk, hstore⟩, .opened hi⟩
    | waiting hi => exact ⟨⟨k, hk, hstore⟩, .told hi hk⟩
    | told hi hj => exact ⟨⟨k, hk, hstore⟩, .answered hi hj⟩
    | answered hi hj => exact ⟨⟨k, hk, hstore⟩, .answered hi hj⟩
  refine ⟨?_, fun j => ?_⟩
  · rw [store_turn (haccepts i)]
    exact own.1
  · by_cases hji : j = i
    · rw [hji, stage_turn_self (haccepts i)]
      exact own.2
    · rw [stage_turn_of_ne (haccepts i) s hji]
      exact hfollows j

theorem Written.run (h : Written store n text readers s) (order : List ι) :
    Written store n text readers (s.run n text order) := by
  induction order generalizing s with
  | nil => exact h
  | cons i order ih => exact ih (h.turn haccepts i)

/-- The store is only read, or it is written after the openers have asked. -/
theorem Reading.run (h : Reading store readers s) (hunset : store.property? n = none) (order : List ι) :
    Reading store (readers ++ order) (s.run n text order) ∨
      Written store n text (openersFrom readers order) (s.run n text order) := by
  induction order generalizing readers s with
  | nil => exact .inl (by rwa [List.append_nil])
  | cons i order ih =>
    rw [openersFrom]
    split
    · rename_i hi
      exact .inr ((h.turn_of_mem haccepts hi).run haccepts order)
    · rename_i hi
      have := ih (h.turn_of_not_mem haccepts hunset hi)
      rwa [List.append_assoc, List.singleton_append] at this

end Phases

/-- Sessions that evaluate `:=` for a property that is unset, with any texts, each in at least two turns, share
a store. All of them answer. Those that ask before anything is written answer with their own texts, each of the
others answers with the text of one of these, and so does the property in the end, while nothing else changes
in the store. So all sessions give one answer, and it is the text that is stored, just if those that ask
before anything is written have the same text. -/
theorem agree_iff [Nonempty ι] (hunset : store.property? n = none)
    (haccepts : ∀ i, Operator.setDefault.Accepts (n ++ ':' :: '=' :: text i) n (text i))
    (order : List ι) (horder : ∀ i, 2 ≤ order.count i) :
    let s := (start store).run n text order
    (∀ i ∈ openers order, s.stage i = .answered (text i)) ∧
    (∀ i ∉ openers order, ∃ j ∈ openers order, s.stage i = .answered (text j)) ∧
    (∃ j ∈ openers order, s.store = store.setProperty n (text j)) ∧
    ((∃ t, (∀ i, s.stage i = .answered t) ∧ s.store.property? n = some t) ↔
      ∀ i ∈ openers order, ∀ j ∈ openers order, text i = text j) := by
  intro s
  have hturns (i : ι) : (s.stage i).turns = 2 := by
    have := horder i
    rw [turns_run haccepts]
    omega
  have hstart : Reading store [] (start store : Sharing ι) := ⟨rfl, nofun, fun _ _ => rfl⟩
  have hwritten : Written store n text (openers order) s := by
    refine (hstart.run haccepts hunset order).resolve_left fun h => ?_
    -- nobody has ended while the store has only been read
    obtain ⟨i⟩ := ‹Nonempty ι›
    have hi := hturns i
    by_cases hmem : i ∈ [] ++ order
    · rw [h.told i hmem] at hi
      cases hi
    · rw [h.waiting i hmem] at hi
      cases hi
  obtain ⟨⟨k, hk, hstore⟩, hfollows⟩ := hwritten
  have hown : ∀ i ∈ openers order, s.stage i = .answered (text i) := fun i hi =>
    (((hfollows i).of_turns (hturns i)).resolve_right fun h => h.1 hi).2
  have hothers : ∀ i ∉ openers order, ∃ j ∈ openers order, s.stage i = .answered (text j) := fun i hi =>
    (((hfollows i).of_turns (hturns i)).resolve_left fun h => hi h.1).2
  refine ⟨hown, hothers, ⟨k, hk, hstore⟩, ?_, fun hsame => ⟨text k, fun i => ?_, ?_⟩⟩
  · rintro ⟨t, ht, -⟩ i hi j hj
    have heq {i : ι} (hi : i ∈ openers order) : text i = t :=
      Stage.answered_inj.1 ((hown i hi).symm.trans (ht i))
    exact (heq hi).trans (heq hj).symm
  · by_cases hi : i ∈ openers order
    · rw [hown i hi, hsame i hi k hk]
    · obtain ⟨j, hj, hanswer⟩ := hothers i hi
      rw [hanswer, hsame j hj k hk]
  · rw [hstore]
    exact TextMap.get?_insert_self ..

/-- Two sessions with different texts: if both ask before either of them writes, each answers with its own text,
and the text that was written first is lost. If one of them has ended before the other one asks, both answer
with its text. -/
theorem agree_iff_overlap :
    let text (late : Bool) : Text := if late then "b".toList else "a".toList
    let shared (order : List Bool) := (start (Store.standard ∅)).run "n".toList text order
    let overlapping := shared [false, true, false, true]
    let apart := shared [false, false, true, true]
    (∀ late, Operator.setDefault.Accepts ("n:=".toList ++ text late) "n".toList (text late)) ∧
      overlapping.stage false = .answered "a".toList ∧ overlapping.stage true = .answered "b".toList ∧
      overlapping.store.property? "n".toList = some "b".toList ∧
      (¬∃ t, (∀ late, overlapping.stage late = .answered t) ∧
        overlapping.store.property? "n".toList = some t) ∧
      ∃ t, (∀ late, apart.stage late = .answered t) ∧ apart.store.property? "n".toList = some t := by
  intro text shared overlapping apart
  have haccepts (late : Bool) :
      Operator.setDefault.Accepts ("n".toList ++ ':' :: '=' :: text late) "n".toList (text late) := by
    cases late <;> exact Operator.accepts_setDefault (by decide) (by decide)
  have hunset : (Store.standard ∅).property? "n".toList = none := rfl
  obtain ⟨hown, -, -, hiff⟩ := agree_iff hunset haccepts [false, true, false, true] (by decide)
  obtain ⟨-, -, -, hiff'⟩ := agree_iff hunset haccepts [false, false, true, true] (by decide)
  refine ⟨haccepts, hown false (by decide), hown true (by decide), by decide +kernel, fun h => ?_,
    hiff'.2 (by decide)⟩
  exact absurd (hiff.1 h false (by decide) true (by decide)) (by decide)

end Sharing

end Interpolation
