import Interpolation.Proofs.Session.Answering
import Interpolation.Proofs.Session.Doubling
import Mathlib.Data.Fin.VecNotation
import Mathlib.Data.List.FinRange
import Mathlib.Data.Nat.ModEq

/-!
# Rings of references

Where names refer to one another in a ring, the reference to any of them goes once around: one name
after the other is in flight, until the first one is met again and its reference stands for its own
text.

* `NameRing` is a ring of names with the texts around the references; `NameRing.ahead` counts places from
  a place on, `NameRing.raw` is the text that belongs to a name, and `NameRing.StoredIn` says that these
  texts are stored;
* `NameRing.ahead_inj`: on the way around no name is met twice, and `NameRing.ahead_self`: then the first
  one is;
* `NameRing.unwound` is what is left of a round, `NameRing.round` the whole of it;
* `Resolver.answers_ring`: a reference on the way, by induction on what is left of the round;
* `Store.expand_ring` is the whole round.
-/

namespace Interpolation

/-- Names that refer to one another in a ring, each in a text with something in front and behind. -/
structure NameRing (n : Nat) where
  name : Fin n → Text
  front : Fin n → Text
  back : Fin n → Text
  distinct : Function.Injective name
  name_dollar : ∀ i, '$' ∉ name i
  name_closing : ∀ i, '}' ∉ name i
  front_dollar : ∀ i, '$' ∉ front i
  back_dollar : ∀ i, '$' ∉ back i

namespace NameRing

variable {n : Nat} [NeZero n] (ring : NameRing n)

/-- The place some steps ahead of a place. -/
def ahead (i : Fin n) (k : Nat) : Fin n := Fin.ofNat n (i + k)

/-- The text of a name: a reference to the next name, the last one being followed by the first. -/
def raw (i : Fin n) : Text :=
  ring.front i ++ Text.reference (ring.name (ahead i 1)) ++ ring.back i

/-- All names of the ring are stored with their texts. -/
def StoredIn (ps : TextMap Text) : Prop :=
  ∀ i, ps.get? (ring.name i) = some (ring.raw i)

/-! ## Once around -/

@[simp] theorem ahead_zero (i : Fin n) : ahead i 0 = i := Fin.ofNat_val_eq_self i

theorem ahead_ahead (i : Fin n) (k m : Nat) : ahead (ahead i k) m = ahead i (k + m) := by
  apply Fin.ext
  simp [ahead, Nat.add_assoc]

/-- Behind a whole round stands the first place. -/
theorem ahead_self (i : Fin n) : ahead i n = i := by
  apply Fin.ext
  simp [ahead, Nat.mod_eq_of_lt i.isLt]

/-- In less than a round no place is met twice. -/
theorem ahead_inj {i : Fin n} {k m : Nat} (hk : k < n) (hm : m < n) :
    ahead i k = ahead i m ↔ k = m := by
  refine ⟨fun h => ?_, fun h => by rw [h]⟩
  have hsum : i + k ≡ i + m [MOD n] := congrArg Fin.val h
  exact (Nat.ModEq.add_left_cancel' _ hsum).eq_of_lt_of_lt hk hm

/-- What is left of a round that began at a place, by the number of names that are left. -/
def unwound (start : Fin n) : Nat → Fin n → Text
  | 0, _ => Text.reference (ring.name start)
  | d + 1, i => ring.front i ++ unwound start d (ahead i 1) ++ ring.back i

/-- What the names on a whole round from a place put around the reference to the first one. -/
def round (i : Fin n) : Text :=
  ((List.range n).flatMap fun k => ring.front (ahead i k)) ++ Text.reference (ring.name i) ++
    (List.range n).reverse.flatMap fun k => ring.back (ahead i k)

theorem unwound_eq (start : Fin n) (d : Nat) (i : Fin n) : ring.unwound start d i =
    ((List.range d).flatMap fun k => ring.front (ahead i k)) ++ Text.reference (ring.name start) ++
      (List.range d).reverse.flatMap fun k => ring.back (ahead i k) := by
  induction d generalizing i with
  | zero => simp [unwound]
  | succ d ih =>
    rw [unwound, ih, List.range_succ_eq_map]
    simp only [ahead_ahead, Nat.add_comm 1, List.flatMap_cons, List.flatMap_map, List.reverse_cons,
      ← List.map_reverse, List.flatMap_append, List.flatMap_nil, ahead_zero, List.append_nil,
      List.append_assoc]

theorem unwound_self (i : Fin n) : ring.unwound i n i = ring.round i :=
  ring.unwound_eq i n i

end NameRing

/-! ## Around the ring in a session -/

namespace Resolver

open Reference NameRing

variable {owner : Scope} {s : State} {n : Nat} [NeZero n] {ring : NameRing n}

/-- A name that is in flight has no value, so that the reference stands for its own text. -/
theorem Answers.reference_of_inFlight {name raw : Text} (hstored : s.properties.get? name = some raw)
    (hflight : s.guard.contains ⟨owner, name⟩) :
    Answers owner 2 s (referenceTo name) (.text (Text.reference name)) := by
  refine ⟨s, rfl, rfl, fun r hr depth hd => ?_⟩
  obtain ⟨depth, rfl⟩ := Nat.exists_eq_add_of_le' hd
  have hguard : s.guard.contains ⟨r.scope, name⟩ := hr ▸ hflight
  have htext : (Body.ofText name).text = Text.reference name := by
    rw [Body.text, Body.source_ofText, Text.reference]
  rw [referenceTo, value_ofText, Eval.run_bind, run_propertyValue_of_inFlight hstored hguard, htext]
  rfl

/-- A reference between texts without dollar signs. -/
theorem Answers.expandAt_around {least : Nat} {p u v t : Text} (hleast : 1 ≤ least)
    (hp : '$' ∉ p) (hclose : '}' ∉ p) (hu : '$' ∉ u) (hv : '$' ∉ v)
    (h : Answers owner least s (referenceTo p) (.text t)) :
    Answers owner least s (fun r depth => r.expandAt depth (u ++ Text.reference p ++ v))
      (u ++ t ++ v) := by
  have hvalue := h.bind (f := fun w _ _ => Pure.pure (u ++ w.render ++ v)) fun _ _ _ => .pure _
  refine hvalue.congr fun r _ depth hd => ?_
  obtain ⟨depth, rfl⟩ := Nat.exists_eq_add_of_le' (Nat.le_trans hleast hd)
  have hfinds : Finds (r.host (depth + 1)) (r.finder none (depth + 1)) := finds_hostWith (depth + 1)
  have hexpand := hfinds.expand_around rfl (Text.unopened_of_not_mem hp) hclose u v
  rw [Text.double_of_not_mem hu, Text.double_of_not_mem hv] at hexpand
  exact congrFun hexpand s

/-- On the way around a ring, some names are in flight and some are left. The reference to the next name
stands for what is left of the round, and each name lets go of its frame on the way back. -/
theorem answers_ring (hs : ring.StoredIn s.properties) (i : Fin n) {k d : Nat} (hround : k + d = n)
    (hflight : ∀ m < n, s.guard.contains ⟨owner, ring.name (ahead i m)⟩ = decide (m < k)) :
    Answers owner (d + 2) s (referenceTo (ring.name (ahead i k)))
      (.text (ring.unwound i d (ahead i k))) := by
  induction d generalizing s k with
  | zero =>
    obtain rfl : k = n := hround
    have hfirst := hflight 0 (Nat.pos_of_neZero k)
    rw [ahead_zero, decide_eq_true (Nat.pos_of_neZero k)] at hfirst
    rw [ahead_self, unwound]
    exact .reference_of_inFlight (hs i) hfirst
  | succ d ih =>
    have hk : k < n := by omega
    have hfresh : s.guard.contains ⟨owner, ring.name (ahead i k)⟩ = false := by
      rw [hflight k hk, decide_eq_false (Nat.lt_irrefl k)]
    have inside : ∀ m < n,
        (s.guard.push ⟨owner, ring.name (ahead i k)⟩).contains ⟨owner, ring.name (ahead i m)⟩ =
          decide (m < k + 1) := by
      intro m hm
      have hname : (⟨owner, ring.name (ahead i m)⟩ : Frame) = ⟨owner, ring.name (ahead i k)⟩ ↔
          m = k := by
        rw [Frame.mk.injEq, ring.distinct.eq_iff, ahead_inj hm hk]
        exact and_iff_right rfl
      rw [Guard.contains_push, hflight m hm, ← Bool.decide_or, decide_eq_decide, hname]
      omega
    have next := ih (s := s.withGuard (s.guard.push ⟨owner, ring.name (ahead i k)⟩)) (k := k + 1) hs
      (by omega) inside
    refine .reference_of_stored (hs (ahead i k)) hfresh (by omega) ?_
    rw [raw, unwound, ahead_ahead]
    exact next.expandAt_around (by omega) (ring.name_dollar _) (ring.name_closing _)
      (ring.front_dollar _) (ring.back_dollar _)

end Resolver

/-- In a store that holds the texts of a ring of names, the reference to any of them goes once around the
ring: it expands to what is in front of the references in all the texts from that name on, the
reference itself, and what is behind the references, from the last text back to the first. The chain is
never asked: the outcome and the state that is left are the same with every other chain, be it one that
fails or does not end. The store stays as it is, and no frame is left on the guard. -/
theorem Store.expand_ring (s : Store) {n : Nat} [NeZero n] (ring : NameRing n)
    (hs : ring.StoredIn s.properties) (i : Fin n) :
    ∃ u : State, s.after u = s ∧ u.guard = .empty ∧
      ∀ r : Resolver, r.scope = s.resolver.scope → ∀ depth ≥ n + 2,
        r.expandAt depth (Text.reference (ring.name i)) (s.state .empty) =
          some (.ok (ring.round i), u) := by
  have around : Resolver.Answers s.resolver.scope (n + 2) (s.state .empty)
      (Resolver.referenceTo (ring.name (NameRing.ahead i 0)))
      (.text (ring.unwound i n (NameRing.ahead i 0))) :=
    Resolver.answers_ring hs i (Nat.zero_add n) fun m _ => rfl
  rw [NameRing.ahead_zero, ring.unwound_self] at around
  have expands := around.expandAt_around (u := []) (v := []) (by omega) (ring.name_dollar i)
    (ring.name_closing i) List.not_mem_nil List.not_mem_nil
  obtain ⟨u, hstock, hguard, hu⟩ := expands
  refine ⟨u, after_eq_self hstock, hguard, fun r hr depth hd => ?_⟩
  simpa using hu r hr depth hd

/-- A ring of three names, one of them empty, with braces around the references, from the second name
on. -/
theorem Store.expand_ring_three :
    let s := standard (.ofList [(['p'], "a${q}b".toList), (['q'], "{${}}".toList), ([], "${p}-".toList)])
    (∃ ring : NameRing 3, ring.StoredIn s.properties) ∧
      ∃ u, s.after u = s ∧ ∀ depth ≥ 5, s.resolver.expandAt depth "${q}".toList (s.state .empty) =
        some (.ok "{a${q}b-}".toList, u) := by
  intro s
  let ring : NameRing 3 :=
    { name := ![['p'], ['q'], []]
      front := ![['a'], ['{'], []]
      back := ![['b'], ['}'], ['-']]
      distinct := List.nodup_ofFn.1 (by decide)
      name_dollar := by decide
      name_closing := by decide
      front_dollar := by decide
      back_dollar := by decide }
  have hs : ∀ i, s.properties.get? (ring.name i) = some (ring.raw i) := by decide
  obtain ⟨u, hu, -, hrun⟩ := expand_ring s ring hs 1
  exact ⟨⟨ring, hs⟩, u, hu, hrun s.resolver rfl⟩

end Interpolation
