import Interpolation.Guard
import Interpolation.TextMap
import Mathlib.Data.List.Nodup
import Mathlib.Data.List.Perm.Subperm

/-!
# Guards of read-only sessions

As long as nothing is stored, the guard is built up in one of two ways: the frame of a stored
property that is not in flight, or the frame of a chain whose token fits what is on top.

* `Guard.above` are the frames above the latest frame of an owner, `Guard.Fits` says that a token
  is that of each of them, or shorter;
* `Guard.Nested` guards are built up in these two ways;
* `Guard.Nested.nodup`, `Guard.Nested.length_framesOf_le` and `Guard.Nested.pairwise_shorter` are
  what this bounds;
* `Guard.free` counts the stored properties that are not in flight.
-/

namespace Interpolation

namespace TextMap

variable {α : Type} {m : TextMap α} {key : Text}

theorem mem_keys_iff : key ∈ m.keys ↔ m.contains key := by
  have h : ∀ entries : List (Text × α),
      key ∈ entries.map Prod.fst ↔ (find? key entries).isSome := by
    intro entries
    induction entries with
    | nil => simp [find?]
    | cons e rest ih =>
      obtain ⟨k, a⟩ := e
      by_cases hk : k = key
      · simp [find?, hk]
      · have hk' : ¬key = k := fun h => hk h.symm
        simp only [find?, if_neg hk, List.map_cons, List.mem_cons, hk', false_or, ih]
  exact h m.entries

end TextMap

namespace Guard

variable {owner : Scope} {stored : TextMap Text} {g : Guard} {f : Frame} {name token : Text}
  {scope : Scope}

@[simp] theorem contains_iff_mem : g.contains f = true ↔ f ∈ g.frames := by
  simp [contains]

/-- The frames above the latest frame of an owner. -/
def above (g : Guard) (owner : Scope) : List Frame :=
  g.frames.takeWhile fun f => f.scope ≠ owner

/-- A token is that of each frame above the latest one of an owner, or shorter. -/
def Fits (g : Guard) (owner : Scope) (token : Text) : Prop :=
  ∀ f ∈ g.above owner, f.token = token ∨ token.length < f.token.length

theorem above_push_owner (g : Guard) (owner : Scope) (name : Text) :
    (g.push ⟨owner, name⟩).above owner = [] := by
  simp [above, push]

theorem above_push_of_ne (h : scope ≠ owner) :
    (g.push ⟨scope, token⟩).above owner = ⟨scope, token⟩ :: g.above owner := by
  simp [above, push, h]

theorem fits_of_above_eq_nil (h : g.above owner = []) : g.Fits owner token := by
  rw [Fits, h]
  exact nofun

theorem Fits.push_of_ne (h : g.Fits owner token) (hs : scope ≠ owner) :
    (g.push ⟨scope, token⟩).Fits owner token := by
  intro f hf
  rw [above_push_of_ne hs] at hf
  rcases List.mem_cons.1 hf with rfl | hf
  · exact .inl rfl
  · exact h f hf

/-- A shorter token fits as well. -/
theorem Fits.shorter (h : g.Fits owner token) (hn : name.length < token.length) :
    g.Fits owner name := by
  intro f hf
  right
  rcases h f hf with rfl | h
  · exact hn
  · exact Nat.lt_trans hn h

/-- The guards of sessions in which nothing is stored: each frame is that of a stored property
which is not in flight, or of a chain whose token fits. -/
inductive Nested (owner : Scope) (stored : TextMap Text) : Guard → Prop where
  | empty : Nested owner stored .empty
  | property {g : Guard} {name : Text} (h : Nested owner stored g) (known : stored.contains name)
      (fresh : g.contains ⟨owner, name⟩ = false) : Nested owner stored (g.push ⟨owner, name⟩)
  | chain {g : Guard} {scope : Scope} {token : Text} (h : Nested owner stored g)
      (other : scope ≠ owner) (fresh : g.contains ⟨scope, token⟩ = false)
      (fits : g.Fits owner token) : Nested owner stored (g.push ⟨scope, token⟩)

namespace Nested

theorem not_mem_of_fresh (h : g.contains f = false) : f ∉ g.frames := by
  intro hm
  rw [contains_iff_mem.2 hm] at h
  cases h

/-- No two frames are equal. -/
theorem nodup (h : Nested owner stored g) : g.frames.Nodup := by
  induction h with
  | empty => exact List.nodup_nil
  | property _ _ fresh ih | chain _ _ fresh _ ih =>
    exact List.nodup_cons.2 ⟨not_mem_of_fresh fresh, ih⟩

theorem mem_keys (h : Nested owner stored g) (hf : f ∈ g.frames) (hs : f.scope = owner) :
    f.token ∈ stored.keys := by
  induction h with
  | empty => cases hf
  | property _ known _ ih =>
    rcases List.mem_cons.1 hf with rfl | hf
    · exact TextMap.mem_keys_iff.2 known
    · exact ih hf
  | chain _ other _ _ ih =>
    rcases List.mem_cons.1 hf with rfl | hf
    · exact absurd hs other
    · exact ih hf

/-- There are at most as many frames of the owner as there are stored properties. -/
theorem length_framesOf_le (h : Nested owner stored g) :
    (g.frames.filter fun f => f.scope = owner).length ≤ stored.entries.length := by
  have nodup : ((g.frames.filter fun f => f.scope = owner).map Frame.token).Nodup := by
    refine List.Nodup.map_on ?_ (h.nodup.filter _)
    rintro ⟨s, t⟩ hx ⟨s', t'⟩ hy ht
    have hs : s = owner := of_decide_eq_true (List.mem_filter.1 hx).2
    have hs' : s' = owner := of_decide_eq_true (List.mem_filter.1 hy).2
    rw [Frame.mk.injEq]
    exact ⟨hs.trans hs'.symm, ht⟩
  have subset : ((g.frames.filter fun f => f.scope = owner).map Frame.token) ⊆ stored.keys := by
    intro token ht
    obtain ⟨f, hf, rfl⟩ := List.mem_map.1 ht
    obtain ⟨hm, hs⟩ := List.mem_filter.1 hf
    exact h.mem_keys hm (of_decide_eq_true hs)
  have := (List.subperm_of_subset nodup subset).length_le
  rwa [List.length_map, TextMap.keys, List.length_map] at this

/-- A new token that fits is shorter than those in the hands of the same chain, as far as no frame
of the owner stands in between. -/
theorem length_lt_of_fits {segment behind : List Frame} (fresh : g.contains ⟨scope, token⟩ = false)
    (fits : g.Fits owner token) (hg : g.frames = segment ++ behind)
    (ho : ∀ f ∈ segment, f.scope ≠ owner) (hf : f ∈ segment) (hs : f.scope = scope) :
    token.length < f.token.length := by
  have habove : f ∈ g.above owner := by
    rw [above, hg, List.takeWhile_append_of_pos (by simpa using ho)]
    exact List.mem_append_left _ hf
  refine (fits f habove).resolve_left fun ht => ?_
  -- a frame of the same chain with the same token would be the new one
  have hmem : f ∈ g.frames := by rw [hg]; exact List.mem_append_left _ hf
  refine not_mem_of_fresh fresh ?_
  rwa [← hs, ← ht]

/-- Between frames of the owner, the tokens in the hands of one chain get shorter and shorter. -/
theorem pairwise_shorter (h : Nested owner stored g) (scope : Scope) :
    ∀ {before segment behind : List Frame}, g.frames = before ++ (segment ++ behind) →
      (∀ f ∈ segment, f.scope ≠ owner) →
        (segment.filter fun f => f.scope = scope).Pairwise fun inner outer =>
          inner.token.length < outer.token.length := by
  induction h with
  | empty =>
    intro before segment behind he _
    have : segment = [] := by simp_all [Guard.empty]
    rw [this]
    exact .nil
  | @property g name _ _ _ ih =>
    intro before segment behind he ho
    cases before with
    | cons _ before => exact ih (List.cons.inj he).2 ho
    | nil =>
      cases segment with
      | nil => exact .nil
      | cons f segment =>
        obtain rfl : ⟨owner, name⟩ = f := (List.cons.inj he).1
        exact absurd rfl (ho _ List.mem_cons_self)
  | @chain g chainScope token _ _ fresh fits ih =>
    intro before segment behind he ho
    cases before with
    | cons _ before => exact ih (List.cons.inj he).2 ho
    | nil =>
      cases segment with
      | nil => exact .nil
      | cons f segment =>
        obtain ⟨rfl, hrest⟩ : ⟨chainScope, token⟩ = f ∧ g.frames = segment ++ behind := List.cons.inj he
        have ho' : ∀ f ∈ segment, f.scope ≠ owner := fun f hf => ho f (List.mem_cons_of_mem _ hf)
        have rest := ih (show g.frames = [] ++ (segment ++ behind) from hrest) ho'
        rw [List.filter_cons]
        split
        · rename_i hs
          refine List.pairwise_cons.2 ⟨fun f hf => ?_, rest⟩
          obtain ⟨hm, hf⟩ := List.mem_filter.1 hf
          have hs : chainScope = scope := of_decide_eq_true hs
          have hf : f.scope = scope := of_decide_eq_true hf
          exact length_lt_of_fits fresh fits hrest ho' hm (hf.trans hs.symm)
        · exact rest

end Nested

/-! ## Properties that are not in flight -/

/-- How many stored properties are not in flight. -/
def free (g : Guard) (owner : Scope) (stored : TextMap Text) : Nat :=
  stored.keys.countP fun key => !g.contains ⟨owner, key⟩

theorem contains_push (g : Guard) (f f' : Frame) :
    (g.push f).contains f' = (decide (f' = f) || g.contains f') := by
  rw [Bool.eq_iff_iff]
  simp [contains, push]

theorem not_contains_of_push {g : Guard} {f f' : Frame} (h : (g.push f).contains f' = false) :
    g.contains f' = false := by
  rw [contains_push, Bool.or_eq_false_iff] at h
  exact h.2

/-- Frames of other owners put no property in flight. -/
theorem free_push_of_ne (h : scope ≠ owner) :
    (g.push ⟨scope, token⟩).free owner stored = g.free owner stored := by
  refine List.countP_congr fun key _ => ?_
  have : (⟨owner, key⟩ : Frame) ≠ ⟨scope, token⟩ := fun he => h (congrArg Frame.scope he).symm
  rw [contains_push, decide_eq_false this, Bool.false_or]

/-- The frame of a property that was not in flight puts one more property in flight. -/
theorem free_push_lt (known : stored.contains name) (fresh : g.contains ⟨owner, name⟩ = false) :
    (g.push ⟨owner, name⟩).free owner stored < g.free owner stored := by
  have lt : ∀ keys : List Text, name ∈ keys →
      (keys.countP fun key => !(g.push ⟨owner, name⟩).contains ⟨owner, key⟩) <
        keys.countP fun key => !g.contains ⟨owner, key⟩ := by
    intro keys hk
    obtain ⟨before, behind, rfl⟩ := List.append_of_mem hk
    have le : ∀ keys : List Text,
        (keys.countP fun key => !(g.push ⟨owner, name⟩).contains ⟨owner, key⟩) ≤
          keys.countP fun key => !g.contains ⟨owner, key⟩ := by
      intro keys
      refine List.countP_mono_left fun key _ h => ?_
      rw [contains_push, Bool.not_or, Bool.and_eq_true] at h
      exact h.2
    have hbefore := le before
    have hbehind := le behind
    simp only [List.countP_append, List.countP_cons, fresh, contains_push, decide_true,
      Bool.true_or] at hbefore hbehind ⊢
    simp only [Bool.not_true, Bool.false_eq_true, if_false, Bool.not_false, if_true]
    omega
  exact lt stored.keys (TextMap.mem_keys_iff.2 known)

end Guard

end Interpolation
