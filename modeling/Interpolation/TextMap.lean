import Interpolation.Text

/-!
# Finite maps from texts

A `TextMap` holds at most one value for each text and remembers the order in which its keys came.

* `TextMap.get?` looks a key up;
* `TextMap.insert` binds a key: a key that is there keeps its place, a new one comes last;
* `TextMap.keys` and `TextMap.sortedKeys` list the keys.

`get?_insert_self` and `get?_insert_of_ne` say what a binding changes, `ofList_entries` that a map is
made of its entries.
-/

namespace Interpolation

universe u

namespace TextMap

variable {α : Type u}

/-- Looks a key up in a list of entries. -/
def find? (key : Text) : List (Text × α) → Option α
  | [] => none
  | (k, a) :: rest => if k = key then some a else find? key rest

/-- Binds a key in a list of entries, in its old place or at the end. -/
def put (key : Text) (value : α) : List (Text × α) → List (Text × α)
  | [] => [(key, value)]
  | (k, a) :: rest => if k = key then (k, value) :: rest else (k, a) :: put key value rest

theorem map_fst_put (key : Text) (value : α) (entries : List (Text × α)) :
    (put key value entries).map Prod.fst =
      if key ∈ entries.map Prod.fst then entries.map Prod.fst
      else entries.map Prod.fst ++ [key] := by
  induction entries with
  | nil => simp [put]
  | cons e rest ih =>
    obtain ⟨k, a⟩ := e
    by_cases h : k = key
    · simp [put, h]
    · have h' : ¬ key = k := fun e => h e.symm
      simp only [put, if_neg h, List.map_cons, ih, List.mem_cons, h', false_or]
      split <;> rfl

theorem nodup_put {key : Text} {value : α} {entries : List (Text × α)}
    (h : (entries.map Prod.fst).Nodup) : ((put key value entries).map Prod.fst).Nodup := by
  rw [map_fst_put]
  split
  · exact h
  · next hk => exact List.nodup_append.2 ⟨h, by simp, by simpa using fun a b hm e => hk (by
      subst e; exact List.mem_map.2 ⟨(a, b), hm, rfl⟩)⟩

end TextMap

/-- A finite map from texts, with its entries in the order of their first binding. -/
structure TextMap (α : Type u) where
  entries : List (Text × α)
  nodup : (entries.map Prod.fst).Nodup

namespace TextMap

variable {α : Type u}

/-- The map without entries. -/
def empty : TextMap α := ⟨[], List.nodup_nil⟩

instance : EmptyCollection (TextMap α) := ⟨empty⟩

instance : Inhabited (TextMap α) := ⟨empty⟩

instance [DecidableEq α] : DecidableEq (TextMap α) := fun a b =>
  if h : a.entries = b.entries then .isTrue (by cases a; cases b; simp_all)
  else .isFalse fun e => h (e ▸ rfl)

/-- The value of a key. -/
def get? (m : TextMap α) (key : Text) : Option α :=
  find? key m.entries

/-- Binds a key. -/
def insert (m : TextMap α) (key : Text) (value : α) : TextMap α :=
  ⟨put key value m.entries, nodup_put m.nodup⟩

/-- Whether a key is bound. -/
def contains (m : TextMap α) (key : Text) : Bool :=
  (m.get? key).isSome

/-- The keys in the order of their first binding. -/
def keys (m : TextMap α) : List Text :=
  m.entries.map Prod.fst

/-- The keys in the order of their characters. -/
def sortedKeys (m : TextMap α) : List Text :=
  m.keys.mergeSort Text.le

/-- The map with the given entries bound one after another. -/
def ofList (entries : List (Text × α)) : TextMap α :=
  entries.foldl (fun m (key, value) => m.insert key value) empty

@[ext] theorem ext_entries {a b : TextMap α} (h : a.entries = b.entries) : a = b := by
  cases a; cases b; simp_all

theorem find?_put_self (key : Text) (value : α) (entries : List (Text × α)) :
    find? key (put key value entries) = some value := by
  induction entries with
  | nil => simp [put, find?]
  | cons e rest ih =>
    obtain ⟨k, a⟩ := e
    by_cases h : k = key <;> simp [put, find?, h, ih]

theorem find?_put_of_ne {key other : Text} (value : α) (entries : List (Text × α))
    (h : other ≠ key) : find? other (put key value entries) = find? other entries := by
  induction entries with
  | nil => simp [put, find?, h.symm]
  | cons e rest ih =>
    obtain ⟨k, a⟩ := e
    by_cases hk : k = key
    · subst hk; simp [put, find?, h.symm]
    · simp only [put, if_neg hk, find?, ih]

@[simp] theorem get?_insert_self (m : TextMap α) (key : Text) (value : α) :
    (m.insert key value).get? key = some value :=
  find?_put_self ..

theorem get?_insert_of_ne (m : TextMap α) {key other : Text} (value : α) (h : other ≠ key) :
    (m.insert key value).get? other = m.get? other :=
  find?_put_of_ne _ _ h

theorem put_put (key : Text) (a b : α) (entries : List (Text × α)) :
    put key b (put key a entries) = put key b entries := by
  induction entries with
  | nil => simp [put]
  | cons e rest ih =>
    obtain ⟨k, _⟩ := e
    by_cases h : k = key <;> simp [put, h, ih]

/-- Of two bindings of a key the later one counts. -/
@[simp] theorem insert_insert (m : TextMap α) (key : Text) (a b : α) :
    (m.insert key a).insert key b = m.insert key b :=
  ext_entries (put_put ..)

theorem put_of_not_mem {key : Text} (value : α) {entries : List (Text × α)}
    (h : key ∉ entries.map Prod.fst) : put key value entries = entries ++ [(key, value)] := by
  induction entries with
  | nil => rfl
  | cons e rest ih =>
    obtain ⟨hne, hrest⟩ := not_or.1 (fun hm => h (List.mem_cons.2 hm))
    rw [put, if_neg (Ne.symm hne), ih hrest, List.cons_append]

/-- A map is the map of its entries. -/
theorem ofList_entries (m : TextMap α) : ofList m.entries = m := by
  have hbound (rest : List (Text × α)) (n : TextMap α)
      (h : ((n.entries ++ rest).map Prod.fst).Nodup) :
      (rest.foldl (fun n (key, value) => n.insert key value) n).entries = n.entries ++ rest := by
    induction rest generalizing n with
    | nil => exact (List.append_nil _).symm
    | cons e rest ih =>
      have hnew : e.1 ∉ n.entries.map Prod.fst := by
        rw [List.map_append, List.nodup_append] at h
        exact fun hm => h.2.2 _ hm e.1 List.mem_cons_self rfl
      have hput : (n.insert e.1 e.2).entries = n.entries ++ [e] := put_of_not_mem e.2 hnew
      rw [List.foldl_cons, ih, hput, List.append_assoc, List.singleton_append]
      rw [hput, List.append_assoc, List.singleton_append]
      exact h
  exact ext_entries (hbound m.entries empty m.nodup)

@[simp] theorem get?_empty (key : Text) : (empty : TextMap α).get? key = none := rfl

end TextMap

end Interpolation
