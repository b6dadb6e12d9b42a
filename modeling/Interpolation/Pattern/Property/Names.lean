import Interpolation.Pattern.Property

/-!
# The names of properties

No name in the tables of properties holds a backslash, an opening bracket or a star. So a text that
holds one of these names no class.

* `isInert` says that a character is none of the three, `isInertName` that a name holds none of
  them;
* `isInertName_of_named?` and `isInertName_of_valued?`: the names that classes are found by.
-/

namespace Interpolation.Pattern

/-- Whether a character is no backslash, no opening bracket and no star. -/
def isInert (c : Char) : Bool := !(['\\', '[', '*'].elem c)

theorem isInert_iff {c : Char} : isInert c ↔ c ≠ '\\' ∧ c ≠ '[' ∧ c ≠ '*' := by
  simp [isInert]

/-- Whether a name in a table is made of inert characters, as its bytes tell. -/
def isInertName (s : String) : Bool :=
  s.toByteArray.data.toList.all fun b => !([42, 91, 92].elem b.toNat)

theorem isInert_of_isInertName {s : String} (h : isInertName s) {c : Char} (hc : c ∈ s.toList) :
    isInert c := by
  have hs : s.toByteArray.data.toList = s.toList.flatMap String.utf8EncodeChar := by
    have hencode := String.toByteArray_ofList (l := s.toList)
    rw [String.ofList_toList, List.utf8Encode] at hencode
    rw [hencode, List.data_toByteArray]
  rw [isInertName, hs, List.all_eq_true] at h
  have kept : ∀ d : Char, (∃ b ∈ String.utf8EncodeChar d, [42, 91, 92].elem b.toNat) → c ≠ d := by
    rintro d ⟨b, hb, helem⟩ rfl
    have := h b (List.mem_flatMap.2 ⟨c, hc, hb⟩)
    rw [helem] at this
    cases this
  exact isInert_iff.2 ⟨kept _ (by decide), kept _ (by decide), kept _ (by decide)⟩

/-- A name that finds something in a table where all names are made of inert characters. -/
theorem isInertName_of_find? {α : Type} {names : α → List String} {l : List α}
    (hall : l.all fun a => (names a).all isInertName) {name : String} {a : α}
    (h : (l.find? fun a => (names a).elem name) = some a) : isInertName name := by
  have hname := List.find?_some h
  exact List.all_eq_true.1 (List.all_eq_true.1 hall a (List.mem_of_find?_eq_some h)) name
    (List.elem_iff.1 hname)

theorem isInertName_of_category? {name : String} {a : CharClass}
    (h : Property.category? name = some a) : isInertName name := by
  have hnamed : (Unicode.Category.named.all fun x => isInertName x.1) = true := by decide +kernel
  unfold Property.category? at h
  split at h
  · decide +kernel
  · decide +kernel
  · decide +kernel
  · obtain ⟨ks, hks, -⟩ := Option.map_eq_some_iff.1 h
    obtain ⟨_, _, heq, -⟩ := List.lookup_eq_some_iff.1 hks
    rw [heq] at hnamed
    exact List.all_eq_true.1 hnamed (name, ks) (by simp)

theorem isInertName_of_script {name : String} {s : Unicode.Script}
    (h : Unicode.Script.named? name = some s) : isInertName name := by
  have hall : (Unicode.Script.all.all fun s => s.names.all isInertName) = true := by decide +kernel
  exact isInertName_of_find? hall h

theorem isInertName_of_age {name : String} {r : Unicode.Ranges}
    (h : Unicode.Age.upTo? name = some r) : isInertName name := by
  have hall : (Unicode.Age.all.all fun age => age.names.all isInertName) = true := by decide +kernel
  obtain ⟨i, hi, -⟩ := Option.map_eq_some_iff.1 h
  obtain ⟨hlt, hname, -⟩ := List.findIdx?_eq_some_iff_getElem.1 hi
  exact List.all_eq_true.1 (List.all_eq_true.1 hall _ (List.getElem_mem hlt)) name
    (List.elem_iff.1 hname)

/-- Classes whose names are made of inert characters. -/
theorem isInertName_of_listing {l : Property.Listing}
    (hl : l.all fun entry => entry.1.all isInertName) {name : String} {a : CharClass}
    (h : l.class? name = some a) : isInertName name := by
  obtain ⟨entry, hentry, -⟩ := Option.map_eq_some_iff.1 h
  exact isInertName_of_find? hl hentry

theorem isInertName_of_named? {name : String} {a : CharClass} (h : Property.named? name = some a) :
    isInertName name := by
  rcases Option.or_eq_some_iff.1 h with h | ⟨-, h⟩
  · rcases Option.or_eq_some_iff.1 h with h | ⟨-, h⟩
    · exact isInertName_of_listing (by decide +kernel) h
    · exact isInertName_of_category? h
  · obtain ⟨s, hs, -⟩ := Option.map_eq_some_iff.1 h
    exact isInertName_of_script hs

theorem isInertName_of_valued? {property value : String} {a : CharClass}
    (h : Property.valued? property value = some a) : isInertName property ∧ isInertName value := by
  have hall : (Property.valued.all fun entry => entry.1.all isInertName) = true := by
    decide +kernel
  obtain ⟨entry, hentry, ha⟩ := Option.bind_eq_some_iff.1 h
  refine ⟨isInertName_of_find? hall hentry, ?_⟩
  have hmem := List.mem_of_find?_eq_some hentry
  simp only [Property.valued, List.mem_cons, List.not_mem_nil, or_false] at hmem
  rcases hmem with rfl | rfl | rfl | rfl | rfl | rfl | rfl
  · exact isInertName_of_category? ha
  · obtain ⟨s, hs, -⟩ := Option.map_eq_some_iff.1 ha
    exact isInertName_of_script hs
  · obtain ⟨s, hs, -⟩ := Option.map_eq_some_iff.1 ha
    exact isInertName_of_script hs
  · obtain ⟨r, hr, -⟩ := Option.map_eq_some_iff.1 ha
    exact isInertName_of_age hr
  -- the parts that characters play where texts are cut
  all_goals exact isInertName_of_listing (by decide +kernel) ha

end Interpolation.Pattern
