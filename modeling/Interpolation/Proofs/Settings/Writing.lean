import Interpolation.Proofs.Json.Rendering
import Interpolation.Settings

/-!
# Settings that are written and read

Settings that are written are read back, and each field that is left out of what is written has its usual
value. A set of names says which fields are kept.

* `ChainSettings.members` and `Settings.members` are the fields that are kept, `Settings.keep` the settings
  that they describe;
* `Settings.partsOf?_filter`: of the parts of a structure those are found that are kept;
  `Settings.partsOf?_of_unknown`: a structure has no other parts;
* `Settings.chainOf?_members` and `Settings.ofJson?_membersAround` read a chain, and settings around what
  their chain is read as;
* `Settings.read_write`: what is written is read, and which fields are refused.
-/

namespace Interpolation

variable {kept : Text → Bool}

namespace ChainSettings

open Settings

/-- The fields that a chain is written as. -/
def fields (c : ChainSettings) : List (Text × Json) :=
  [(evaluatorsName, .array (c.evaluators.map fun k => .text k.name)),
    (prefixDelimiterName, .text c.prefixDelimiter),
    (componentDelimiterName, .text c.componentDelimiter)]

/-- The fields of a chain whose names are kept. -/
def members (kept : Text → Bool) (c : ChainSettings) : List (Text × Json) :=
  c.fields.filter fun m => kept m.1

/-- A chain with the usual values in the fields whose names are not kept. -/
def keep (kept : Text → Bool) (c : ChainSettings) : ChainSettings where
  evaluators := if kept evaluatorsName then c.evaluators else ({} : ChainSettings).evaluators
  prefixDelimiter :=
    if kept prefixDelimiterName then c.prefixDelimiter else ({} : ChainSettings).prefixDelimiter
  componentDelimiter :=
    if kept componentDelimiterName then c.componentDelimiter else ({} : ChainSettings).componentDelimiter

end ChainSettings

namespace Settings

/-- The fields of settings around any chain. -/
def fieldsAround (s : Settings) (chain : Json) : List (Text × Json) :=
  [(propertiesName, .object (s.properties.entries.map fun (name, t) => (name, .text t))),
    (chainName, chain)]

/-- The fields of settings whose names are kept, around any chain. -/
def membersAround (kept : Text → Bool) (s : Settings) (chain : Json) : List (Text × Json) :=
  (s.fieldsAround chain).filter fun m => kept m.1

/-- The fields of settings whose names are kept, also in the chain. -/
def members (kept : Text → Bool) (s : Settings) : List (Text × Json) :=
  s.membersAround kept (.object (s.chain.members kept))

/-- Settings with the usual values in the fields whose names are not kept. -/
def keep (kept : Text → Bool) (s : Settings) : Settings where
  properties := if kept propertiesName then s.properties else ({} : Settings).properties
  chain := if kept chainName then s.chain.keep kept else ({} : Settings).chain

variable {v : Json} {names : List Text} {ms : List (Text × Json)}

/-! ## Parts -/

theorem lookup_filter (h : (ms.map Prod.fst).Nodup) {m : Text × Json} (hm : m ∈ ms) :
    (ms.filter fun m => kept m.1).lookup m.1 = if kept m.1 then some m.2 else none := by
  induction ms with
  | nil => cases hm
  | cons head ms ih =>
    obtain ⟨hnew, hrest⟩ := List.nodup_cons.1 h
    rcases List.mem_cons.1 hm with rfl | hm
    · by_cases hk : kept m.1
      · rw [List.filter_cons, if_pos hk, if_pos hk, List.lookup_cons_self]
      · have hnone : (ms.filter fun m => kept m.1).lookup m.1 = none := by
          refine List.lookup_eq_none_iff.2 fun other hother => ?_
          have hmem := List.mem_map_of_mem (f := Prod.fst) (List.mem_filter.1 hother).1
          exact bne_iff_ne.2 fun heq => hnew (heq ▸ hmem)
        simp [hk, hnone]
    · have hne : m.1 ≠ head.1 := fun heq => hnew (heq ▸ List.mem_map_of_mem hm)
      rw [← ih hrest hm, List.filter_cons]
      split
      · rw [List.lookup_cons, beq_false_of_ne hne]
      · rfl

/-- The parts of an object of which some are kept. -/
theorem partsOf?_filter (ms : List (Text × Json)) (h : (ms.map Prod.fst).Nodup)
    (kept : Text → Bool) :
    partsOf? (ms.map Prod.fst) (.object (ms.filter fun m => kept m.1)) =
      some (ms.map fun m => if kept m.1 then some m.2 else none) := by
  have hsublist := (List.filter_sublist (l := ms) (p := fun m => kept m.1)).map Prod.fst
  have hknown : ((ms.filter fun m => kept m.1).map Prod.fst).all (ms.map Prod.fst).elem := by
    simp only [List.all_eq_true, List.elem_eq_mem, decide_eq_true_eq]
    exact fun name hname => hsublist.subset hname
  rw [partsOf?, if_pos ⟨hknown, h.sublist hsublist⟩, List.map_map]
  exact congrArg some (List.map_congr_left fun m hm => lookup_filter h hm)

theorem partsOf?_of_unknown {name : Text} (hname : name ∉ names) (before behind : List (Text × Json)) :
    partsOf? names (.object (before ++ (name, v) :: behind)) = none := by
  refine if_neg fun h => hname ?_
  have hknown := List.all_eq_true.1 h.1 name (by simp)
  simpa using hknown

/-- A part that is kept is read, another one has its usual value. -/
theorem part?_ite {α : Type} {read : Json → Option α} {a : α} (usual : α) (b : Bool)
    (h : read v = some a) :
    part? read usual (if b then some v else none) = some (if b then a else usual) := by
  cases b
  · rfl
  · exact h

/-! ## Values -/

theorem ofName?_name (k : StrategyKind) : StrategyKind.ofName? k.name = some k := by
  cases k <;> decide

/-- What is written one by one is read one by one. -/
theorem mapM_map_of_some {α β : Type} {write : α → β} {read : β → Option α}
    (h : ∀ a, read (write a) = some a) (as : List α) : (as.map write).mapM read = some as := by
  induction as with
  | nil => rfl
  | cons a as ih => simp [List.mapM_cons, h, ih]

theorem kindsOf?_names (ks : List StrategyKind) :
    kindsOf? (.array (ks.map fun k => .text k.name)) = some ks := by
  rw [kindsOf?]
  refine mapM_map_of_some ?_ ks
  exact ofName?_name

theorem propertiesOf?_entries (ps : TextMap Text) :
    propertiesOf? (.object (ps.entries.map fun (name, t) => (name, .text t))) = some ps := by
  have hentries : (ps.entries.map fun (name, t) => (name, Json.text t)).mapM
      (fun m => (textOf? m.2).map fun t => (m.1, t)) = some ps.entries := by
    refine mapM_map_of_some ?_ ps.entries
    exact fun _ => rfl
  rw [propertiesOf?, hentries, Option.map_some, TextMap.ofList_entries]

/-! ## Structures -/

theorem chainOf?_members (kept : Text → Bool) (c : ChainSettings) :
    chainOf? (.object (c.members kept)) = some (c.keep kept) := by
  have hnames : [evaluatorsName, prefixDelimiterName, componentDelimiterName].Nodup := by decide
  have hparts := partsOf?_filter c.fields hnames kept
  simp only [ChainSettings.fields, List.map_cons, List.map_nil] at hparts
  rw [chainOf?, ChainSettings.members, ChainSettings.fields, hparts]
  simp only [Option.bind_eq_bind, Option.bind_some, part?_ite _ _ (kindsOf?_names c.evaluators),
    part?_ite [':'] _ (show textOf? (.text c.prefixDelimiter) = some _ from rfl),
    part?_ite [':'] _ (show textOf? (.text c.componentDelimiter) = some _ from rfl)]
  rfl

/-- Settings are read around what their chain is read as. -/
theorem ofJson?_membersAround (kept : Text → Bool) (s : Settings) (v : Json) :
    ofJson? (.object (s.membersAround kept v)) =
      (part? chainOf? {} (if kept chainName then some v else none)).map fun c =>
        ⟨if kept propertiesName then s.properties else ∅, c⟩ := by
  have hnames : [propertiesName, chainName].Nodup := by decide
  have hparts := partsOf?_filter (s.fieldsAround v) hnames kept
  simp only [fieldsAround, List.map_cons, List.map_nil] at hparts
  rw [ofJson?, membersAround, fieldsAround, hparts]
  simp only [Option.bind_eq_bind, Option.bind_some,
    part?_ite _ _ (propertiesOf?_entries s.properties)]
  cases part? chainOf? {} (if kept chainName then some v else none) <;> rfl

theorem ofJson?_members (kept : Text → Bool) (s : Settings) :
    ofJson? (.object (s.members kept)) = some (s.keep kept) := by
  rw [members, ofJson?_membersAround, part?_ite {} _ (chainOf?_members kept s.chain)]
  rfl

/-! ## Texts -/

theorem wellFormed_members (kept : Text → Bool) (c : ChainSettings) :
    ∀ m ∈ c.members kept, m.2.WellFormed := by
  have hfields : ∀ m ∈ c.fields, m.2.WellFormed := by
    simp only [ChainSettings.fields, List.forall_mem_cons]
    refine ⟨.array fun e he => ?_, .text _, .text _, List.forall_mem_nil _⟩
    obtain ⟨k, -, rfl⟩ := List.mem_map.1 he
    exact .text k.name
  exact fun m hm => hfields m (List.mem_filter.1 hm).1

theorem wellFormed_membersAround (kept : Text → Bool) (s : Settings) (h : v.WellFormed) :
    ∀ m ∈ s.membersAround kept v, m.2.WellFormed := by
  have hfields : ∀ m ∈ s.fieldsAround v, m.2.WellFormed := by
    simp only [fieldsAround, List.forall_mem_cons]
    refine ⟨.object fun m hm => ?_, h, List.forall_mem_nil _⟩
    obtain ⟨e, -, rfl⟩ := List.mem_map.1 hm
    exact .text e.2
  exact fun m hm => hfields m (List.mem_filter.1 hm).1

theorem wellFormed_insert {before behind : List (Text × Json)} {name : Text}
    (h : ∀ m ∈ before ++ behind, m.2.WellFormed) (hv : v.WellFormed) :
    (Json.object (before ++ (name, v) :: behind)).WellFormed := by
  obtain ⟨hbefore, hbehind⟩ := List.forall_mem_append.1 h
  exact .object (List.forall_mem_append.2 ⟨hbefore, List.forall_mem_cons.2 ⟨hv, hbehind⟩⟩)

theorem read_render (h : v.WellFormed) :
    read v.render = (ofJson? v).elim (.error .wrongForm) .ok := by
  rw [read, h.read_render]
  cases hv : ofJson? v <;> simp [hv]

/-- Settings survive being written and read, whatever characters are in their texts. Each choice of the
fields `properties`, `chain`, `evaluators`, `prefix_delimiter` and `component_delimiter` that are kept is
read as the settings with the usual values in the others, while a field of any other name, with any value
and in any place, is refused, be it among the fields of the settings or among those of the chain. -/
theorem read_write (s : Settings) :
    read s.write = .ok s ∧ s.write = (Json.object (s.members fun _ => true)).render ∧
    ∀ kept : Text → Bool, read (Json.object (s.members kept)).render = .ok (s.keep kept) ∧
      ∀ (name : Text) (v : Json) (before behind : List (Text × Json)), v.WellFormed →
        (name ∉ [propertiesName, chainName] → s.members kept = before ++ behind →
          read (Json.object (before ++ (name, v) :: behind)).render = .error .wrongForm) ∧
        (name ∉ [evaluatorsName, prefixDelimiterName, componentDelimiterName] → kept chainName →
          s.chain.members kept = before ++ behind →
          read (Json.object (s.membersAround kept
            (.object (before ++ (name, v) :: behind)))).render = .error .wrongForm) := by
  have hmembers (kept : Text → Bool) : ∀ m ∈ s.members kept, m.2.WellFormed :=
    wellFormed_membersAround kept s (.object (wellFormed_members kept s.chain))
  have hread (kept : Text → Bool) : read (Json.object (s.members kept)).render = .ok (s.keep kept) := by
    rw [read_render (.object (hmembers kept)), ofJson?_members]
    rfl
  refine ⟨hread fun _ => true, rfl, fun kept => ⟨hread kept, fun name v before behind hv => ⟨?_, ?_⟩⟩⟩
  · intro hname hsplit
    rw [read_render (wellFormed_insert (hsplit ▸ hmembers kept) hv), ofJson?,
      partsOf?_of_unknown hname]
    rfl
  · intro hname hkept hsplit
    have hchain : chainOf? (.object (before ++ (name, v) :: behind)) = none := by
      rw [chainOf?, partsOf?_of_unknown hname]
      rfl
    have hform : (Json.object (before ++ (name, v) :: behind)).WellFormed :=
      wellFormed_insert (hsplit ▸ wellFormed_members kept s.chain) hv
    rw [read_render (.object (wellFormed_membersAround kept s hform)), ofJson?_membersAround,
      if_pos hkept, part?, hchain]
    rfl

/-- Quotes, a backslash, control characters and characters beyond 16 bits, a strategy that stands twice and
an empty delimiter; a number that is not asked for stands in front of the other fields or behind them. -/
theorem read_write_unusual :
    let s : Settings :=
      ⟨.ofList [("\"\\\n".toList, [Char.ofNat 1, 'é']), ([], ['😀'])],
        ⟨[.logical, .references, .logical], [], "::".toList⟩⟩
    let kept : Text → Bool := fun name => name ≠ evaluatorsName
    let note : Text × Json := ("note".toList, .number "-1.5e+3".toList)
    read s.write = .ok s ∧
      read (Json.object (s.members kept)).render =
        .ok ⟨s.properties, ⟨StrategyKind.all, [], "::".toList⟩⟩ ∧
      read (Json.object (note :: s.members kept)).render = .error .wrongForm ∧
      read (Json.object (s.membersAround kept
        (.object (s.chain.members kept ++ [note])))).render = .error .wrongForm := by
  intro s kept note
  have hnote : note.2.WellFormed := .number (by decide)
  obtain ⟨hwrite, -, hkept⟩ := read_write s
  obtain ⟨hread, hrefused⟩ := hkept kept
  have hfront := (hrefused note.1 note.2 [] (s.members kept) hnote).1 (by decide) rfl
  have hback := (hrefused note.1 note.2 (s.chain.members kept) [] hnote).2 (by decide) (by decide)
    (List.append_nil _).symm
  exact ⟨hwrite, hread, hfront, hback⟩

end Settings

end Interpolation
