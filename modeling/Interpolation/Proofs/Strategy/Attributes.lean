import Interpolation.Proofs.Evaluation.Rules
import Interpolation.Proofs.Operator.Grammar
import Interpolation.Proofs.Pattern.Preference
import Interpolation.Proofs.Text.Cutting
import Interpolation.Store

/-!
# Conditions as they are written

A token gives a condition its attributes one after another. They are recognised by a pattern whose dots
run over commas and parentheses, and then cut at the commas.

* `ConditionToken.written` is the token of a name and attributes, `ConditionToken.IsName` and
  `ConditionToken.IsAttribute` say which names and attributes can be written;
* `ConditionToken.best_body` and `ConditionToken.exists_recognize?_marked`: the name ends at the first
  parenthesis and the attributes at the last one, whatever stands between them, and a mark in front is
  no part of the name;
* `ConditionToken.configure_listing`: the cuts give back the attributes;
* `Strategy.evaluate_written`: such a token creates the condition, gives it the attributes in order and
  tests it.
-/

namespace Interpolation

namespace ConditionToken

open Pattern Grammar

/-! ## Written attributes -/

/-- An attribute as it is written. -/
def assigned : Text × Text → Text
  | (key, value) => key ++ '=' :: value

/-- Attributes as they are written, with commas between them. -/
def listing (attributes : List (Text × Text)) : Text :=
  [','].intercalate (attributes.map assigned)

/-- A name and attributes in parentheses. -/
def written (name : Text) (attributes : List (Text × Text)) : Text :=
  name ++ '(' :: (listing attributes ++ [')'])

/-- The names that conditions can be called by. -/
structure IsName (name : Text) : Prop where
  ne_nil : name ≠ []
  parenthesis : '(' ∉ name
  newline : '\n' ∉ name
  mark : name.head? ≠ some '!'

/-- The attributes that can be written. The value may hold any sign but commas and line feeds. -/
structure IsAttribute (a : Text × Text) : Prop where
  key_ne_nil : a.1 ≠ []
  key_comma : ',' ∉ a.1
  key_equals : '=' ∉ a.1
  key_newline : '\n' ∉ a.1
  value_ne_nil : a.2 ≠ []
  value_comma : ',' ∉ a.2
  value_newline : '\n' ∉ a.2

variable {name list t u v r : Text} {a : Text × Text} {attributes : List (Text × Text)}

theorem takes_someShortest : someShortest.Takes u ↔ u ≠ [] ∧ '\n' ∉ u := by
  rw [someShortest, dot, takes_plus_char]
  refine and_congr_right fun _ => ⟨fun h hm => ?_, contains_notNewline⟩
  exact absurd (h _ hm) (by decide)

theorem IsAttribute.takes (h : IsAttribute a) : assignment.Takes (assigned a) :=
  takes_seqs_cons.2 ⟨a.1, _, rfl, takes_someShortest.2 ⟨h.key_ne_nil, h.key_newline⟩,
    takes_seqs_cons.2 ⟨['='], _, rfl, takes_sign.2 rfl,
      takes_seqs_cons.2 ⟨a.2, [], (List.append_nil _).symm,
        takes_someShortest.2 ⟨h.value_ne_nil, h.value_newline⟩, .empty⟩⟩⟩

theorem IsAttribute.comma_not_mem (h : IsAttribute a) : ',' ∉ assigned a := by
  simp [assigned, h.key_comma, h.value_comma]

/-- The pattern of a list of attributes. -/
def assignments : Pattern :=
  .seq assignment (.star .greedy (.seq (Grammar.sign ',') assignment))

theorem listing_cons (a : Text × Text) (attributes : List (Text × Text)) :
    listing (a :: attributes) = assigned a ++ attributes.flatMap fun b => ',' :: assigned b := by
  induction attributes generalizing a with
  | nil => simp [listing]
  | cons b bs ih =>
    have rest := ih b
    rw [listing, List.map_cons] at rest
    rw [listing, List.map_cons, List.map_cons, List.intercalate_cons_cons, rest]
    simp

theorem takes_further (h : ∀ a ∈ attributes, IsAttribute a) :
    (Pattern.star .greedy (.seq (sign ',') assignment)).Takes
      (attributes.flatMap fun a => ',' :: assigned a) := by
  induction attributes with
  | nil => exact .skip
  | cons a as ih =>
    have first : (Pattern.seq (sign ',') assignment).Takes (',' :: assigned a) :=
      takes_seq.2 ⟨[','], _, rfl, takes_sign.2 rfl, (h a List.mem_cons_self).takes⟩
    rw [List.flatMap_cons]
    exact takes_star_iff.2 (.inr ⟨_, _, rfl, first, ih fun b hb => h b (List.mem_cons_of_mem _ hb)⟩)

theorem takes_listing (hne : attributes ≠ []) (h : ∀ a ∈ attributes, IsAttribute a) :
    assignments.Takes (listing attributes) := by
  obtain ⟨a, as, rfl⟩ := List.exists_cons_of_ne_nil hne
  rw [listing_cons]
  exact .seq (h a List.mem_cons_self).takes (takes_further fun b hb => h b (List.mem_cons_of_mem _ hb))

/-! ## How tokens are recognised -/

/-- The patterns behind the name. -/
def arguments : List Pattern :=
  [sign '(', .group 3 assignments, sign ')']

/-- The patterns behind the mark of negation. -/
def body : List Pattern :=
  .group 2 someShortest :: arguments

theorem takes_arguments (hlist : assignments.Takes list) :
    (seqs arguments).Takes ('(' :: (list ++ [')'])) :=
  takes_seqs_cons.2 ⟨['('], _, rfl, takes_sign.2 rfl,
    takes_seqs_cons.2 ⟨list, [')'], rfl, .group hlist,
      takes_seqs_cons.2 ⟨[')'], [], rfl, takes_sign.2 rfl, .empty⟩⟩⟩

theorem IsName.takes (h : IsName name) : someShortest.Takes name :=
  takes_someShortest.2 ⟨h.ne_nil, h.newline⟩

/-- The way to the end of the token from behind the name: the attributes end at the last parenthesis. -/
theorem best_arguments {s : Place} (hlist : assignments.Takes list) (hs : s.rest = '(' :: (list ++ [')'])) :
    ∃ s' stop : Place, s'.index = s.index + 1 ∧ Way.best atEnd ((seqs arguments).ways s) =
      some ((catching 3 s' list [')']).andThen (.stay stop)) := by
  obtain ⟨w, hmem, hstop, hbest⟩ :=
    exists_best_of_takes (p := seqs arguments) rfl (hs ▸ takes_arguments hlist)
  obtain ⟨_, r, hr, hopen, hmem⟩ := (mem_ways_seqs_plain rfl).1 hmem
  obtain rfl := takes_sign.1 hopen
  obtain ⟨-, hr⟩ := List.cons.inj (hs.symm.trans hr)
  obtain ⟨v, r', hr', -, y, hy, rfl⟩ := (mem_ways_seqs_group (p := assignments) rfl).1 hmem
  obtain ⟨_, r'', hr'', hclose, hy⟩ := (mem_ways_seqs_plain rfl).1 hy
  obtain rfl := mem_ways_seqs_nil.1 hy
  obtain rfl := takes_sign.1 hclose
  obtain rfl : r'' = [] := hstop
  obtain rfl : r' = [')'] := hr''
  obtain rfl : list = v := List.append_cancel_right (hr.trans hr')
  exact ⟨_, _, rfl, hbest⟩

/-- The preferred way to the end of a token: the name ends at the first parenthesis. -/
theorem best_body {s : Place} (hname : IsName name) (hlist : assignments.Takes list)
    (hs : s.rest = name ++ '(' :: (list ++ [')'])) :
    ∃ s' stop : Place, s'.index = s.index + name.length + 1 ∧ Way.best atEnd ((seqs body).ways s) =
      some ((catching 2 s name ('(' :: (list ++ [')']))).andThen
        ((catching 3 s' list [')']).andThen (.stay stop))) := by
  have htakes : (seqs body).Takes s.rest :=
    takes_seqs_cons.2 ⟨name, _, hs, .group hname.takes, takes_arguments hlist⟩
  obtain ⟨w, -, -, hbest⟩ := exists_best_of_takes (p := seqs body) rfl htakes
  obtain ⟨u, r, x, hr, -, hx, rfl, hpreferred⟩ := exists_group_of_best rfl (ordered_plus_char _ _) rfl hbest
  obtain ⟨_, r', hr', hopen, -⟩ := exists_plain_of_best rfl hx
  obtain rfl := takes_sign.1 hopen
  obtain rfl : r = '(' :: r' := hr'
  rcases append_cons_cases hname.parenthesis (hs.symm.trans hr) with ⟨rfl, -, rfl⟩ | ⟨z, -, hz⟩
  · obtain ⟨s', stop, hs', harguments⟩ := best_arguments (s := s.past u _) hlist rfl
    obtain rfl := Option.some.inj (hx.symm.trans harguments)
    exact ⟨s', stop, hs', hbest⟩
  · -- a name that goes on behind the first parenthesis is not as short as possible
    have hlength := (hpreferred name _ hs hname.takes (takes_arguments hlist)).length_le
    rw [hz] at hlength
    simp only [List.length_cons, List.length_append] at hlength
    omega

/-- The mark of a negated condition. -/
def mark (negated : Bool) : Text := if negated then ['!'] else []

/-- The way over the mark, and the preferred way on from there. -/
theorem best_marked {negated : Bool} (onwards : Place → Option Way) {w : Way} (hu : u.head? ≠ some '!')
    (hw : onwards ((Place.start (mark negated ++ u)).past (mark negated) u) = some w) :
    ∃ x : Way, Way.best onwards ((Pattern.opt .greedy (.group 1 (sign '!'))).ways
        (.start (mark negated ++ u))) = some (x.andThen w) ∧ (x.span? 1).isSome = negated := by
  rw [best_opt_greedy]
  cases negated with
  | true =>
    have hways : (Pattern.group 1 (sign '!')).ways (.start (mark true ++ u)) =
        [catching 1 (.start (mark true ++ u)) ['!'] u] := rfl
    refine ⟨catching 1 (.start (mark true ++ u)) ['!'] u, ?_, ?_⟩
    · replace hw : onwards (catching 1 (.start (mark true ++ u)) ['!'] u).stop = some w := hw
      rw [hways, Way.best_singleton, hw]
      rfl
    · rw [Way.span?_catching]
      rfl
  | false =>
    have hways : (Pattern.group 1 (sign '!')).ways (.start (mark false ++ u)) = [] := by
      cases u with
      | nil => rfl
      | cons c cs =>
        have hc : c ≠ '!' := fun he => hu (congrArg some he)
        simp [ways, sign, mark, Place.start, CharClass.contains, hc]
    refine ⟨.stay (.start u), ?_, rfl⟩
    rw [hways, Way.best_nil, Option.none_or]
    exact hw

/-- The groups that are caught on the way over a mark, a name and attributes. -/
theorem groups_of_catching {m : Text} {x w : Way} {s s' stop : Place} {r r' : Text}
    (hw : w = x.andThen ((catching 2 s name r).andThen ((catching 3 s' list r').andThen (.stay stop))))
    (ht : t = m ++ (name ++ '(' :: (list ++ [')'])))
    (hs : s.index = m.length) (hs' : s'.index = m.length + name.length + 1) :
    (grammar.groupsOf t 0 w).text 2 = name ∧ (grammar.groupsOf t 0 w).text 3 = list ∧
      ((grammar.groupsOf t 0 w).get? 1).isSome = (x.span? 1).isSome := by
  refine ⟨?_, ?_, ?_⟩
  · refine text_groupsOf_catching hw (by decide) ?_ ht hs
    simp [catching, Way.andThen, Way.stay]
  · rw [← Way.andThen_assoc] at hw
    refine text_groupsOf_catching hw (by decide) ?_ (v := m ++ (name ++ ['('])) (z := [')'])
      (by simp [ht]) ?_
    · simp [Way.stay]
    · simp [hs', Nat.add_assoc]
  · rw [get?_groupsOf (by decide), hw, Way.span?_andThen_left, Option.isSome_map]
    simp [catching, Way.andThen, Way.stay]

/-- The groups of a token: the mark, the name up to the first parenthesis, and all attributes up to the
last one. -/
theorem exists_recognize?_marked (hname : IsName name) (hlist : assignments.Takes list) (negated : Bool) :
    ∃ g, recognize? grammar (mark negated ++ (name ++ '(' :: (list ++ [')']))) = some g ∧
      g.text 2 = name ∧ g.text 3 = list ∧ (g.get? 1).isSome = negated := by
  generalize hu : name ++ '(' :: (list ++ [')']) = u
  generalize ht : mark negated ++ u = t
  have hne : t ≠ engineProperty := ne_engineProperty_of_mem (c := '(') (by simp [← ht, ← hu]) (by decide)
  have hhead : u.head? ≠ some '!' := by
    obtain ⟨c, cs, rfl⟩ := List.exists_cons_of_ne_nil hname.ne_nil
    exact hu ▸ hname.mark
  obtain ⟨s, stop, hs, hbody⟩ := best_body (s := (Place.start t).past (mark negated) u) hname hlist hu.symm
  obtain ⟨x, hbest, rfl⟩ :=
    best_marked (fun t => Way.best atEnd ((seqs body).ways t)) hhead (ht ▸ hbody)
  rw [ht, ← best_seqs_cons] at hbest
  have hgrammar : grammar = seqs (.opt .greedy (.group 1 (sign '!')) :: body) := rfl
  refine ⟨_, by rw [recognize?, if_neg hne, captures?_whole, hgrammar, hbest, Option.map_some, ← hgrammar], ?_⟩
  refine groups_of_catching rfl (by rw [← ht, hu]) ?_ ?_
  · simp [Place.past, Place.start]
  · simp [hs, Place.past, Place.start]

/-! ## How attributes are cut -/

/-- An attribute without white space around its name and its value. -/
def trimmed : Text × Text → Text × Text
  | (key, value) => (Text.trim key, Text.trim value)

theorem IsAttribute.readAttribute (h : IsAttribute a) (condition : Text) :
    readAttribute condition (assigned a) = .ok (trimmed a) := by
  rw [ConditionToken.readAttribute, assigned, Text.splitOnce?_append h.key_equals]
  rfl

theorem configure_assigned (condition : Text) (h : ∀ a ∈ attributes, IsAttribute a) (c : Condition) :
    configure condition c (attributes.map assigned) = c.setAll (attributes.map trimmed) := by
  induction attributes generalizing c with
  | nil => rfl
  | cons a as ih =>
    have rest := ih fun b hb => h b (List.mem_cons_of_mem _ hb)
    rw [List.map_cons, configure, (h a List.mem_cons_self).readAttribute]
    exact bind_congr rest

/-- The attributes of a list are given to the condition in their order, up to the first fault. -/
theorem configure_listing (condition : Text) (hne : attributes ≠ [])
    (h : ∀ a ∈ attributes, IsAttribute a) (c : Condition) :
    configure condition c (Text.splitOn ',' (listing attributes)) = c.setAll (attributes.map trimmed) := by
  rw [listing, Text.splitOn_intercalate (by simpa using hne), configure_assigned condition h]
  intro t ht
  obtain ⟨a, ha, rfl⟩ := List.mem_map.1 ht
  exact (h a ha).comma_not_mem

end ConditionToken

namespace Strategy

open ConditionToken

variable {name : Text} {attributes : List (Text × Text)}

/-- Creates a condition of a name, gives it attributes and tests it, if the host knows one. -/
def testBy (host : Host) (name : Text) (attributes : List (Text × Text)) : Eval (Option Bool) :=
  match host.conditionKind? name with
  | none => pure none
  | some kind => do
    let c ← Eval.ofExcept ((Condition.ofKind kind).setAll attributes)
    some <$> c.eval host.toProperties

/-- A token of a condition does what creating the condition, giving it the attributes without white space
around them, in their order, and testing it does; the mark of negation turns the answer round and changes
nothing else. -/
theorem evaluate_written (host : Host) (hname : IsName name) (hne : attributes ≠ [])
    (h : ∀ a ∈ attributes, IsAttribute a) :
    Strategy.conditions.evaluate host (written name attributes) =
        Option.map .flag <$> testBy host name (attributes.map trimmed) ∧
      Strategy.conditions.evaluate host ('!' :: written name attributes) =
        Option.map (fun holds => .flag !holds) <$> testBy host name (attributes.map trimmed) := by
  have marked (negated : Bool) : ConditionToken.evaluate host (mark negated ++ written name attributes) =
      Option.map (fun holds => .flag (holds ^^ negated)) <$> testBy host name (attributes.map trimmed) := by
    obtain ⟨g, hg, hg2, hg3, hg1⟩ := exists_recognize?_marked hname (takes_listing hne h) negated
    rw [ConditionToken.evaluate, written, hg]
    simp only [hg1, hg2, hg3, configure_listing name hne h, testBy]
    cases host.conditionKind? name with
    | none => simp
    | some kind => simp only [bind_pure_comp, map_bind, Functor.map_map, Option.map_some]
  have plain := marked false
  simp only [Bool.xor_false] at plain
  have negated := marked true
  simp only [Bool.xor_true] at negated
  exact ⟨plain, negated⟩

/-- Parentheses, signs of equality and white space may stand in values and around them. -/
theorem evaluate_written_symbols :
    let host := (Store.standard ∅).resolver.host 0
    let attributes := [(" arg1 ".toList, "x=(1)".toList), ("arg2".toList, "x=(1) ".toList)]
    written "equals".toList attributes = "equals( arg1 =x=(1),arg2=x=(1) )".toList ∧
      (Strategy.conditions.evaluate host (written "equals".toList attributes) .empty).map Prod.fst =
        some (.ok (some (.flag true))) ∧
      (Strategy.conditions.evaluate host ('!' :: written "equals".toList attributes) .empty).map Prod.fst =
        some (.ok (some (.flag false))) := by
  intro host attributes
  have hname : IsName "equals".toList := ⟨by decide, by decide, by decide, by decide⟩
  have hattributes : ∀ a ∈ attributes, IsAttribute a := by
    simp only [attributes, List.forall_mem_cons, List.not_mem_nil, false_imp_iff, implies_true, and_true]
    constructor <;> constructor <;> decide
  obtain ⟨hplain, hnegated⟩ := evaluate_written host hname (by decide) hattributes
  rw [hplain, hnegated]
  exact ⟨by decide, by decide +kernel, by decide +kernel⟩

end Strategy

end Interpolation
