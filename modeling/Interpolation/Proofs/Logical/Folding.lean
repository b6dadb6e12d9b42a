import Interpolation.Proofs.Evaluation.Rules
import Interpolation.Proofs.Logical.Expression
import Interpolation.Proofs.Pattern.Recognition
import Interpolation.Proofs.Pattern.Splitting
import Interpolation.Strategy

/-!
# How the value of an expression is computed

The text of an expression is cut at its operators, one layer after another, and the values of the
parts are combined.

* `Solid`: a text without certain signs and without white space at its ends; the texts of operands
  and of rows are solid;
* `Row.split_text`: cutting the text of a row at its operators gives the texts of its parts, when
  these are solid;
* `fold_text`: cut and combined in this way, the text of an expression has the value of the
  expression;
* `Strategy.evaluate_logical`: the strategy for logical expressions answers what a token says, and
  nothing to a token that says nothing.
-/

namespace Interpolation.Logical

open Pattern

variable {signs others : List Char} {α : Type} {q : Pattern} {t r u : Text} {parts : List Text}
  {first : Text}

/-! ## Solid texts -/

/-- A text whose last character, if there is one, is not white space. -/
def EndsSolid (t : Text) : Prop := ∀ c, t.getLast? = some c → Unicode.isBlank c = false

/-- A text without certain signs, and without white space at its ends. -/
structure Solid (signs : List Char) (t : Text) : Prop where
  starts : ∃ c cs, t = c :: cs ∧ Unicode.isBlank c = false
  ends : EndsSolid t
  not_mem : ∀ c ∈ t, c ∉ signs

/-- What holds of every character of a text can be computed. -/
theorem forall_mem_of_all {p : Char → Prop} [DecidablePred p] (h : t.all fun c => p c) :
    ∀ c ∈ t, p c := by
  simpa using h

theorem EndsSolid.tail {c : Char} (h : EndsSolid (c :: t)) : EndsSolid t := by
  intro d hd
  refine h d ?_
  rw [List.getLast?_cons, hd]
  rfl

theorem EndsSolid.append (ht : EndsSolid u) (hu : u ≠ []) : EndsSolid (t ++ u) := by
  intro c hc
  rw [List.getLast?_append, Option.or_of_isSome (List.getLast?_isSome.2 hu)] at hc
  exact ht c hc

/-- Such a text does not begin with white space that runs to its end. -/
theorem EndsSolid.exists_not_isBlank (h : EndsSolid t) (ht : t ≠ []) :
    ∃ c ∈ t, Unicode.isBlank c = false := by
  obtain ⟨c, hc⟩ := List.getLast?_isSome.2 ht |> Option.isSome_iff_exists.1
  exact ⟨c, List.mem_of_getLast? hc, h c hc⟩

theorem solid_operand (o : Operand) : Solid allSigns o.text := by
  obtain ⟨_ | _, _ | _⟩ := o
  all_goals
    refine ⟨⟨_, _, rfl, by decide⟩, fun c hc => ?_, forall_mem_of_all (by decide)⟩
    obtain rfl := Option.some.inj hc
    decide

theorem Solid.mono (h : Solid signs t) (hs : others ⊆ signs) : Solid others t :=
  ⟨h.starts, h.ends, fun c hc hm => h.not_mem c hc (hs hm)⟩

/-- The text of a row is solid for the signs that are neither in its parts nor its own. -/
theorem Row.solid {partText : α → Text} (h : ∀ a, Solid others (partText a))
    (hb : ∀ c ∈ others, Unicode.isBlank c = false) (hd : ∀ c ∈ others, c ∉ signs)
    (row : Row signs α) : Solid others (row.text partText) := by
  obtain ⟨a, joined⟩ := row
  induction joined generalizing a with
  | nil => simpa [Row.text] using h a
  | cons p joined ih =>
    obtain ⟨j, b⟩ := p
    have hrest : Solid others (Row.text partText ⟨b, joined⟩) := ih b
    rw [show Row.text partText ⟨a, (j, b) :: joined⟩ =
      partText a ++ (j.text ++ Row.text partText ⟨b, joined⟩) by simp [Row.text]]
    obtain ⟨c, cs, hc, hsolid⟩ := (h a).starts
    obtain ⟨d, ds, hne, -⟩ := hrest.starts
    refine ⟨⟨c, _, by rw [hc, List.cons_append], hsolid⟩,
      (hrest.ends.append (by simp [hne])).append (by simp [hne]), ?_⟩
    intro c hc hm
    have hblank : Unicode.isBlank c ≠ true := by simp [hb c hm]
    simp only [Joint.text, List.mem_append, List.mem_cons] at hc
    obtain hc | (hc | rfl | hc) | hc := hc
    · exact (h a).not_mem c hc hm
    · exact hblank (j.isBlank_before c hc)
    · exact hd _ hm j.mem_signs
    · exact hblank (j.isBlank_behind c hc)
    · exact hrest.not_mem c hc hm

/-! ## Cutting at operators -/

/-- A pattern takes one of the signs, in one way; none of them is white space. -/
structure ReadsSigns (q : Pattern) (signs : List Char) : Prop where
  takes : TakesSigns q signs
  ways : ∀ (s : Place) c cs, s.rest = c :: cs → c ∈ signs → q.ways s = [.stay (s.past [c] cs)]
  not_isBlank : ∀ c ∈ signs, Unicode.isBlank c = false

theorem ways_sign {c : Char} (s : Place) (d : Char) (cs : Text) (hs : s.rest = d :: cs) :
    (Grammar.sign c).ways s = if d = c then [.stay (s.past [d] cs)] else [] := by
  simp only [Grammar.sign, Pattern.ways, hs, CharClass.contains, decide_eq_true_eq]
  rfl

theorem readsSigns_sign {c : Char} (hc : Unicode.isBlank c = false) :
    ReadsSigns (Grammar.sign c) [c] := by
  refine ⟨takesSigns_sign c, fun s d cs hs hd => ?_, by simpa using hc⟩
  rw [ways_sign s d cs hs, if_pos (List.mem_singleton.1 hd)]

theorem readsSigns_and : ReadsSigns (.alt (Grammar.sign '&') (Grammar.sign '+')) ['&', '+'] := by
  refine ⟨takesSigns_and, fun s c cs hs hc => ?_, forall_mem_of_all (by decide)⟩
  show (Grammar.sign '&').ways s ++ (Grammar.sign '+').ways s = _
  rw [ways_sign s c cs hs, ways_sign s c cs hs]
  simp only [List.mem_cons, List.not_mem_nil, or_false] at hc
  obtain rfl | rfl := hc <;> rfl

/-- No operator starts in a solid text. -/
theorem idle_infixed (hq : ReadsSigns q signs) (hne : t ≠ []) (ht : EndsSolid t)
    (hs : ∀ c ∈ t, c ∉ signs) : (infixed q).Idle (t ++ r) := by
  refine idle_of_not_takes fun v w he hv => ?_
  obtain ⟨j, rfl⟩ := (takes_infixed hq.takes).1 hv
  rw [Joint.text, List.append_assoc, List.append_eq_append_iff] at he
  obtain ⟨y, hy, -⟩ | ⟨x, hx, hx'⟩ := he
  · -- the whole text would be white space in front of the operator
    obtain ⟨c, hc, hsolid⟩ := ht.exists_not_isBlank hne
    have := j.isBlank_before c (hy ▸ List.mem_append_left _ hc)
    simp [hsolid] at this
  · cases x with
    | nil =>
      obtain ⟨c, hc, hsolid⟩ := ht.exists_not_isBlank hne
      rw [hx, List.append_nil] at hc
      have := j.isBlank_before c hc
      simp [hsolid] at this
    | cons c x =>
      obtain ⟨rfl, -⟩ := List.cons.inj hx'
      exact hs _ (hx ▸ by simp) j.mem_signs

/-- A solid text belongs to the part that follows. -/
theorem cuts_infixed (hq : ReadsSigns q signs) (ht : EndsSolid t) (hs : ∀ c ∈ t, c ∉ signs)
    (h : (infixed q).Cuts r (first :: parts)) : (infixed q).Cuts (t ++ r) ((t ++ first) :: parts) := by
  induction t with
  | nil => exact h
  | cons c t ih =>
    have hidle : (infixed q).Idle (c :: t ++ r) := idle_infixed hq (List.cons_ne_nil c t) ht hs
    have hcuts := ih ht.tail fun d hd => hs d (List.mem_cons_of_mem c hd)
    rw [List.cons_append] at hidle
    rw [List.cons_append, List.cons_append]
    exact hcuts.plain hidle

/-- The preferred way past an operator takes all the white space around it. -/
theorem exists_way_infixed (hq : ReadsSigns q signs) (j : Joint signs) (s : Place)
    (hs : s.rest = j.text ++ r) (hr : ∃ c cs, r = c :: cs ∧ Unicode.isBlank c = false) :
    ∃ w, ((infixed q).ways s).head? = some w ∧ w.stop = s.past j.text r := by
  obtain ⟨c, cs, rfl, hc⟩ := hr
  -- the white space in front ends at the sign, that behind it where the next part starts
  rw [Joint.text, List.append_assoc, List.cons_append] at hs
  obtain ⟨ws, hbefore⟩ : ∃ ws, blanks.ways s = .stay (s.past j.before _) :: ws :=
    exists_ways_star_char hs j.isBlank_before fun d hd => by
      obtain rfl : j.sign = d := Option.some.inj hd
      exact hq.not_isBlank _ j.mem_signs
  have hsign := hq.ways (s.past j.before (j.sign :: (j.behind ++ c :: cs))) j.sign _ rfl j.mem_signs
  obtain ⟨ws', hbehind⟩ : ∃ ws, blanks.ways ((s.past j.before _).past [j.sign] _) =
      .stay (((s.past j.before _).past [j.sign] _).past j.behind (c :: cs)) :: ws :=
    exists_ways_star_char rfl j.isBlank_behind fun d hd => by
      obtain rfl : c = d := Option.some.inj hd
      exact hc
  have hlast : ((seqs [blanks]).ways _).head? = _ := congrArg List.head? hbehind
  refine ⟨_, head?_ways_seqs_cons hbefore (head?_ways_seqs_cons hsign hlast), ?_⟩
  simp [Way.andThen, Way.stay, Place.past_past, Joint.text]

/-- The text of a row is cut into the texts of its parts. -/
theorem Row.split_text {partText : α → Text} (hq : ReadsSigns q signs)
    (h : ∀ a, Solid signs (partText a)) (row : Row signs α) :
    (infixed q).split (row.text partText) = row.parts.map partText := by
  refine Cuts.split_eq ?_
  obtain ⟨a, joined⟩ := row
  induction joined generalizing a with
  | nil =>
    have hidle : (infixed q).Idle [] := by
      refine idle_of_not_takes fun u r he hu => ?_
      obtain ⟨j, rfl⟩ := (takes_infixed hq.takes).1 hu
      simp [Joint.text] at he
    have hcuts := cuts_infixed hq (h a).ends (h a).not_mem (Cuts.nil hidle)
    rw [List.append_nil] at hcuts
    simpa [Row.text, Row.parts] using hcuts
  | cons p joined ih =>
    obtain ⟨j, b⟩ := p
    have hrest : (infixed q).Cuts (Row.text partText ⟨b, joined⟩)
        ((⟨b, joined⟩ : Row signs α).parts.map partText) := ih b
    obtain ⟨c, cs, hc, hsolid⟩ := (h b).starts
    have hstarts : ∃ c cs, Row.text partText ⟨b, joined⟩ = c :: cs ∧ Unicode.isBlank c = false :=
      ⟨c, _, by rw [Row.text, hc, List.cons_append], hsolid⟩
    have hway : ∀ index before, ∃ w,
        ((infixed q).ways ⟨index, before, j.text ++ Row.text partText ⟨b, joined⟩⟩).head? = some w ∧
          w.stop.index = index + j.text.length := by
      intro index before
      obtain ⟨w, hw, hstop⟩ := exists_way_infixed hq j ⟨index, before, _⟩ rfl hstarts
      exact ⟨w, hw, by rw [hstop, Place.past_index]⟩
    have hcuts := cuts_infixed hq (h a).ends (h a).not_mem
      (Cuts.hit (by simp [Joint.text]) hway hrest)
    rw [List.append_nil] at hcuts
    simpa [Row.text, Row.parts] using hcuts

/-! ## Values -/

namespace Row

variable {partValue : α → Bool} (row : Row signs α)

/-- The values of the parts are combined from the left. -/
theorem value_eq_foldl (operation : Bool → Bool → Bool) : row.value operation partValue =
    (row.others.map fun p => partValue p.2).foldl operation (partValue row.first) := by
  rw [List.foldl_map]
  rfl

theorem value_and : row.value and partValue = row.parts.all partValue := by
  have h : ∀ (acc : Bool) (vs : List Bool), vs.foldl and acc = (acc && vs.all id) := by
    intro acc vs
    induction vs generalizing acc with
    | nil => simp
    | cons v vs ih => simp [ih, Bool.and_assoc]
  simp [value_eq_foldl, h, parts, Function.comp_def]

theorem value_or : row.value or partValue = row.parts.any partValue := by
  have h : ∀ (acc : Bool) (vs : List Bool), vs.foldl or acc = (acc || vs.any id) := by
    intro acc vs
    induction vs generalizing acc with
    | nil => simp
    | cons v vs ih => simp [ih, Bool.or_assoc]
  simp [value_eq_foldl, h, parts, Function.comp_def]

theorem value_xor :
    row.value xor partValue = row.parts.foldl (fun acc a => acc ^^ partValue a) false := by
  rw [value_eq_foldl, parts, List.foldl_cons, List.foldl_map, List.foldl_map, Bool.false_xor]

end Row

theorem operandValue_text (o : Operand) : operandValue o.text = o.value := by
  obtain ⟨_ | _, _ | _⟩ := o <;> decide

theorem conjunction_text (r : Conjunction) : conjunction r.text = r.value := by
  have hparts (o : Operand) : Solid ['&', '+'] o.text := (solid_operand o).mono (by decide)
  have hsplit : andSign.split r.text = r.parts.map Operand.text := r.split_text readsSigns_and hparts
  rw [conjunction, hsplit, List.all_map, Conjunction.value, Row.value_and]
  exact congrArg (List.all r.parts) (funext operandValue_text)

theorem solid_conjunction (h : others ⊆ allSigns) (hd : ∀ c ∈ others, c ∉ ['&', '+'])
    (r : Conjunction) : Solid others r.text :=
  Row.solid (fun o => (solid_operand o).mono h) (fun c hc => by
    have : ∀ c ∈ allSigns, Unicode.isBlank c = false := forall_mem_of_all (by decide)
    exact this c (h hc)) hd r

theorem exclusion_text (r : Exclusion) : exclusion r.text = r.value := by
  have hparts : ∀ c : Conjunction, Solid ['^'] c.text :=
    solid_conjunction (by decide) (forall_mem_of_all (by decide))
  have hsplit : xorSign.split r.text = r.parts.map Conjunction.text :=
    r.split_text (readsSigns_sign (by decide)) hparts
  rw [exclusion, hsplit, List.foldl_map, Exclusion.value, Row.value_xor]
  simp only [conjunction_text]

/-- Cut at its operators and combined again, the text of an expression has its value. -/
theorem fold_text (e : Expression) : fold e.text = e.value := by
  have hparts : ∀ x : Exclusion, Solid ['|'] x.text :=
    Row.solid (solid_conjunction (by decide) (forall_mem_of_all (by decide)))
      (forall_mem_of_all (by decide)) (forall_mem_of_all (by decide))
  have hsplit : orSign.split e.text = e.parts.map Exclusion.text :=
    e.split_text (readsSigns_sign (by decide)) hparts
  rw [fold, hsplit, List.any_map, Expression.value, Row.value_or]
  exact congrArg (List.any e.parts) (funext exclusion_text)

theorem fold_of_says {b : Bool} (h : Says t b) : fold t = b := by
  cases h with
  | negation b =>
    have htext : (Expression.ofOperand ⟨true, b⟩).text = Operand.text ⟨true, b⟩ :=
      Expression.text_ofOperand _
    rw [← htext, fold_text]
    cases b <;> rfl
  | expression e => exact fold_text e

/-! ## Tokens -/

/-- Every expression has an operator or a negation, which the reserved token has not. -/
theorem ne_engineProperty_of_takes (h : grammar.Takes t) : t ≠ engineProperty := by
  rintro rfl
  have hdemands : grammar.demands (['!', '&', '+', '^', '|'].contains ·) := by decide
  obtain ⟨c, hc, hsign⟩ := Pattern.exists_mem_of_demands h hdemands
  have hnone : ∀ c ∈ engineProperty, ['!', '&', '+', '^', '|'].contains c = false :=
    forall_mem_of_all (by decide)
  rw [hnone c hc] at hsign
  exact absurd hsign (by decide)

theorem evaluate?_eq_some_iff {b : Bool} : evaluate? t = some b ↔ Says t b := by
  rw [evaluate?, Option.map_eq_some_iff]
  constructor
  · rintro ⟨g, hg, rfl⟩
    obtain ⟨b, hb⟩ := grammar_takes_iff.1 (takes_of_recognize? hg)
    rw [text_zero_of_recognize? hg, fold_of_says hb]
    exact hb
  · intro h
    have htakes : grammar.Takes t := grammar_takes_iff.2 ⟨b, h⟩
    obtain ⟨g, hg⟩ := Option.isSome_iff_exists.1
      (isSome_recognize? (by decide) (ne_engineProperty_of_takes htakes) htakes)
    exact ⟨g, hg, by rw [text_zero_of_recognize? hg, fold_of_says h]⟩

end Interpolation.Logical

namespace Interpolation

/-- The strategy for logical expressions answers what a token says; it has no answer, and never an
error, for a token that says nothing. -/
theorem Strategy.evaluate_logical (host : Host) (token : Text) :
    (∀ b, Strategy.logical.evaluate host token = pure (some (.flag b)) ↔ Logical.Says token b) ∧
      (Strategy.logical.evaluate host token = pure none ↔ ∀ b, ¬Logical.Says token b) := by
  have heval : Strategy.logical.evaluate host token =
      pure ((Logical.evaluate? token).map .flag) := by rw [Strategy.evaluate]
  rw [heval]
  constructor
  · intro b
    rw [← Logical.evaluate?_eq_some_iff]
    constructor
    · intro h
      obtain ⟨b', hb', hflag⟩ := Option.map_eq_some_iff.1 (Eval.pure_inj h)
      rw [hb', Value.flag.inj hflag]
    · intro h
      rw [h, Option.map_some]
  · simp only [← Logical.evaluate?_eq_some_iff]
    constructor
    · intro h b hb
      have hnone := Eval.pure_inj h
      rw [hb] at hnone
      exact absurd hnone (by simp)
    · intro h
      rw [Option.eq_none_iff_forall_ne_some.2 h, Option.map_none]

end Interpolation
