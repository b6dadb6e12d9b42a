import Interpolation.Operator
import Interpolation.Proofs.Pattern.Groups

/-!
# How tokens with a text are read

Behind `:-`, `:=` and `:?` stands a text that may look like the end of another operator. Which
operators recognise such a token depends on how the text ends.

* `Text.slashesEscaped`: every slash of a text stands behind a backslash;
* `Text.EndsInSlice` and `Text.EndsInTransliteration`: the text ends like a token of the operator
  for slices, or of that for transliteration;
* `Operator.recognize?_textGrammar_eq_some`: of the three operators with a text, the one whose sign
  stands first recognises a token, and its groups are the name and the text;
* `Operator.exists_name_of_recognize?_slice` and
  `Operator.exists_name_of_recognize?_transliteration`: the other two operators recognise only
  tokens whose text ends in this way, and take a part of the text into the name;
* `Operator.isSome_recognize?_slice` and `Operator.isSome_recognize?_transliteration`: they
  recognise all of these tokens.
-/

namespace Interpolation

/-! ## Ends of texts -/

namespace Text

/-- Whether every slash stands behind a backslash. -/
def slashesEscaped : Text → Bool
  | [] => true
  | '\\' :: '/' :: cs => slashesEscaped cs
  | c :: cs => c ≠ '/' && slashesEscaped cs

/-- Digits of any script, one at least. -/
def IsDigits (ds : Text) : Prop :=
  ds ≠ [] ∧ ∀ c ∈ ds, Unicode.isDecimalDigit c

/-- No colon stands among digits. -/
theorem IsDigits.colon_not_mem {ds : Text} (h : ds.IsDigits) : ':' ∉ ds :=
  fun hm => absurd (h.2 _ hm) (by decide)

/-- A text that ends in a colon and digits. -/
def EndsInSlice (d : Text) : Prop :=
  ∃ a digits : Text, d = a ++ ':' :: digits ∧ digits ≠ [] ∧ ∀ c ∈ digits, Unicode.isDecimalDigit c

/-- A text that ends in `:tr/`, a set of characters, a slash and another set, where slashes in the
sets are escaped. -/
def EndsInTransliteration (d : Text) : Prop :=
  ∃ a source target : Text, d = a ++ ([':', 't', 'r', '/'] ++ (source ++ '/' :: target)) ∧ source ≠ [] ∧
    source.slashesEscaped ∧ target.slashesEscaped

end Text

namespace Grammar

open Pattern

variable {u v : Text} {greed : Greed}

theorem takes_sign {c : Char} : (sign c).Takes u ↔ u = [c] := by
  rw [sign, takes_char]
  simp [CharClass.contains]

theorem contains_notNewline (hu : '\n' ∉ u) : ∀ c ∈ u, CharClass.notNewline.contains c := by
  intro c hc
  have : c ≠ '\n' := fun he => hu (he ▸ hc)
  simp [CharClass.notNewline, CharClass.contains, this]

theorem takes_dots : (Pattern.star greed dot).Takes u ↔ '\n' ∉ u := by
  rw [dot, takes_star_char]
  refine ⟨fun h hm => ?_, contains_notNewline⟩
  have := h _ hm
  revert this
  decide

theorem takes_slashed : slashed.Takes u ↔ u = ['\\', '/'] ∨ ∃ c, c ≠ '/' ∧ u = [c] := by
  rw [slashed, takes_alt, takes_literal, takes_char]
  simp [CharClass.contains]

theorem slashesEscaped_append (hu : slashed.Takes u) (hv : v.slashesEscaped) :
    (u ++ v).slashesEscaped := by
  obtain rfl | ⟨c, hc, rfl⟩ := takes_slashed.1 hu
  · exact hv
  · show Text.slashesEscaped (c :: v) = true
    unfold Text.slashesEscaped
    split
    · rfl
    · rename_i cs he
      obtain ⟨rfl, rfl⟩ := List.cons.inj he
      -- a slash that came first in the rest would not stand behind a backslash
      unfold Text.slashesEscaped at hv
      simp at hv
    · rename_i he
      obtain ⟨rfl, rfl⟩ := List.cons.inj he
      simp [hc, hv]

theorem slashesEscaped_of_takes_plus (h : (Pattern.plus greed slashed).Takes u) :
    u ≠ [] ∧ u.slashesEscaped := by
  have ne_nil : ∀ {u : Text}, slashed.Takes u → u ≠ [] := by
    intro u hu
    obtain rfl | ⟨c, -, rfl⟩ := takes_slashed.1 hu <;> exact nofun
  generalize hp : Pattern.plus greed slashed = p at h
  induction h with
  | @once _ _ u h =>
    obtain ⟨rfl, rfl⟩ := Pattern.plus.inj hp
    refine ⟨ne_nil h, ?_⟩
    have := slashesEscaped_append h (v := []) rfl
    rwa [List.append_nil] at this
  | more hu _ _ ih =>
    obtain ⟨rfl, rfl⟩ := Pattern.plus.inj hp
    exact ⟨fun h => ne_nil hu (List.append_eq_nil_iff.1 h).1,
      slashesEscaped_append hu (ih rfl).2⟩
  | _ => cases hp

theorem takes_star_slashed : (Pattern.star greed slashed).Takes u ↔ u.slashesEscaped := by
  constructor
  · intro h
    rcases takes_opt.1 h with rfl | h
    · rfl
    · exact (slashesEscaped_of_takes_plus h).2
  · intro h
    fun_induction Text.slashesEscaped u with
    | case1 => exact .skip
    | case2 cs ih => exact takes_star_iff.2 (.inr ⟨_, _, rfl, takes_slashed.2 (.inl rfl), ih h⟩)
    | case3 c cs _ ih =>
      simp only [ne_eq, Bool.and_eq_true, decide_not, Bool.not_eq_true', decide_eq_false_iff_not] at h
      exact takes_star_iff.2 (.inr ⟨_, _, rfl, takes_slashed.2 (.inr ⟨c, h.1, rfl⟩), ih h.2⟩)

theorem takes_plus_slashed :
    (Pattern.plus greed slashed).Takes u ↔ u ≠ [] ∧ u.slashesEscaped := by
  constructor
  · exact slashesEscaped_of_takes_plus
  · rintro ⟨hu, h⟩
    exact (takes_opt.1 (takes_star_slashed.2 h)).resolve_left hu

/-! ## Names -/

/-- One round of a name. -/
theorem takes_nameRound : (Pattern.alt (.char (.compl (.one ':')))
    (.seq (sign ':') (.char (.compl (.ofList [.one '-', .one '=', .one '?']))))).Takes u ↔
      (∃ c, c ≠ ':' ∧ u = [c]) ∨ ∃ c, c ∉ ['-', '=', '?'] ∧ u = [':', c] := by
  rw [takes_alt, takes_char, takes_seq]
  refine or_congr (by simp [CharClass.contains]) ?_
  constructor
  · rintro ⟨v, w, rfl, hv, hw⟩
    obtain ⟨c, hc, rfl⟩ := takes_char.1 hw
    rw [takes_sign.1 hv]
    exact ⟨c, by simpa [CharClass.contains, CharClass.ofList, and_assoc] using hc, rfl⟩
  · rintro ⟨c, hc, rfl⟩
    refine ⟨[':'], [c], rfl, takes_sign.2 rfl, takes_char.2 ⟨c, ?_, rfl⟩⟩
    simpa [CharClass.contains, CharClass.ofList, and_assoc] using hc

/-- A name is empty, or begins with a character that is no colon, or with a colon that takes a character
which makes no sign with it. -/
theorem takes_name_cases : name.Takes u ↔ u = [] ∨ (∃ c r, c ≠ ':' ∧ u = c :: r ∧ name.Takes r) ∨
    ∃ c r, c ∉ ['-', '=', '?'] ∧ u = ':' :: c :: r ∧ name.Takes r := by
  rw [name, takes_star_iff, ← name]
  refine or_congr_right ?_
  constructor
  · rintro ⟨v, r, rfl, hv, hr⟩
    obtain ⟨c, hc, rfl⟩ | ⟨c, hc, rfl⟩ := takes_nameRound.1 hv
    · exact .inl ⟨c, r, hc, rfl, hr⟩
    · exact .inr ⟨c, r, hc, rfl, hr⟩
  · rintro (⟨c, r, hc, rfl, hr⟩ | ⟨c, r, hc, rfl, hr⟩)
    · exact ⟨[c], r, rfl, takes_nameRound.2 (.inl ⟨c, hc, rfl⟩), hr⟩
    · exact ⟨[':', c], r, rfl, takes_nameRound.2 (.inr ⟨c, hc, rfl⟩), hr⟩

/-- The first colon in a name is followed by a character that does not start an operator. -/
theorem next_of_takes_name {x r : Text} (h : name.Takes (x ++ ':' :: r)) (hx : ':' ∉ x) :
    ∃ c r', r = c :: r' ∧ c ∉ ['-', '=', '?'] := by
  induction x with
  | nil =>
    rcases takes_name_cases.1 h with h | ⟨c, r', hc, hr, -⟩ | ⟨c, r', hc, hr, -⟩
    · cases h
    · exact absurd (List.cons.inj hr).1.symm hc
    · exact ⟨c, r', (List.cons.inj hr).2, hc⟩
  | cons a x ih =>
    rcases takes_name_cases.1 h with h | ⟨c, r', -, hr, h⟩ | ⟨c, r', -, hr, -⟩
    · cases h
    · obtain ⟨-, rfl⟩ := List.cons.inj hr
      exact ih h fun hm => hx (List.mem_cons_of_mem _ hm)
    · exact absurd ((List.cons.inj hr).1 ▸ List.mem_cons_self) hx

/-- A text without colons is a name. -/
theorem takes_name_of_not_mem (h : ':' ∉ u) : name.Takes u := by
  induction u with
  | nil => exact .skip
  | cons c cs ih =>
    exact takes_name_cases.2 (.inr (.inl ⟨c, cs, fun he => h (he ▸ List.mem_cons_self), rfl,
      ih fun hm => h (List.mem_cons_of_mem _ hm)⟩))

end Grammar

/-! ## Tokens with a text -/

/-- Where a text stands in front of a sign, a cut at another sign that the text does not have is the
same one, or lies behind. -/
theorem append_cons_cases {x u r v : Text} {c e : Char} (hx : e ∉ x) (h : x ++ c :: r = u ++ e :: v) :
    (u = x ∧ e = c ∧ v = r) ∨ ∃ z, u = x ++ c :: z ∧ r = z ++ e :: v := by
  rcases List.append_eq_append_iff.1 h with ⟨z, hu, hz⟩ | ⟨z, hu, hz⟩
  · cases z with
    | nil =>
      rw [List.append_nil] at hu
      obtain ⟨hc, hr⟩ := List.cons.inj hz
      exact .inl ⟨hu, hc.symm, hr.symm⟩
    | cons d z =>
      obtain ⟨rfl, hr⟩ := List.cons.inj hz
      exact .inr ⟨z, hu, hr⟩
  · cases z with
    | nil =>
      rw [List.append_nil] at hu
      obtain ⟨hc, hr⟩ := List.cons.inj hz
      exact .inl ⟨hu.symm, hc, hr⟩
    | cons d z =>
      obtain ⟨rfl, -⟩ := List.cons.inj hz
      exact absurd (by rw [hu]; simp) hx

namespace Operator

open Pattern Grammar

variable {x d : Text} {c c' : Char} {g : Groups}

/-- The groups of a token with a text are what stands in front of the operator and behind it. -/
theorem exists_groups_of_recognize?_textGrammar {token : Text}
    (h : recognize? (textGrammar c) token = some g) :
    ∃ u v, token = u ++ ':' :: c :: v ∧ name.Takes u ∧ g.text 1 = u ∧ g.text 2 = v := by
  obtain ⟨-, w, hw, hstop, rfl⟩ := exists_way_of_recognize? h
  obtain ⟨u, r, hr, hu, y, hy, rfl⟩ := (mem_ways_seqs_group rfl).1 hw
  obtain ⟨_, r', hr', hcolon, hy'⟩ := (mem_ways_seqs_plain rfl).1 hy
  obtain ⟨_, r'', hr'', hsign, hy''⟩ := (mem_ways_seqs_plain rfl).1 hy'
  obtain ⟨v, r''', hr''', hv, z, hz, rfl⟩ := (mem_ways_seqs_group rfl).1 hy''
  obtain rfl := mem_ways_seqs_nil.1 hz
  obtain rfl : r''' = [] := hstop
  obtain rfl := takes_sign.1 hcolon
  obtain rfl := takes_sign.1 hsign
  simp only [Place.past_rest, List.cons_append, List.nil_append, List.append_nil] at hr' hr'' hr'''
  subst hr' hr'' hr'''
  have hr : token = u ++ ([':', c] ++ r'') := hr
  exact ⟨u, r'', hr, hu, texts_of_catching hr (by simp [Place.start]) rfl rfl⟩

/-- Of the three operators with a text, at most the one whose sign comes first recognises a token,
and the groups are the name and the text. -/
theorem recognize?_textGrammar_eq_some (hx : ':' ∉ x) (hc : c ∈ ['-', '=', '?'])
    (h : recognize? (textGrammar c') (x ++ ':' :: c :: d) = some g) :
    c' = c ∧ g.text 1 = x ∧ g.text 2 = d := by
  obtain ⟨u, v, hr, hu, hname, htext⟩ := exists_groups_of_recognize?_textGrammar h
  rcases append_cons_cases hx hr with ⟨rfl, -, hv⟩ | ⟨z, rfl, hz⟩
  · obtain ⟨rfl, rfl⟩ := List.cons.inj hv
    exact ⟨rfl, hname, htext⟩
  · -- the name would go on behind the operator
    obtain ⟨e, r, rfl, he⟩ := next_of_takes_name hu hx
    obtain ⟨rfl, -⟩ := List.cons.inj hz
    exact absurd hc he

theorem token_ne_engineProperty : x ++ ':' :: c :: d ≠ engineProperty :=
  ne_engineProperty_of_mem (c := ':') (by simp) (by decide)

/-- The operator whose sign stands behind a name recognises the token, unless there is a line
feed in the text. -/
theorem isSome_recognize?_textGrammar (hx : name.Takes x) (hd : '\n' ∉ d) :
    (recognize? (textGrammar c) (x ++ ':' :: c :: d)).isSome := by
  refine isSome_recognize? rfl token_ne_engineProperty ?_
  exact takes_seqs_cons.2 ⟨x, _, rfl, .group hx,
    takes_seqs_cons.2 ⟨[':'], _, rfl, takes_sign.2 rfl,
      takes_seqs_cons.2 ⟨[c], _, rfl, takes_sign.2 rfl,
        takes_seqs_cons.2 ⟨d, [], (List.append_nil d).symm, .group (takes_dots.2 hd), .empty⟩⟩⟩⟩

/-! ## Tokens of other operators -/

theorem takes_digits {u : Text} : (substringGrammar.digits).Takes u ↔ u.IsDigits :=
  takes_plus_char

/-- The patterns behind the name of a slice. -/
def indices : List Pattern :=
  [sign ':', .group 2 substringGrammar.digits,
    .opt .greedy (.seq (sign ':') (.group 3 substringGrammar.digits))]

/-- What is behind the name of a slice: one index or two. -/
theorem takes_indices {v : Text} : (Pattern.seqs indices).Takes v ↔
    ∃ ds : Text, ds.IsDigits ∧
      (v = ':' :: ds ∨ ∃ es : Text, es.IsDigits ∧ v = ':' :: (ds ++ ':' :: es)) := by
  constructor
  · intro h
    obtain ⟨_, v, rfl, hcolon, hv⟩ := takes_seqs_cons.1 h
    obtain ⟨ds, v, rfl, hds, hv⟩ := takes_seqs_cons.1 hv
    obtain ⟨w, _, rfl, hw, hnil⟩ := takes_seqs_cons.1 hv
    obtain rfl := takes_seqs_nil.1 hnil
    refine ⟨ds, takes_digits.1 (takes_group.1 hds), ?_⟩
    rw [takes_sign.1 hcolon, List.append_nil]
    rcases takes_opt.1 hw with rfl | hw
    · exact .inl (by simp)
    · obtain ⟨_, es, rfl, hcolon, hes⟩ := takes_seq.1 hw
      exact .inr ⟨es, takes_digits.1 (takes_group.1 hes), by rw [takes_sign.1 hcolon]; rfl⟩
  · rintro ⟨ds, hds, h⟩
    have first : (Pattern.group 2 substringGrammar.digits).Takes ds := .group (takes_digits.2 hds)
    rcases h with rfl | ⟨es, hes, rfl⟩
    · exact takes_seqs_cons.2 ⟨[':'], ds, rfl, takes_sign.2 rfl,
        takes_seqs_cons.2 ⟨ds, [], (List.append_nil ds).symm, first,
          takes_seqs_cons.2 ⟨[], [], rfl, .skip, .empty⟩⟩⟩
    · exact takes_seqs_cons.2 ⟨[':'], _, rfl, takes_sign.2 rfl,
        takes_seqs_cons.2 ⟨ds, ':' :: es, rfl, first,
          takes_seqs_cons.2 ⟨':' :: es, [], (List.append_nil _).symm,
            .opt (takes_seq.2 ⟨[':'], es, rfl, takes_sign.2 rfl, .group (takes_digits.2 hes)⟩), .empty⟩⟩⟩

/-- Where a colon and another character stand behind a text without colons, a cut at a colon that
this character does not follow lies further on. -/
theorem exists_append_of_cut {u v : Text} (hx : ':' ∉ x) (hcolon : c ≠ ':') (hv : v.head? ≠ some c)
    (h : x ++ ':' :: c :: d = u ++ ':' :: v) :
    ∃ a, u = x ++ ':' :: c :: a ∧ d = a ++ ':' :: v := by
  rcases append_cons_cases hx h with ⟨-, -, rfl⟩ | ⟨z, rfl, hz⟩
  · exact absurd rfl hv
  · cases z with
    | nil => exact absurd (List.cons.inj hz).1 hcolon
    | cons e a =>
      obtain ⟨rfl, hd⟩ := List.cons.inj hz
      exact ⟨a, rfl, hd⟩

theorem ne_colon_of_mem (hc : c ∈ ['-', '=', '?']) : c ≠ ':' := by
  rintro rfl
  exact absurd hc (by decide)

/-- What is behind the name of a slice begins with a digit and ends like a slice. -/
theorem exists_of_takes_indices {v : Text} (h : (Pattern.seqs indices).Takes v) :
    ∃ w, v = ':' :: w ∧ (∃ e, w.head? = some e ∧ Unicode.isDecimalDigit e) ∧
      ∀ a : Text, (a ++ v).EndsInSlice := by
  obtain ⟨ds, hds, h⟩ := takes_indices.1 h
  obtain ⟨e, r, rfl⟩ := List.exists_cons_of_ne_nil hds.1
  rcases h with rfl | ⟨es, hes, rfl⟩
  · exact ⟨e :: r, rfl, ⟨e, rfl, hds.2 e List.mem_cons_self⟩, fun a => ⟨a, e :: r, rfl, hds⟩⟩
  · exact ⟨_, rfl, ⟨e, rfl, hds.2 e List.mem_cons_self⟩,
      fun a => ⟨a ++ ':' :: e :: r, es, by simp, hes⟩⟩

/-- The text of a token that is read as a slice ends like one, and what is sliced is named by the
token without this end. -/
theorem exists_name_of_recognize?_slice (hx : ':' ∉ x) (hc : c ∈ ['-', '=', '?'])
    (h : recognize? substringGrammar (x ++ ':' :: c :: d) = some g) :
    ∃ a r, g.text 1 = x ++ ':' :: c :: a ∧ d = a ++ ':' :: r ∧ d.EndsInSlice := by
  obtain ⟨u, v, hr, -, hv, hg⟩ := exists_split_of_recognize? rfl (by decide) (by decide) h
  obtain ⟨w, rfl, ⟨e, he, hdigit⟩, hends⟩ := exists_of_takes_indices hv
  have hw : w.head? ≠ some c := by
    rintro hw
    obtain rfl : e = c := Option.some.inj (he.symm.trans hw)
    revert hdigit
    simp only [List.mem_cons, List.not_mem_nil, or_false] at hc
    rcases hc with rfl | rfl | rfl <;> decide
  obtain ⟨a, rfl, rfl⟩ := exists_append_of_cut hx (ne_colon_of_mem hc) hw hr
  exact ⟨a, w, hg, rfl, hends a⟩

/-- The text of a token that is read as a transliteration ends like one, and the property is named
by the token without this end. -/
theorem exists_name_of_recognize?_transliteration (hx : ':' ∉ x) (hc : c ∈ ['-', '=', '?'])
    (h : recognize? transliterateGrammar (x ++ ':' :: c :: d) = some g) :
    ∃ a r, g.text 1 = x ++ ':' :: c :: a ∧ d = a ++ ':' :: r ∧ d.EndsInTransliteration := by
  obtain ⟨u, v, hr, -, hv, hg⟩ := exists_split_of_recognize? rfl (by decide) (by decide) h
  obtain ⟨_, v, rfl, hsign, hv⟩ := takes_seqs_cons.1 hv
  obtain ⟨source, v, rfl, hsource, hv⟩ := takes_seqs_cons.1 hv
  obtain ⟨_, v, rfl, hslash, hv⟩ := takes_seqs_cons.1 hv
  obtain ⟨target, _, rfl, htarget, hnil⟩ := takes_seqs_cons.1 hv
  obtain rfl := takes_seqs_nil.1 hnil
  obtain rfl := (takes_literal _).1 hsign
  obtain rfl := takes_sign.1 hslash
  obtain ⟨hne, hsource⟩ := takes_plus_slashed.1 (takes_group.1 hsource)
  have htarget := takes_star_slashed.1 (takes_group.1 htarget)
  simp only [List.cons_append, List.nil_append, List.append_nil] at hr
  have ht : ('t' :: 'r' :: '/' :: (source ++ '/' :: target)).head? ≠ some c := by
    rintro ⟨⟩
    exact absurd hc (by decide)
  obtain ⟨a, rfl, rfl⟩ := exists_append_of_cut hx (ne_colon_of_mem hc) ht hr
  exact ⟨a, _, hg, rfl, a, source, target, by simp, hne, hsource, htarget⟩

theorem takes_shortest (hx : '\n' ∉ x) (hc : c ≠ '\n') (hd : '\n' ∉ d) :
    shortest.Takes (x ++ ':' :: c :: d) := by
  refine takes_dots.2 fun hm => ?_
  rcases List.mem_append.1 hm with hm | hm
  · exact hx hm
  · rcases List.mem_cons.1 hm with he | hm
    · exact absurd he (by decide)
    · rcases List.mem_cons.1 hm with he | hm
      · exact hc he.symm
      · exact hd hm

/-- A token whose text ends like a slice is read as one. -/
theorem isSome_recognize?_slice (hx : '\n' ∉ x) (hc : c ≠ '\n') (hd : '\n' ∉ d)
    (h : d.EndsInSlice) : (recognize? substringGrammar (x ++ ':' :: c :: d)).isSome := by
  obtain ⟨a, digits, rfl, hne, hdigits⟩ := h
  have ha : '\n' ∉ a := fun hm => hd (List.mem_append_left _ hm)
  refine isSome_recognize? rfl token_ne_engineProperty ?_
  rw [show x ++ ':' :: c :: (a ++ ':' :: digits) = (x ++ ':' :: c :: a) ++ ':' :: digits by simp]
  exact takes_seqs_cons.2 ⟨_, _, rfl, .group (takes_shortest hx hc ha),
    takes_seqs_cons.2 ⟨[':'], _, rfl, takes_sign.2 rfl,
      takes_seqs_cons.2 ⟨digits, [], (List.append_nil _).symm,
        .group (takes_digits.2 ⟨hne, hdigits⟩), takes_seqs_cons.2 ⟨[], [], rfl, .skip, .empty⟩⟩⟩⟩

/-- A token whose text ends like a transliteration can be read as one. -/
theorem isSome_recognize?_transliteration (hx : '\n' ∉ x) (hc : c ≠ '\n') (hd : '\n' ∉ d)
    (h : d.EndsInTransliteration) :
    (recognize? transliterateGrammar (x ++ ':' :: c :: d)).isSome := by
  obtain ⟨a, source, target, rfl, hne, hsource, htarget⟩ := h
  have ha : '\n' ∉ a := fun hm => hd (List.mem_append_left _ hm)
  refine isSome_recognize? rfl token_ne_engineProperty ?_
  rw [show x ++ ':' :: c :: (a ++ ([':', 't', 'r', '/'] ++ (source ++ '/' :: target))) =
    (x ++ ':' :: c :: a) ++ ([':', 't', 'r', '/'] ++ (source ++ '/' :: target)) by simp]
  exact takes_seqs_cons.2 ⟨_, _, rfl, .group (takes_shortest hx hc ha),
    takes_seqs_cons.2 ⟨_, _, rfl, (takes_literal _).2 rfl,
      takes_seqs_cons.2 ⟨source, _, rfl, .group (takes_plus_slashed.2 ⟨hne, hsource⟩),
        takes_seqs_cons.2 ⟨['/'], _, rfl, takes_sign.2 rfl,
          takes_seqs_cons.2 ⟨target, [], (List.append_nil _).symm,
            .group (takes_star_slashed.2 htarget), .empty⟩⟩⟩⟩⟩

end Operator

end Interpolation
