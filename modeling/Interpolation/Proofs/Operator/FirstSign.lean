import Interpolation.Proofs.Operator.Reader

/-!
# Tokens with several signs

A token may hold more than one of `:-`, `:=` and `:?`. Its name is cut at the first of them, with one
exception: a name takes a colon together with the character behind it, so that a second colon is taken
by the first one and does not start an operator.

* `Text.EndsInLoneColon`: the colons at the end of a text pair up but for one, which takes the
  character behind the text;
* `Grammar.takes_name_iff`: a text is a name unless it ends in such a colon, or a sign stands in it that
  has none in front;
* `Operator.eq_of_names`: a token has one name at most;
* `Operator.Accepts`: an operator recognises a token and cuts it into a name and a text;
* `Operator.first_sign_cuts`: the first sign that is not taken by a colon in front cuts the token, and
  without one no operator with a text recognises it.
-/

namespace Interpolation

namespace Text

variable {x : Text} {c : Char}

/-- The colons at the end of a text are odd in number: from the left they pair up but for the last
one, which takes the character behind the text. -/
def EndsInLoneColon (x : Text) : Prop :=
  (x.reverse.takeWhile (· = ':')).length % 2 = 1

instance : Decidable x.EndsInLoneColon :=
  inferInstanceAs (Decidable (_ = _))

/-- Characters in front leave the pairs as they are if they end in an even number of colons. -/
theorem endsInLoneColon_append (y : Text) (h : (y.reverse.takeWhile (· = ':')).length % 2 = 0) :
    EndsInLoneColon (y ++ x) ↔ x.EndsInLoneColon := by
  rw [EndsInLoneColon, EndsInLoneColon, List.reverse_append, List.takeWhile_append]
  split
  · rename_i hall
    rw [List.length_append, hall]
    omega
  · rfl

/-- A character that is no colon. -/
theorem endsInLoneColon_cons (hc : c ≠ ':') : EndsInLoneColon (c :: x) ↔ x.EndsInLoneColon :=
  endsInLoneColon_append [c] (by simp [hc])

/-- A colon and the character that it takes. -/
theorem endsInLoneColon_pair : EndsInLoneColon (':' :: c :: x) ↔ x.EndsInLoneColon :=
  endsInLoneColon_append [':', c] (by by_cases hc : c = ':' <;> simp [hc])

/-- One of `:-`, `:=` and `:?` stands in a text, with the given texts around it. -/
def HasSign (t x : Text) (c : Char) (d : Text) : Prop :=
  c ∈ ['-', '=', '?'] ∧ t = x ++ ':' :: c :: d

/-- Every sign in a text stands behind a colon that takes the sign's own one. -/
def SignsTaken (t : Text) : Prop :=
  ∀ x c d, t.HasSign x c d → x.EndsInLoneColon

theorem signsTaken_nil : SignsTaken [] := by
  rintro x c d ⟨-, h⟩
  cases x <;> cases h

theorem signsTaken_cons (hc : c ≠ ':') : SignsTaken (c :: x) ↔ x.SignsTaken := by
  constructor
  · rintro h y e d ⟨he, rfl⟩
    exact (endsInLoneColon_cons hc).1 (h (c :: y) e d ⟨he, rfl⟩)
  · rintro h y e d ⟨he, hy⟩
    cases y with
    | nil => exact absurd (List.cons.inj hy).1 hc
    | cons a y =>
      obtain ⟨rfl, rfl⟩ := List.cons.inj hy
      exact (endsInLoneColon_cons hc).2 (h y e d ⟨he, rfl⟩)

theorem signsTaken_pair : SignsTaken (':' :: c :: x) ↔ c ∉ ['-', '=', '?'] ∧ x.SignsTaken := by
  constructor
  · refine fun h => ⟨fun hc => absurd (h [] c x ⟨hc, rfl⟩) (by decide), ?_⟩
    rintro y e d ⟨he, rfl⟩
    exact endsInLoneColon_pair.1 (h (':' :: c :: y) e d ⟨he, rfl⟩)
  · rintro ⟨hc, h⟩ y e d ⟨he, hy⟩
    match y with
    | [] =>
      obtain ⟨rfl, -⟩ := List.cons.inj (List.cons.inj hy).2
      exact absurd he hc
    | [a] =>
      obtain ⟨rfl, -⟩ := List.cons.inj hy
      decide
    | a :: b :: y =>
      simp only [List.cons_append, List.cons.injEq] at hy
      obtain ⟨rfl, rfl, rfl⟩ := hy
      exact endsInLoneColon_pair.2 (h y e d ⟨he, rfl⟩)

end Text

namespace Grammar

variable {x : Text} {c : Char}

theorem takes_name_cons (hc : c ≠ ':') : name.Takes (c :: x) ↔ name.Takes x := by
  refine ⟨fun h => ?_, fun h => takes_name_cases.2 (.inr (.inl ⟨c, x, hc, rfl, h⟩))⟩
  rcases takes_name_cases.1 h with h | ⟨_, _, -, h, hx⟩ | ⟨_, _, -, h, -⟩
  · cases h
  · obtain ⟨-, rfl⟩ := List.cons.inj h
    exact hx
  · exact absurd (List.cons.inj h).1 hc

theorem takes_name_pair : name.Takes (':' :: c :: x) ↔ c ∉ ['-', '=', '?'] ∧ name.Takes x := by
  refine ⟨fun h => ?_, fun h => takes_name_cases.2 (.inr (.inr ⟨c, x, h.1, rfl, h.2⟩))⟩
  rcases takes_name_cases.1 h with h | ⟨_, _, hc, h, -⟩ | ⟨_, _, hc, h, hx⟩
  · cases h
  · exact absurd (List.cons.inj h).1.symm hc
  · obtain ⟨rfl, rfl⟩ := List.cons.inj (List.cons.inj h).2
    exact ⟨hc, hx⟩

theorem not_takes_name_colon : ¬name.Takes [':'] := by
  intro h
  rcases takes_name_cases.1 h with h | ⟨_, _, hc, h, -⟩ | ⟨_, _, -, h, -⟩
  · cases h
  · exact hc (List.cons.inj h).1.symm
  · cases (List.cons.inj h).2

/-- The names are the texts whose signs are all taken by a colon in front, and which end in no colon
that takes a character behind them. -/
theorem takes_name_iff : name.Takes x ↔ ¬x.EndsInLoneColon ∧ x.SignsTaken := by
  induction hn : x.length using Nat.strongRecOn generalizing x with
  | ind n ih =>
    subst hn
    match x with
    | [] => exact ⟨fun _ => ⟨by decide, Text.signsTaken_nil⟩, fun _ => .skip⟩
    | c :: y =>
      by_cases hc : c = ':'
      · subst hc
        match y with
        | [] => exact iff_of_false not_takes_name_colon fun h => absurd h.1 (by decide)
        | e :: y =>
          rw [takes_name_pair, Text.endsInLoneColon_pair, Text.signsTaken_pair, and_left_comm,
            ih y.length (by simp only [List.length_cons]; omega) rfl]
      · rw [takes_name_cons hc, Text.endsInLoneColon_cons hc, Text.signsTaken_cons hc,
          ih y.length (by simp) rfl]

end Grammar

namespace Operator

open Grammar

variable {x u d v t : Text} {c c' : Char} {op : Operator}

/-- Behind a text that begins with a sign, another sign may stand. -/
theorem eq_or_exists_of_append {z : Text} (hc : c ∈ ['-', '=', '?'])
    (h : ':' :: c :: d = z ++ ':' :: c' :: v) : (z = [] ∧ c = c' ∧ d = v) ∨ ∃ r, z = ':' :: c :: r := by
  match z with
  | [] =>
    simp only [List.nil_append, List.cons.injEq, true_and] at h
    exact .inl ⟨rfl, h.1, h.2⟩
  | [a] =>
    simp only [List.cons_append, List.nil_append, List.cons.injEq] at h
    exact absurd h.2.1 (ne_colon_of_mem hc)
  | a :: b :: z =>
    simp only [List.cons_append, List.cons.injEq] at h
    obtain ⟨rfl, rfl, -⟩ := h
    exact .inr ⟨z, rfl⟩

/-- Of two signs in a token, one stands in front of the other. -/
theorem eq_or_hasSign (h : t.HasSign x c d) (h' : t.HasSign u c' v) :
    (x = u ∧ c = c' ∧ d = v) ∨ (∃ r, u.HasSign x c r) ∨ ∃ r, x.HasSign u c' r := by
  obtain ⟨hc, rfl⟩ := h
  obtain ⟨hc', h'⟩ := h'
  rcases List.append_eq_append_iff.1 h' with ⟨z, rfl, hz⟩ | ⟨z, rfl, hz⟩
  · obtain ⟨rfl, rfl, rfl⟩ | ⟨r, rfl⟩ := eq_or_exists_of_append hc hz
    · exact .inl ⟨(List.append_nil x).symm, rfl, rfl⟩
    · exact .inr (.inl ⟨r, hc, rfl⟩)
  · obtain ⟨rfl, rfl, rfl⟩ | ⟨r, rfl⟩ := eq_or_exists_of_append hc' hz
    · exact .inl ⟨List.append_nil u, rfl, rfl⟩
    · exact .inr (.inr ⟨r, hc', rfl⟩)

/-- A token has one name at most. -/
theorem eq_of_names (h : t.HasSign x c d) (hx : name.Takes x) (h' : t.HasSign u c' v)
    (hu : name.Takes u) : x = u ∧ c = c' ∧ d = v := by
  rw [takes_name_iff] at hx hu
  rcases eq_or_hasSign h h' with heq | ⟨r, hr⟩ | ⟨r, hr⟩
  · exact heq
  · exact absurd (hu.2 x c r hr) hx.1
  · exact absurd (hx.2 u c' r hr) hu.1

/-- An operator recognises a token and cuts it into a name and a text. -/
def Accepts (op : Operator) (t x d : Text) : Prop :=
  ∃ g, recognize? op.grammar t = some g ∧ g.text 1 = x ∧ g.text 2 = d

/-- An operator with a text cuts a token at its sign, if what stands in front is a name. -/
theorem accepts_textOperator_iff (hline : '\n' ∉ t) (hc : c ∈ ['-', '=', '?']) :
    (textOperator c).Accepts t x d ↔ t.HasSign x c d ∧ name.Takes x := by
  rw [Accepts, grammar_textOperator hc]
  constructor
  · rintro ⟨g, hg, rfl, rfl⟩
    obtain ⟨u, v, rfl, hu, hname, htext⟩ := exists_groups_of_recognize?_textGrammar hg
    rw [hname, htext]
    exact ⟨⟨hc, rfl⟩, hu⟩
  · rintro ⟨⟨-, rfl⟩, hx⟩
    have hd : '\n' ∉ d := fun hm => hline (by simp [hm])
    obtain ⟨g, hg⟩ := Option.isSome_iff_exists.1 (isSome_recognize?_textGrammar (c := c) hx hd)
    obtain ⟨u, v, ht, hu, hname, htext⟩ := exists_groups_of_recognize?_textGrammar hg
    obtain ⟨rfl, -, rfl⟩ := eq_of_names ⟨hc, rfl⟩ hx ⟨hc, ht⟩ hu
    exact ⟨g, hg, hname, htext⟩

/-- An operator with a text that cuts a token nowhere does not recognise it. -/
theorem recognize?_textOperator_eq_none (hline : '\n' ∉ t) (hc : c ∈ ['-', '=', '?'])
    (h : ∀ x d, t.HasSign x c d → ¬name.Takes x) : recognize? (textOperator c).grammar t = none := by
  cases hg : recognize? (textOperator c).grammar t with
  | none => rfl
  | some g =>
    obtain ⟨hsign, hname⟩ := (accepts_textOperator_iff hline hc).1 ⟨g, hg, rfl, rfl⟩
    exact absurd hname (h _ _ hsign)

/-- The first sign in a token that no colon in front takes cuts the token: its operator has what stands
in front as the name and what stands behind as the text, and the others do not recognise the token. If
all signs are taken, none of the operators recognises it. So the very first sign wins just if it is
not taken. -/
theorem first_sign_cuts (hline : '\n' ∉ t) :
    (t.SignsTaken → ∀ c ∈ ['-', '=', '?'], recognize? (textOperator c).grammar t = none) ∧
    (∀ x c d, t.HasSign x c d → x.SignsTaken → ¬x.EndsInLoneColon →
      (textOperator c).Accepts t x d ∧
        ∀ c' ∈ ['-', '=', '?'], c' ≠ c → recognize? (textOperator c').grammar t = none) ∧
    ∀ x c d, t.HasSign x c d → (∀ y c' r, ¬x.HasSign y c' r) →
      ((textOperator c).Accepts t x d ↔ ¬x.EndsInLoneColon) := by
  refine ⟨fun htaken c hc => ?_, fun x c d hsign htaken hfree => ?_, fun x c d hsign hfirst => ?_⟩
  · exact recognize?_textOperator_eq_none hline hc fun x d hsign hname =>
      (takes_name_iff.1 hname).1 (htaken x c d hsign)
  · have hname : name.Takes x := takes_name_iff.2 ⟨hfree, htaken⟩
    refine ⟨(accepts_textOperator_iff hline hsign.1).2 ⟨hsign, hname⟩, fun c' hc' hne => ?_⟩
    refine recognize?_textOperator_eq_none hline hc' fun u v hsign' hname' => hne ?_
    exact (eq_of_names hsign' hname' hsign hname).2.1
  · rw [accepts_textOperator_iff hline hsign.1, takes_name_iff]
    have htaken : x.SignsTaken := fun y c' r h => absurd h (hfirst y c' r)
    simp [hsign, htaken]

/-- The first sign is taken here, and the property of another name is set. -/
theorem first_sign_cuts_double_colon :
    '\n' ∉ "a::-b:=c".toList ∧
    Operator.setDefault.Accepts "a::-b:=c".toList "a::-b".toList "c".toList ∧
    recognize? Operator.defaultValue.grammar "a::-b:=c".toList = none ∧
    ¬Operator.defaultValue.Accepts "a::-b:=c".toList "a:".toList "b:=c".toList := by
  have htaken : Text.SignsTaken "a::-b".toList :=
    (Text.signsTaken_cons (by decide)).2 (Text.signsTaken_pair.2 ⟨by decide,
      (Text.signsTaken_cons (by decide)).2 ((Text.signsTaken_cons (by decide)).2 Text.signsTaken_nil)⟩)
  have hnone : ∀ y c r, ¬Text.HasSign "a:".toList y c r := by
    rintro y c r ⟨-, h⟩
    have hlength := congrArg List.length h
    obtain rfl : y = [] := List.length_eq_zero_iff.1 (by simp at hlength; omega)
    cases h
  have hline : '\n' ∉ "a::-b:=c".toList := by decide
  obtain ⟨-, hcut, hfirst⟩ := first_sign_cuts hline
  obtain ⟨haccepts, hothers⟩ := hcut "a::-b".toList '=' "c".toList ⟨by decide, rfl⟩ htaken (by decide)
  exact ⟨hline, haccepts, hothers '-' (by decide) (by decide), fun h =>
    (hfirst "a:".toList '-' "b:=c".toList ⟨by decide, rfl⟩ hnone).1 h (by decide)⟩

end Operator

end Interpolation
