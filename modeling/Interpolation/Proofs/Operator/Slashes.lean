import Interpolation.Proofs.Operator.Grammar
import Interpolation.Proofs.Pattern.Literals
import Interpolation.Proofs.Pattern.Preference

/-!
# Tokens that are cut at slashes

The parts of a replacement and the sets of a transliteration stand between slashes, and a slash inside of
them is meant to be escaped.

* `Text.slashesEscaped_append_slash` and `Text.exists_append_of_slashesEscaped`: a slash inside a text
  whose slashes are escaped, and the end of such a text in front of a slash that is not;
* `Grammar.ordered_star_slashed`: the ways over a part stand in the order of preference, though there are
  two over an escaped slash;
* `Replacement.Cut` and `Transliteration.Cut` are tokens with their parts. In a `Kept` one the slashes
  inside the parts are escaped, in a `Clean` one those between them also are not; `Preferred` compares
  two cuts of a token;
* `Replacement.Cut.recognized_iff` and `Transliteration.Cut.recognized_iff`: which cut of a token is taken,
  and `Operator.recognized_cuts` sums up.
-/

namespace Interpolation

/-! ## Slashes in texts -/

namespace Text

variable {x y r r' : Text}

theorem slashesEscaped_of_not_mem (h : '/' ∉ x) : x.slashesEscaped := by
  fun_induction slashesEscaped x with
  | case1 => rfl
  | case2 cs => exact absurd (by simp) h
  | case3 c cs _ ih =>
    have hc : c ≠ '/' := fun he => h (he ▸ List.mem_cons_self)
    simp [hc, ih fun hm => h (List.mem_cons_of_mem _ hm)]

/-- In front of a slash inside a text whose slashes are escaped stands a backslash. -/
theorem slashesEscaped_append_slash : (x ++ '/' :: y).slashesEscaped ↔
    x.slashesEscaped ∧ x.getLast? = some '\\' ∧ y.slashesEscaped := by
  fun_induction slashesEscaped x with
  | case1 => simp [slashesEscaped]
  | case2 cs ih =>
    rw [List.cons_append, List.cons_append, slashesEscaped, ih]
    cases cs <;> simp
  | case3 c cs hcs ih =>
    cases cs with
    | nil =>
      by_cases hc : c = '\\'
      · subst hc
        simp [slashesEscaped]
      · simp [slashesEscaped, hc]
    | cons d cs =>
      have hcons : slashesEscaped (c :: d :: (cs ++ '/' :: y)) =
          (decide (c ≠ '/') && slashesEscaped (d :: (cs ++ '/' :: y))) := by
        rw [slashesEscaped]
        rintro _ rfl hd
        exact hcs cs rfl (by rw [(List.cons.inj hd).1])
      rw [List.cons_append] at ih
      rw [List.cons_append, List.cons_append, hcons, List.getLast?_cons_cons, Bool.and_eq_true,
        Bool.and_eq_true, ih]
      simp [and_assoc]

/-- A text whose slashes are escaped ends in front of a slash that is not. -/
theorem exists_append_of_slashesEscaped (hx : x.getLast? ≠ some '\\') (hy : y.slashesEscaped)
    (h : x ++ '/' :: r = y ++ r') : ∃ z, x = y ++ z ∧ r' = z ++ '/' :: r := by
  rcases List.append_eq_append_iff.1 h with ⟨z, rfl, hz⟩ | ⟨z, hxz, hr⟩
  · cases z with
    | nil => exact ⟨[], by simp, hz.symm⟩
    | cons c z =>
      obtain ⟨rfl, -⟩ := List.cons.inj hz
      exact absurd (slashesEscaped_append_slash.1 hy).2.1 hx
  · exact ⟨z, hxz, hr⟩

theorem length_le_of_slashesEscaped (hx : x.getLast? ≠ some '\\') (hy : y.slashesEscaped)
    (h : x ++ '/' :: r = y ++ r') : y.length ≤ x.length := by
  obtain ⟨z, rfl, -⟩ := exists_append_of_slashesEscaped hx hy h
  rw [List.length_append]
  exact Nat.le_add_right _ _

/-- What stands behind the shorter of two beginnings of a text is longer. -/
theorem length_le_of_isSuffix (h : r <:+ r') (he : x ++ r = y ++ r') : y.length ≤ x.length := by
  have hlength := congrArg List.length he
  have := h.length_le
  rw [List.length_append, List.length_append] at hlength
  omega

end Text

/-! ## Patterns with slashes -/

namespace Grammar

open Pattern

variable {greed : Greed} {s : Place}

theorem not_takes_slashed_nil : ¬slashed.Takes [] := by
  rw [takes_slashed]
  exact nofun

/-- No part between slashes begins with a slash. -/
theorem eq_stay_of_mem_ways_slashed {cs : Text} {w : Way} (hs : s.rest = '/' :: cs)
    (hw : w ∈ (Pattern.star greed slashed).ways s) : w = .stay s := by
  obtain ⟨u, r, hr, hu, rfl⟩ := (mem_ways_of_isPlain rfl).1 hw
  cases u with
  | nil => rw [Place.past_nil (show s.rest = r from hr)]
  | cons c u =>
    obtain ⟨rfl, -⟩ := List.cons.inj (hs.symm.trans hr)
    exact absurd ((Text.slashesEscaped_append_slash (x := [])).1 (takes_star_slashed.1 hu)).2.1 nofun

/-- A part between slashes is as long as possible. A backslash in front of a slash can be taken without
it, but then the part ends. -/
theorem ordered_star_slashed : (Pattern.star .greedy slashed).Ordered .greedy := by
  refine ordered_star rfl not_takes_slashed_nil fun s => ?_
  rw [slashed, ways, List.pairwise_append]
  refine ⟨?_, ?_, fun w hw v hv x hx y hy => ?_⟩
  · rw [ways_literal]
    split
    · exact List.pairwise_singleton _ _
    · exact .nil
  · exact pairwise_ways_char _ _ s
  · obtain ⟨u, r, hr, hu, rfl⟩ := (mem_ways_of_isPlain rfl).1 hw
    obtain ⟨u', r', hr', hu', rfl⟩ := (mem_ways_of_isPlain rfl).1 hv
    obtain rfl := (takes_literal _).1 hu
    obtain ⟨c, -, rfl⟩ := takes_char.1 hu'
    obtain ⟨-, rfl⟩ := List.cons.inj (hr.symm.trans hr')
    rw [eq_stay_of_mem_ways_slashed rfl hy]
    exact (suffix_of_mem_ways hx).trans (List.suffix_cons _ _)

theorem ordered_plus_slashed : (Pattern.plus .greedy slashed).Ordered .greedy := fun s =>
  (List.pairwise_append.1 (ordered_star_slashed s)).1

/-- One slash or two. -/
def slashes : Pattern := .seq (sign '/') (.opt .greedy (sign '/'))

theorem takes_slashes {u : Text} : slashes.Takes u ↔ u = ['/'] ∨ u = ['/', '/'] := by
  rw [slashes, takes_seq]
  constructor
  · rintro ⟨v, w, rfl, hv, hw⟩
    rw [takes_sign.1 hv]
    rcases takes_opt.1 hw with rfl | hw
    · exact .inl rfl
    · exact .inr (by rw [takes_sign.1 hw]; rfl)
  · rintro (rfl | rfl)
    · exact ⟨['/'], [], rfl, takes_sign.2 rfl, .skip⟩
    · exact ⟨['/'], ['/'], rfl, takes_sign.2 rfl, .opt (takes_sign.2 rfl)⟩

theorem ordered_slashes : slashes.Ordered .greedy := by
  intro s
  have second (s : Place) : ((Pattern.opt .greedy (sign '/')).ways s).Pairwise fun w v =>
      w.stop.rest <:+ v.stop.rest := by
    refine List.pairwise_append.2 ⟨pairwise_ways_char _ _ s, List.pairwise_singleton _ _, ?_⟩
    intro w hw v hv
    rw [List.mem_singleton.1 hv]
    exact suffix_of_mem_ways hw
  refine List.pairwise_flatMap.2 ⟨fun w _ => ?_, pairwise_ways_char _ _ s⟩
  rw [List.pairwise_map]
  exact second w.stop

end Grammar

/-! ## Tokens and their parts -/

section

variable {Cut : Type} {p : Pattern} {token : Cut → Text} {Kept : Cut → Prop} {InGroups : Cut → Groups → Prop}
  {Preferred : Cut → Cut → Prop} {c c' : Cut} {t : Text}

/-- If the groups determine the cut, a token has no other one than that which is taken. -/
theorem recognized_iff_eq (hgroups : ∀ {c c' g}, InGroups c g → InGroups c' g → c = c')
    (h : ∃ g, recognize? p t = some g ∧ InGroups c g) :
    (∃ g, recognize? p t = some g ∧ InGroups c' g) ↔ c' = c := by
  obtain ⟨g, hg, hc⟩ := h
  constructor
  · rintro ⟨g', hg', hc'⟩
    obtain rfl := Option.some.inj (hg.symm.trans hg')
    exact hgroups hc' hc
  · rintro rfl
    exact ⟨g, hg, hc⟩

variable (hsome : ∀ c, Kept c → (recognize? p (token c)).isSome)
  (hcut : ∀ {t g}, recognize? p t = some g → ∃ c, token c = t ∧ Kept c ∧ InGroups c g ∧
    ∀ c', token c' = t → Kept c' → Preferred c c')

include hsome hcut

/-- A pattern recognises the tokens that can be cut. -/
theorem isSome_recognize?_iff_kept : (recognize? p t).isSome ↔ ∃ c, token c = t ∧ Kept c := by
  constructor
  · intro h
    obtain ⟨g, hg⟩ := Option.isSome_iff_exists.1 h
    obtain ⟨c, ht, hkept, -⟩ := hcut hg
    exact ⟨c, ht, hkept⟩
  · rintro ⟨c, rfl, hkept⟩
    exact hsome c hkept

/-- It cuts them in the preferred way. -/
theorem recognized_iff_preferred (hgroups : ∀ {c c' g}, InGroups c g → InGroups c' g → c = c')
    (hunique : ∀ {c c'}, token c = token c' → Preferred c c' → Preferred c' c → c = c') :
    (∃ g, recognize? p t = some g ∧ InGroups c g) ↔
      token c = t ∧ Kept c ∧ ∀ c', token c' = t → Kept c' → Preferred c c' := by
  constructor
  · rintro ⟨g, hg, hc⟩
    obtain ⟨c', ht, hkept, hc', hpreferred⟩ := hcut hg
    obtain rfl := hgroups hc hc'
    exact ⟨ht, hkept, hpreferred⟩
  · rintro ⟨rfl, hkept, hpreferred⟩
    obtain ⟨g, hg⟩ := Option.isSome_iff_exists.1 (hsome c hkept)
    obtain ⟨c', ht, hkept', hc', hpreferred'⟩ := hcut hg
    obtain rfl := hunique ht.symm (hpreferred c' ht hkept') (hpreferred' c rfl hkept)
    exact ⟨g, hg, hc'⟩

end

/-! ## Tokens of a replacement -/

namespace Replacement

open Pattern Grammar

/-- A token, cut into a name, one slash or two, a glob, a slash and a replacement. -/
structure Cut where
  name : Text
  /-- Whether there are two slashes. -/
  every : Bool
  glob : Text
  replacement : Text

namespace Cut

variable {c c' : Cut} {t : Text} {g : Groups}

/-- The slashes behind the name. -/
def signs (c : Cut) : Text := if c.every then ['/', '/'] else ['/']

def token (c : Cut) : Text := c.name ++ (c.signs ++ (c.glob ++ '/' :: c.replacement))

/-- The parts of a token as the groups of its pattern. -/
def InGroups (c : Cut) (g : Groups) : Prop :=
  g.text 1 = c.name ∧ g.text 2 = c.signs ∧ g.text 3 = c.glob ∧ g.text 4 = c.replacement

/-- The slashes inside the parts are escaped. -/
structure Kept (c : Cut) : Prop where
  name : c.name.slashesEscaped
  glob : c.glob.slashesEscaped
  replacement : c.replacement.slashesEscaped

/-- The slashes inside the parts are escaped and those between them are not, and two slashes behind the
name are taken together. -/
structure Clean (c : Cut) : Prop extends c.Kept where
  name_open : c.name.getLast? ≠ some '\\'
  glob_open : c.glob.getLast? ≠ some '\\'
  single : c.every = false → c.glob ≠ []

/-- Of two cuts of a token, the one with the longer name is preferred, then the one with two slashes, then
the one with the longer glob. -/
def Preferred (c c' : Cut) : Prop :=
  c'.name.length ≤ c.name.length ∧ (c'.name = c.name →
    (c'.every → c.every) ∧ (c'.every = c.every → c'.glob.length ≤ c.glob.length))

/-- What the groups of the pattern catch on a way over the parts of a token. -/
theorem inGroups_of_catching {s₂ s₃ s₄ s₅ : Place} {r₁ r₂ r₃ r₄ : Text} (h₂ : s₂.index = c.name.length)
    (h₃ : s₃.index = s₂.index + c.signs.length) (h₄ : s₄.index = s₃.index + c.glob.length + 1) :
    c.InGroups (grammar.groupsOf c.token 0 ((catching 1 (.start c.token) c.name r₁).andThen
      ((catching 2 s₂ c.signs r₂).andThen ((catching 3 s₃ c.glob r₃).andThen
        ((catching 4 s₄ c.replacement r₄).andThen (.stay s₅)))))) := by
  refine ⟨?_, ?_, ?_, ?_⟩
  · exact text_one_of_catching rfl (by decide) (by simp [catching, Way.andThen, Way.stay]) rfl
  · exact text_groupsOf_catching rfl (by decide) (by simp [catching, Way.andThen, Way.stay]) rfl h₂
  · exact text_groupsOf_catching (Way.andThen_assoc ..).symm (by decide)
      (by simp [catching, Way.andThen, Way.stay]) (v := c.name ++ c.signs)
      (z := '/' :: c.replacement) (by simp [token]) (by simp [h₂, h₃])
  · refine text_groupsOf_catching (s := s₄) (r := r₄) (y := .stay s₅)
      (x := (catching 1 (.start c.token) c.name r₁).andThen
        ((catching 2 s₂ c.signs r₂).andThen (catching 3 s₃ c.glob r₃)))
      (by rw [Way.andThen_assoc, Way.andThen_assoc]) (by decide) (by simp [Way.stay])
      (v := c.name ++ (c.signs ++ (c.glob ++ ['/']))) (z := []) (by simp [token])
      (by simp [h₂, h₃, h₄, Nat.add_assoc])

/-- The patterns behind the glob take what is behind it. -/
theorem Kept.takes_replacement (h : c.Kept) :
    (seqs [sign '/', .group 4 grammar.part]).Takes ('/' :: c.replacement) :=
  takes_seqs_cons.2 ⟨['/'], _, rfl, takes_sign.2 rfl, takes_seqs_cons.2 ⟨c.replacement, [],
    (List.append_nil _).symm, .group (takes_star_slashed.2 h.replacement), .empty⟩⟩

theorem Kept.takes_glob (h : c.Kept) :
    (seqs [.group 3 grammar.part, sign '/', .group 4 grammar.part]).Takes (c.glob ++ '/' :: c.replacement) :=
  takes_seqs_cons.2 ⟨c.glob, _, rfl, .group (takes_star_slashed.2 h.glob), h.takes_replacement⟩

theorem takes_signs (c : Cut) : slashes.Takes c.signs := by
  rw [takes_slashes, signs]
  cases c.every with
  | false => exact .inl rfl
  | true => exact .inr rfl

theorem Kept.takes_signs (h : c.Kept) :
    (seqs [.group 2 slashes, .group 3 grammar.part, sign '/', .group 4 grammar.part]).Takes
      (c.signs ++ (c.glob ++ '/' :: c.replacement)) :=
  takes_seqs_cons.2 ⟨c.signs, _, rfl, .group c.takes_signs, h.takes_glob⟩

theorem Kept.takes (h : c.Kept) : grammar.Takes c.token :=
  takes_seqs_cons.2 ⟨c.name, _, rfl, .group (takes_star_slashed.2 h.name), h.takes_signs⟩

/-- A cut is preferred to another one of the same token if each of its parts leaves less behind it than the
other one, as far as the parts in front are the same. -/
theorem preferred_of_isSuffix (ht : c'.token = c.token)
    (hname : c.signs ++ (c.glob ++ '/' :: c.replacement) <:+
      c'.signs ++ (c'.glob ++ '/' :: c'.replacement))
    (hsigns : c'.name = c.name → c.glob ++ '/' :: c.replacement <:+ c'.glob ++ '/' :: c'.replacement)
    (hglob : c'.name = c.name → c'.every = c.every → '/' :: c.replacement <:+ '/' :: c'.replacement) :
    c.Preferred c' := by
  refine ⟨Text.length_le_of_isSuffix hname ht.symm, fun hsame => ?_⟩
  rw [token, token, hsame] at ht
  have hrest := List.append_cancel_left ht
  refine ⟨fun hevery => ?_, fun hevery => ?_⟩
  · have hlength := Text.length_le_of_isSuffix (hsigns hsame) hrest.symm
    cases hsingle : c.every with
    | true => rfl
    | false => simp [signs, hsingle, hevery] at hlength
  · rw [signs, signs, hevery] at hrest
    exact Text.length_le_of_isSuffix (hglob hsame hevery) (List.append_cancel_left hrest).symm

/-- A token is cut where the preferred way through the pattern leads. -/
theorem exists_of_recognize? (h : recognize? Operator.replace.grammar t = some g) :
    ∃ c : Cut, c.token = t ∧ c.Kept ∧ c.InGroups g ∧ ∀ c', c'.token = t → c'.Kept → c.Preferred c' := by
  obtain ⟨w, hw, rfl⟩ := exists_best_of_recognize? h
  obtain ⟨name, r₁, w₁, h₁, hname, hw₁, rfl, hlong₁⟩ :=
    exists_group_of_best rfl ordered_star_slashed rfl hw
  obtain ⟨signs, r₂, w₂, h₂, hsigns, hw₂, rfl, hlong₂⟩ := exists_group_of_best rfl ordered_slashes rfl hw₁
  obtain ⟨glob, r₃, w₃, h₃, hglob, hw₃, rfl, hlong₃⟩ :=
    exists_group_of_best rfl ordered_star_slashed rfl hw₂
  obtain ⟨_, r₄, h₄, hslash, hw₄⟩ := exists_plain_of_best rfl hw₃
  obtain ⟨replacement, r₅, w₅, h₅, hreplacement, hw₅, rfl, -⟩ :=
    exists_group_of_best rfl ordered_star_slashed rfl hw₄
  obtain ⟨hnil, rfl⟩ := eq_stay_of_best_nil hw₅
  obtain rfl := takes_sign.1 hslash
  obtain ⟨every, rfl⟩ : ∃ every : Bool, signs = if every then ['/', '/'] else ['/'] :=
    (takes_slashes.1 hsigns).elim (⟨false, ·⟩) (⟨true, ·⟩)
  -- what is left behind each part begins with the next one
  replace h₁ : t = name ++ r₁ := h₁
  replace h₂ : r₁ = Cut.signs ⟨name, every, glob, replacement⟩ ++ r₂ := h₂
  replace h₃ : r₂ = glob ++ r₃ := h₃
  replace h₄ : r₃ = ['/'] ++ r₄ := h₄
  replace h₅ : r₄ = replacement ++ r₅ := h₅
  obtain rfl : r₅ = [] := hnil
  rw [List.append_nil] at h₅
  subst h₅ h₄ h₃ h₂ h₁
  refine ⟨⟨name, every, glob, r₄⟩, rfl, ⟨takes_star_slashed.1 hname, takes_star_slashed.1 hglob,
    takes_star_slashed.1 hreplacement⟩, inGroups_of_catching (c := ⟨name, every, glob, r₄⟩)
    (by simp [Place.start]) rfl rfl, fun c' hc' hkept => preferred_of_isSuffix hc' ?_ ?_ ?_⟩
  · exact hlong₁ c'.name _ hc'.symm (takes_star_slashed.2 hkept.name) hkept.takes_signs
  · intro hsame
    rw [token, hsame] at hc'
    exact hlong₂ c'.signs _ (List.append_cancel_left hc').symm c'.takes_signs hkept.takes_glob
  · intro hsame hevery
    rw [token, hsame, signs, signs, hevery] at hc'
    exact hlong₃ c'.glob _ (List.append_cancel_left (List.append_cancel_left hc')).symm
      (takes_star_slashed.2 hkept.glob) hkept.takes_replacement

theorem signs_eq (c : Cut) : c.signs = '/' :: if c.every then ['/'] else [] := by
  rw [signs]
  split <;> rfl

theorem signs_inj (h : c.signs = c'.signs) : c.every = c'.every := by
  rw [signs_eq, signs_eq] at h
  cases hc : c.every <;> cases hc' : c'.every <;> simp [hc, hc'] at h ⊢

theorem token_ne_engineProperty (c : Cut) : c.token ≠ engineProperty :=
  ne_engineProperty_of_mem (c := '/') (by simp [token]) (by decide)

theorem eq_of_inGroups (h : c.InGroups g) (h' : c'.InGroups g) : c = c' := by
  obtain ⟨hname, hsigns, hglob, hreplacement⟩ := h
  obtain ⟨hname', hsigns', hglob', hreplacement'⟩ := h'
  have hevery := signs_inj (hsigns.symm.trans hsigns')
  cases c
  cases c'
  simp_all

/-- Of two cuts of a token at most one is preferred. -/
theorem eq_of_preferred (ht : c.token = c'.token) (h : c.Preferred c') (h' : c'.Preferred c) : c = c' := by
  obtain ⟨name, every, glob, replacement⟩ := c
  obtain ⟨name', every', glob', replacement'⟩ := c'
  obtain ⟨rfl, ht⟩ := List.append_inj ht (Nat.le_antisymm h'.1 h.1)
  obtain rfl : every = every' := Bool.eq_iff_iff.2 ⟨(h'.2 rfl).1, (h.2 rfl).1⟩
  have hlength := Nat.le_antisymm ((h'.2 rfl).2 rfl) ((h.2 rfl).2 rfl)
  obtain ⟨rfl, ht⟩ := List.append_inj (List.append_cancel_left ht) hlength
  exact congrArg (Cut.mk name every glob) (List.cons.inj ht).2

/-- A clean cut is preferred to all others. -/
theorem Clean.preferred (h : c.Clean) (ht : c.token = c'.token) (hkept : c'.Kept) : c.Preferred c' := by
  refine ⟨?_, fun hname => ?_⟩
  · rw [token, signs_eq, List.cons_append] at ht
    exact Text.length_le_of_slashesEscaped h.name_open hkept.name ht
  · rw [token, token, hname] at ht
    replace ht := List.append_cancel_left ht
    refine ⟨fun hevery => ?_, fun hevery => ?_⟩
    · cases hsingle : c.every with
      | true => rfl
      | false =>
        -- the single slash would be followed by another one, but no glob begins with a slash
        obtain ⟨a, glob, hglob⟩ := List.exists_cons_of_ne_nil (h.single hsingle)
        rw [signs, signs, hsingle, hevery, hglob] at ht
        obtain ⟨rfl, -⟩ := List.cons.inj (List.cons.inj ht).2
        have hkept := h.glob
        rw [hglob] at hkept
        exact absurd ((Text.slashesEscaped_append_slash (x := [])).1 hkept).2.1 nofun
    · rw [signs, signs, hevery, List.append_cancel_left_eq] at ht
      exact Text.length_le_of_slashesEscaped h.glob_open hkept.glob ht

/-- The pattern recognises the token and cuts it so. -/
def Recognized (c : Cut) (t : Text) : Prop :=
  ∃ g, recognize? Operator.replace.grammar t = some g ∧ c.InGroups g

theorem Kept.isSome_recognize? (h : c.Kept) : (recognize? Operator.replace.grammar c.token).isSome :=
  Interpolation.isSome_recognize? rfl c.token_ne_engineProperty h.takes

/-- A token is cut in the preferred one of the ways in which the slashes inside the parts are escaped. -/
theorem recognized_iff : c.Recognized t ↔
    c.token = t ∧ c.Kept ∧ ∀ c', c'.token = t → c'.Kept → c.Preferred c' :=
  recognized_iff_preferred (fun _ => Kept.isSome_recognize?) exists_of_recognize? eq_of_inGroups
    eq_of_preferred

/-- A clean cut is the one that is taken. -/
theorem Clean.recognized_iff (h : c.Clean) : c'.Recognized c.token ↔ c' = c :=
  recognized_iff_eq eq_of_inGroups
    (Cut.recognized_iff.2 ⟨rfl, h.toKept, fun _ ht => h.preferred ht.symm⟩)

theorem isSome_recognize?_iff :
    (recognize? Operator.replace.grammar t).isSome ↔ ∃ c : Cut, c.token = t ∧ c.Kept :=
  isSome_recognize?_iff_kept (fun _ => Kept.isSome_recognize?) exists_of_recognize?

end Cut

end Replacement

/-! ## Tokens of a transliteration -/

namespace Transliteration

open Pattern Grammar Operator

/-- A token, cut into a name, the operator, a set of characters, a slash and another set. -/
structure Cut where
  name : Text
  source : Text
  target : Text

namespace Cut

variable {c c' : Cut} {t : Text} {g : Groups}

/-- The operator behind the name. -/
def sign : Text := [':', 't', 'r', '/']

def token (c : Cut) : Text := c.name ++ (sign ++ (c.source ++ '/' :: c.target))

/-- The parts of a token as the groups of its pattern. -/
def InGroups (c : Cut) (g : Groups) : Prop :=
  g.text 1 = c.name ∧ g.text 2 = c.source ∧ g.text 3 = c.target

/-- The slashes inside the sets are escaped. -/
structure Kept (c : Cut) : Prop where
  name : '\n' ∉ c.name
  nonempty : c.source ≠ []
  source : c.source.slashesEscaped
  target : c.target.slashesEscaped

/-- The slashes inside the sets are escaped, and the one between them is not. -/
structure Clean (c : Cut) : Prop extends c.Kept where
  source_open : c.source.getLast? ≠ some '\\'

/-- Of two cuts of a token, the one with the shorter name is preferred, then the one with the longer first
set. -/
def Preferred (c c' : Cut) : Prop :=
  c.name.length ≤ c'.name.length ∧ (c'.name = c.name → c'.source.length ≤ c.source.length)

/-- What the groups of the pattern catch on a way over the parts of a token. -/
theorem inGroups_of_catching {s₂ s₃ s₄ : Place} {r₁ r₂ r₃ : Text}
    (h₂ : s₂.index = c.name.length + sign.length) (h₃ : s₃.index = s₂.index + c.source.length + 1) :
    c.InGroups (transliterateGrammar.groupsOf c.token 0 ((catching 1 (.start c.token) c.name r₁).andThen
      ((catching 2 s₂ c.source r₂).andThen ((catching 3 s₃ c.target r₃).andThen (.stay s₄))))) := by
  refine ⟨?_, ?_, ?_⟩
  · exact text_one_of_catching rfl (by decide) (by simp [catching, Way.andThen, Way.stay]) rfl
  · exact text_groupsOf_catching rfl (by decide) (by simp [catching, Way.andThen, Way.stay])
      (v := c.name ++ sign) (z := '/' :: c.target) (by simp [token]) (by simp [h₂])
  · refine text_groupsOf_catching (Way.andThen_assoc ..).symm (by decide) (by simp [Way.stay])
      (v := c.name ++ (sign ++ (c.source ++ ['/']))) (z := []) (by simp [token])
      (by simp [h₂, h₃, Nat.add_assoc])

/-- The patterns behind the first set take what is behind it. -/
theorem Kept.takes_target (h : c.Kept) :
    (seqs [Grammar.sign '/', .group 3 (.star .greedy slashed)]).Takes ('/' :: c.target) :=
  takes_seqs_cons.2 ⟨['/'], _, rfl, takes_sign.2 rfl, takes_seqs_cons.2 ⟨c.target, [],
    (List.append_nil _).symm, .group (takes_star_slashed.2 h.target), .empty⟩⟩

theorem Kept.takes_sign (h : c.Kept) :
    (seqs [.literal sign, .group 2 (.plus .greedy slashed), Grammar.sign '/',
      .group 3 (.star .greedy slashed)]).Takes (sign ++ (c.source ++ '/' :: c.target)) :=
  takes_seqs_cons.2 ⟨sign, _, rfl, (takes_literal _).2 rfl, takes_seqs_cons.2 ⟨c.source, _, rfl,
    .group (takes_plus_slashed.2 ⟨h.nonempty, h.source⟩), h.takes_target⟩⟩

theorem Kept.takes (h : c.Kept) : transliterateGrammar.Takes c.token :=
  takes_seqs_cons.2 ⟨c.name, _, rfl, .group (takes_dots.2 h.name), h.takes_sign⟩

/-- A token is cut where the preferred way through the pattern leads. -/
theorem exists_of_recognize? (h : recognize? Operator.transliterate.grammar t = some g) :
    ∃ c : Cut, c.token = t ∧ c.Kept ∧ c.InGroups g ∧ ∀ c', c'.token = t → c'.Kept → c.Preferred c' := by
  obtain ⟨w, hw, rfl⟩ := exists_best_of_recognize? h
  obtain ⟨name, r₁, w₁, h₁, hname, hw₁, rfl, hshort⟩ :=
    exists_group_of_best rfl (ordered_star_char _ _) rfl hw
  obtain ⟨_, r₂, h₂, hsign, hw₂⟩ := exists_plain_of_best rfl hw₁
  obtain ⟨source, r₃, w₃, h₃, hsource, hw₃, rfl, hlong⟩ :=
    exists_group_of_best rfl ordered_plus_slashed rfl hw₂
  obtain ⟨_, r₄, h₄, hslash, hw₄⟩ := exists_plain_of_best rfl hw₃
  obtain ⟨target, r₅, w₅, h₅, htarget, hw₅, rfl, -⟩ :=
    exists_group_of_best rfl ordered_star_slashed rfl hw₄
  obtain ⟨hnil, rfl⟩ := eq_stay_of_best_nil hw₅
  obtain rfl := (takes_literal _).1 hsign
  obtain rfl := Grammar.takes_sign.1 hslash
  replace h₁ : t = name ++ r₁ := h₁
  replace h₂ : r₁ = sign ++ r₂ := h₂
  replace h₃ : r₂ = source ++ r₃ := h₃
  replace h₄ : r₃ = ['/'] ++ r₄ := h₄
  replace h₅ : r₄ = target ++ r₅ := h₅
  obtain rfl : r₅ = [] := hnil
  rw [List.append_nil] at h₅
  subst h₅ h₄ h₃
  obtain ⟨hne, hsource⟩ := takes_plus_slashed.1 hsource
  refine ⟨⟨name, source, r₄⟩, by rw [h₁, h₂]; rfl, ⟨takes_dots.1 hname, hne, hsource,
    takes_star_slashed.1 htarget⟩, ?_, fun c' hc' hkept => ⟨?_, fun hsame => ?_⟩⟩
  · rw [h₁, h₂]
    exact Cut.inGroups_of_catching (c := ⟨name, source, r₄⟩) (by simp [Place.start, sign]) rfl
  · have hr := hshort c'.name _ hc'.symm (takes_dots.2 hkept.name) hkept.takes_sign
    exact Text.length_le_of_isSuffix hr (hc'.trans h₁)
  · replace hsame : c'.name = name := hsame
    rw [h₁, h₂, token, hsame] at hc'
    have hrest := (List.append_cancel_left (List.append_cancel_left hc')).symm
    have hr := hlong c'.source _ hrest (takes_plus_slashed.2 ⟨hkept.nonempty, hkept.source⟩)
      hkept.takes_target
    exact Text.length_le_of_isSuffix hr hrest

theorem token_ne_engineProperty (c : Cut) : c.token ≠ engineProperty :=
  ne_engineProperty_of_mem (c := '/') (by simp [token]) (by decide)

theorem eq_of_inGroups (h : c.InGroups g) (h' : c'.InGroups g) : c = c' := by
  obtain ⟨hname, hsource, htarget⟩ := h
  obtain ⟨hname', hsource', htarget'⟩ := h'
  cases c
  cases c'
  simp_all

/-- Of two cuts of a token at most one is preferred. -/
theorem eq_of_preferred (ht : c.token = c'.token) (h : c.Preferred c') (h' : c'.Preferred c) : c = c' := by
  obtain ⟨name, source, target⟩ := c
  obtain ⟨name', source', target'⟩ := c'
  obtain ⟨rfl, ht⟩ := List.append_inj ht (Nat.le_antisymm h.1 h'.1)
  obtain ⟨rfl, ht⟩ := List.append_inj (List.append_cancel_left ht) (Nat.le_antisymm (h'.2 rfl) (h.2 rfl))
  exact congrArg (Cut.mk name source) (List.cons.inj ht).2

/-- The operator and the sets of a clean cut do not fit into the sets of another one: only one of two
slashes that are not escaped could stand between these. -/
theorem Clean.ne_append_sign (h : c.Clean) (hkept : c'.Kept) (z : Text) :
    c'.source ++ '/' :: c'.target ≠ z ++ (sign ++ (c.source ++ '/' :: c.target)) := by
  intro hsets
  have hopen : (z ++ (sign ++ c.source)).getLast? ≠ some '\\' := by
    obtain ⟨a, source, hsource⟩ := List.exists_cons_of_ne_nil h.nonempty
    rw [List.getLast?_append, List.getLast?_append]
    simpa [hsource] using hsource ▸ h.source_open
  have hcut : (z ++ (sign ++ c.source)) ++ '/' :: c.target = c'.source ++ '/' :: c'.target := by
    rw [hsets, List.append_assoc, List.append_assoc]
  obtain ⟨y, hy, hrest⟩ := Text.exists_append_of_slashesEscaped hopen hkept.source hcut
  cases y with
  | nil =>
    have hsource : c'.source = (z ++ [':', 't', 'r']) ++ '/' :: c.source := by
      rw [← List.append_nil c'.source, ← hy]
      simp [sign]
    have := (Text.slashesEscaped_append_slash.1 (hsource ▸ hkept.source)).2.1
    simp at this
  | cons a y =>
    obtain ⟨rfl, htarget⟩ := List.cons.inj hrest
    have hlast := (Text.slashesEscaped_append_slash.1 (htarget ▸ hkept.target)).2.1
    refine hopen ?_
    rw [hy, List.getLast?_append, List.getLast?_cons, hlast]
    rfl

/-- A clean cut is preferred to all others. -/
theorem Clean.preferred (h : c.Clean) (ht : c.token = c'.token) (hkept : c'.Kept) : c.Preferred c' := by
  refine ⟨?_, fun hname => ?_⟩
  · rcases List.append_eq_append_iff.1 ht with ⟨z, hz, -⟩ | ⟨z, hz, hrest⟩
    · rw [hz, List.length_append]
      exact Nat.le_add_right _ _
    · -- a shorter name would leave a sign and two slashes that are not escaped to the sets
      rcases z with _ | ⟨a, _ | ⟨b, _ | ⟨d, _ | ⟨e, z⟩⟩⟩⟩
      · exact Nat.le_of_eq (by rw [hz, List.append_nil])
      · simp [sign] at hrest
      · simp [sign] at hrest
      · simp [sign] at hrest
      · have hsets := (List.append_inj (show sign ++ _ = [a, b, d, e] ++ (z ++ _) from hrest) rfl).2
        exact absurd hsets (h.ne_append_sign hkept z)
  · rw [token, token, hname] at ht
    have hsets := List.append_cancel_left (List.append_cancel_left ht)
    exact Text.length_le_of_slashesEscaped h.source_open hkept.source hsets

/-- The pattern recognises the token and cuts it so. -/
def Recognized (c : Cut) (t : Text) : Prop :=
  ∃ g, recognize? Operator.transliterate.grammar t = some g ∧ c.InGroups g

theorem Kept.isSome_recognize? (h : c.Kept) : (recognize? Operator.transliterate.grammar c.token).isSome :=
  Interpolation.isSome_recognize? rfl c.token_ne_engineProperty h.takes

/-- A token is cut in the preferred one of the ways in which the slashes inside the sets are escaped. -/
theorem recognized_iff : c.Recognized t ↔
    c.token = t ∧ c.Kept ∧ ∀ c', c'.token = t → c'.Kept → c.Preferred c' :=
  recognized_iff_preferred (fun _ => Kept.isSome_recognize?) exists_of_recognize? eq_of_inGroups
    eq_of_preferred

/-- A clean cut is the one that is taken. -/
theorem Clean.recognized_iff (h : c.Clean) : c'.Recognized c.token ↔ c' = c :=
  recognized_iff_eq eq_of_inGroups
    (Cut.recognized_iff.2 ⟨rfl, h.toKept, fun _ ht => h.preferred ht.symm⟩)

theorem isSome_recognize?_iff :
    (recognize? Operator.transliterate.grammar t).isSome ↔ ∃ c : Cut, c.token = t ∧ c.Kept :=
  isSome_recognize?_iff_kept (fun _ => Kept.isSome_recognize?) exists_of_recognize?

end Cut

end Transliteration

/-! ## Where tokens are cut -/

/-- Replacements and transliterations take any token that can be cut in such a way that the slashes inside
the parts are escaped, and cut it in the preferred one of these ways. Nothing is asked of the slashes at
which they cut: these are unescaped if the token can be cut at such slashes, and one of them may be escaped
if it cannot. -/
theorem Operator.recognized_cuts (t : Text) :
    (((recognize? Operator.replace.grammar t).isSome ↔ ∃ c : Replacement.Cut, c.token = t ∧ c.Kept) ∧
      (∀ c : Replacement.Cut, c.Recognized t ↔
        c.token = t ∧ c.Kept ∧ ∀ c', c'.token = t → c'.Kept → c.Preferred c') ∧
      ∀ c : Replacement.Cut, c.Clean → c.token = t → ∀ c', c'.Recognized t ↔ c' = c) ∧
    ((recognize? Operator.transliterate.grammar t).isSome ↔
        ∃ c : Transliteration.Cut, c.token = t ∧ c.Kept) ∧
      (∀ c : Transliteration.Cut, c.Recognized t ↔
        c.token = t ∧ c.Kept ∧ ∀ c', c'.token = t → c'.Kept → c.Preferred c') ∧
      ∀ c : Transliteration.Cut, c.Clean → c.token = t → ∀ c', c'.Recognized t ↔ c' = c :=
  ⟨⟨Replacement.Cut.isSome_recognize?_iff, fun _ => Replacement.Cut.recognized_iff,
      fun _ h ht _ => ht ▸ h.recognized_iff⟩,
    Transliteration.Cut.isSome_recognize?_iff, fun _ => Transliteration.Cut.recognized_iff,
    fun _ h ht _ => ht ▸ h.recognized_iff⟩

/-- An escaped slash inside a glob, and one at which a token is cut, as there are too few others. -/
theorem Operator.recognized_cuts_escaped :
    let kept : Replacement.Cut := ⟨"p".toList, true, "a\\/b".toList, "c".toList⟩
    let cut : Replacement.Cut := ⟨"p".toList, false, "a\\".toList, "b".toList⟩
    let cutSets : Transliteration.Cut := ⟨"p".toList, "a\\".toList, "b".toList⟩
    kept.Clean ∧ kept.Recognized "p//a\\/b/c".toList ∧
      cut.Recognized "p/a\\/b".toList ∧
      (¬∃ c : Replacement.Cut, c.Clean ∧ c.token = "p/a\\/b".toList) ∧
      cutSets.Recognized "p:tr/a\\/b".toList ∧
      ¬∃ c : Transliteration.Cut, c.Clean ∧ c.token = "p:tr/a\\/b".toList := by
  intro kept cut cutSets
  have hclean : kept.Clean := ⟨⟨by decide, by decide, by decide⟩, by decide, by decide, nofun⟩
  have hcut : cut.Recognized "p/a\\/b".toList :=
    ⟨⟨[some "p/a\\/b".toList, some ['p'], some ['/'], some ['a', '\\'], some ['b']]⟩, by decide +kernel,
      rfl, rfl, rfl, rfl⟩
  have hcutSets : cutSets.Recognized "p:tr/a\\/b".toList :=
    ⟨⟨[some "p:tr/a\\/b".toList, some ['p'], some ['a', '\\'], some ['b']]⟩, by decide +kernel,
      rfl, rfl, rfl⟩
  refine ⟨hclean, (((recognized_cuts _).1.2.2 kept hclean rfl) kept).2 rfl, hcut, ?_, hcutSets, ?_⟩
  · rintro ⟨c, hc, ht⟩
    obtain rfl := ((recognized_cuts _).1.2.2 c hc ht cut).1 hcut
    exact hc.glob_open rfl
  · rintro ⟨c, hc, ht⟩
    obtain rfl := ((recognized_cuts _).2.2.2 c hc ht cutSets).1 hcutSets
    exact hc.source_open rfl

end Interpolation
