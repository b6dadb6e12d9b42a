import Interpolation.Prefixed
import Interpolation.Proofs.Glob.Pieces
import Interpolation.Proofs.Operator.Grammar

/-!
# Tokens with a prefix

A token is cut at the first place where the delimiter stands, and belongs to a strategy if its prefix
is in front. The pattern of such tokens is made from the delimiter, in which every sign is escaped.

* `Pattern.cutBy` is the pattern of a text, a delimiter and the rest, and `Pattern.exists_groups_of_cut`
  says that it cuts at the first delimiter;
* `Pattern.passes_quote`: a quoted text is read as its characters, whatever they mean in a pattern, so that
  `PrefixKey.groups?_pattern` are the groups of a token for any delimiter;
* `PrefixKey.split?_eq_none` and `PrefixKey.split?_of_first`: a token without the delimiter is not taken apart, and one
  with it at the first place where it stands; `PrefixKey.split?_cases` is what holds of every token, and
  `PrefixKey.split?_append` of a prefix, a colon and any text without line feeds.
-/

namespace Interpolation

/-! ## Cutting at a delimiter -/

namespace Pattern

variable {q : Pattern} {s : Place} {t u v d : Text}

/-- A text, a delimiter and the rest of the text. -/
def cutBy (q : Pattern) : Pattern :=
  .seqs [.anchor .textStart, .group 1 Grammar.shortest, q, .group 2 Grammar.longest,
    .anchor .textEnd]

/-- The part of the pattern from the delimiter on. -/
def fromDelimiter (q : Pattern) : Pattern :=
  .seqs [q, .group 2 Grammar.longest, .anchor .textEnd]

theorem groupNumbers_of_isPlain (hq : q.isPlain) : q.groupNumbers = [] := by
  induction q with
  | empty | char | anchor => rfl
  | group => simp [isPlain] at hq
  | seq p q ihp ihq | alt p q ihp ihq =>
    simp only [isPlain, Bool.and_eq_true] at hq
    rw [groupNumbers, ihp hq.1, ihq hq.2, List.nil_append]
  | opt _ p ih | plus _ p ih => exact ih hq

theorem lastGroup_cutBy (hq : q.isPlain) : (cutBy q).lastGroup = 2 := by
  simp [cutBy, seqs, lastGroup, groupNumbers, groupNumbers_of_isPlain hq, Grammar.shortest,
    Grammar.longest, star, Grammar.dot]

section Delimiter

variable (hplain : q.isPlain) (hq : ∀ x, q.Takes x ↔ x = d)

include hplain hq

/-- From the delimiter on, the rest of the text is caught. -/
theorem best_fromDelimiter (hs : s.rest = d ++ v) (hline : '\n' ∉ v) :
    Way.best atEnd ((fromDelimiter q).ways s) = some (catching 2 (s.past d v) v []) := by
  have hlongest : Grammar.longest.Takes v := Grammar.takes_dots.2 hline
  have hway : catching 2 (s.past d v) v [] ∈ (fromDelimiter q).ways s :=
    (mem_ways_seqs_plain hplain).2 ⟨d, v, hs, (hq d).2 rfl, (mem_ways_seqs_group rfl).2
      ⟨v, [], (List.append_nil v).symm, hlongest, _,
        mem_ways_seqs_anchor.2 ⟨rfl, mem_ways_seqs_nil.2 rfl⟩, (andThen_stay _).symm⟩⟩
  obtain ⟨y, hy, hstop, hbest⟩ := exists_best_atEnd hway rfl
  rw [hbest]
  obtain ⟨d', r, hr, hd, hy⟩ := (mem_ways_seqs_plain hplain).1 hy
  obtain rfl := (hq d').1 hd
  obtain rfl : v = r := List.append_cancel_left (hs.symm.trans hr)
  obtain ⟨b, r', hr', -, z, hz, rfl⟩ := (mem_ways_seqs_group rfl).1 hy
  obtain rfl := mem_ways_seqs_nil.1 (mem_ways_seqs_anchor.1 hz).2
  obtain rfl : r' = [] := hstop
  obtain rfl : v = b := hr'.trans (List.append_nil b)
  exact congrArg some (andThen_stay _)

/-- Where the delimiter does not stand, there is no way on. -/
theorem best_fromDelimiter_eq_none (hs : ¬d <+: s.rest) :
    Way.best atEnd ((fromDelimiter q).ways s) = none := by
  have hnone : (fromDelimiter q).ways s = [] := by
    refine List.eq_nil_iff_forall_not_mem.2 fun w hw => ?_
    obtain ⟨d', r, hr, hd, -⟩ := (mem_ways_seqs_plain hplain).1 hw
    obtain rfl := (hq d').1 hd
    exact hs ⟨r, hr.symm⟩
  rw [hnone, Way.best_nil]

/-- A text is cut at the first place where the delimiter stands. -/
theorem exists_groups_of_cut (ht : t = u ++ (d ++ v)) (hline : '\n' ∉ t)
    (hfirst : ∀ x x', u = x ++ x' → x' ≠ [] → ¬d <+: x' ++ (d ++ v)) :
    ∃ g, (cutBy q).whole.captures? t = some g ∧ g.text 1 = u ∧ g.text 2 = v := by
  have hdots : ∀ c ∈ u, CharClass.notNewline.contains c := by
    intro c hc
    have : c ≠ '\n' := fun he => hline (by rw [ht, ← he]; simp [hc])
    simpa [CharClass.notNewline, CharClass.contains] using this
  have hrest : '\n' ∉ v := fun hm => hline (by rw [ht]; simp [hm])
  have hbest : Way.best atEnd ((cutBy q).ways (.start t)) =
      some ((catching 1 (.start t) u (d ++ v)).andThen
        (catching 2 (((Place.start t).past u (d ++ v)).past d v) v [])) := by
    have hstart : (Pattern.anchor .textStart).ways (.start t) = [.stay (.start t)] := rfl
    rw [cutBy, best_seqs_cons, hstart, Way.best_stay, best_seqs_cons]
    exact best_group_shortest 1 ht hdots
      (fun x x' hx hx' => best_fromDelimiter_eq_none hplain hq (hfirst x x' hx hx'))
      (best_fromDelimiter hplain hq rfl hrest)
  refine ⟨_, by rw [captures?_whole, hbest, Option.map_some], ?_⟩
  exact texts_of_catching ht (by simp [Place.start]) (lastGroup_cutBy hplain) rfl

/-- Whatever is cut is a text, the delimiter and the rest. -/
theorem exists_split_of_captures? {g : Groups} (h : (cutBy q).whole.captures? t = some g) :
    ∃ u v, t = u ++ (d ++ v) ∧ g.text 1 = u ∧ g.text 2 = v := by
  rw [captures?_whole, Option.map_eq_some_iff] at h
  obtain ⟨w, hbest, rfl⟩ := h
  obtain ⟨hw, hstop⟩ := mem_of_best_atEnd hbest
  replace hw := (mem_ways_seqs_anchor.1 hw).2
  obtain ⟨u, r, hr, -, y, hy, rfl⟩ := (mem_ways_seqs_group rfl).1 hw
  obtain ⟨d', r', hr', hd, hy⟩ := (mem_ways_seqs_plain hplain).1 hy
  obtain rfl := (hq d').1 hd
  obtain ⟨v, r'', hr'', -, z, hz, rfl⟩ := (mem_ways_seqs_group rfl).1 hy
  obtain rfl := mem_ways_seqs_nil.1 (mem_ways_seqs_anchor.1 hz).2
  obtain rfl : r'' = [] := hstop
  replace hr' : r = d' ++ r' := hr'
  replace hr'' : r' = v ++ [] := hr''
  rw [List.append_nil] at hr''
  subst hr' hr''
  have hr : t = u ++ (d' ++ r') := hr
  exact ⟨u, r', hr, texts_of_catching hr (by simp [Place.start]) (lastGroup_cutBy hplain) rfl⟩

end Delimiter

/-! ## Quoted texts -/

section Quoted

variable {all : Bool} {tail : Text} {r : Reader} {c : Char}

theorem isEscapable_of_isMeta (h : isMeta c) : isEscapable c := by
  simp [isEscapable, h]

theorem readSign_of_not_isMeta (h : ¬isMeta c) (hr : r.flags = usual all) :
    readSign r c tail = .ok (r.push (.leaf (.char (.one c))), tail) := by
  unfold readSign
  split
  case h_13 => rw [hr, classOf_usual]
  all_goals exact absurd rfl h

/-- A quoted text is read as its characters. -/
theorem passes_quote (t : Text) (hr : r.flags = usual all) :
    Reader.Passes tail r (quote t) ((t.map fun c => .leaf (.char (.one c))).foldl Reader.push r) := by
  induction t generalizing r with
  | nil => exact .nil
  | cons c t ih =>
    have hverbose : r.flags.verbose = false := by rw [hr]; rfl
    have ih := ih (r := r.push (.leaf (.char (.one c)))) hr
    by_cases hc : isMeta c
    · have hquote : quote (c :: t) = '\\' :: c :: quote t := by simp [quote, hc]
      rw [hquote]
      exact .sign (quote t) hverbose (Glob.readSign_of_isEscapable (isEscapable_of_isMeta hc) hr)
        (List.suffix_cons c _) ih
    · have hquote : quote (c :: t) = c :: quote t := by simp [quote, hc]
      rw [hquote]
      exact .cons hverbose (readSign_of_not_isMeta hc hr) ih

end Quoted

end Pattern

/-! ## The pattern of the tokens -/

namespace PrefixKey

open Pattern Grammar

variable {k : PrefixKey} {token u v : Text} {g : Groups}

/-- The characters of the delimiter, one part for each. -/
abbrev chars (d : Text) : List Pattern := d.map fun c => .char (.one c)

/-- A text, the delimiter and the rest, as they are read: one part for each character of the delimiter. -/
def tokens (d : Text) : Pattern :=
  .seqs ([.anchor .textStart, .group 1 shortest] ++ (chars d ++ [.group 2 longest, .anchor .textEnd]))

/-- The same parts, with how deep they nest. -/
def parts (d : Text) : List (Nested Pattern) :=
  [atStart, ⟨.group 1 shortest, 2⟩] ++
    (d.map (fun c => .leaf (.char (.one c))) ++ [⟨.group 2 longest, 2⟩, .leaf (.anchor .textEnd)])

/-- How deep the pattern of the tokens nests. -/
def tokensDepth (d : Text) : Nat := sideBySide ((parts d).map Nested.depth)

theorem tokensDepth_le (d : Text) : tokensDepth d ≤ 3 := by
  refine sideBySide_le fun n hn => ?_
  simp only [parts, Nested.leaf, List.map_append, List.map_cons, List.map_map, List.mem_append,
    List.mem_cons, List.mem_map, List.map_nil, List.not_mem_nil, or_false] at hn
  rcases hn with (rfl | rfl) | ⟨_, -, rfl⟩ | rfl | rfl
  · exact Nat.zero_le 2
  · exact Nat.le_refl 2
  · exact Nat.zero_le 2
  · exact Nat.le_refl 2
  · exact Nat.zero_le 2

theorem nested_parts (d : Text) :
    Level.nested { parts := (parts d).reverse.map some } = ⟨tokens d, tokensDepth d⟩ := by
  have hvalues : (parts d).map Nested.value =
      [.anchor .textStart, .group 1 shortest] ++ (chars d ++ [.group 2 longest, .anchor .textEnd]) := by
    simp [parts, Nested.leaf, Function.comp_def]
  rw [Reader.nested_of_parts, hvalues]
  rfl

/-- The state in which the delimiter is read: in front of it there is the group of the prefix, inside of the
one that is put around the pattern. -/
def atDelimiter : Reader where
  level := { parts := [some ⟨.group 1 shortest, 2⟩, some atStart] }
  opened := [⟨{ parts := [some atStart] }, {}, none⟩]
  groups := 1

theorem passes_front (t : Text) : Reader.Passes t {} "^(?:^(.*?)".toList atDelimiter :=
  .cons rfl rfl <| .sign "^(.*?)".toList rfl rfl ⟨"?:".toList, rfl⟩ <| .cons rfl rfl <| .cons rfl rfl <|
    .cons rfl rfl <| .sign [')'] rfl rfl ⟨['?'], rfl⟩ <| .cons rfl rfl .nil

/-- The written form of the pattern is read as a text, the delimiter and the rest. -/
theorem read_source (k : PrefixKey) :
    Pattern.read (TokenPattern.anchored k.source) = .ok (tokens k.delimiter.text).whole := by
  let d := k.delimiter.text
  let ds : List (Nested Pattern) := d.map fun c => .leaf (.char (.one c))
  have hsource : TokenPattern.anchored k.source =
      "^(?:^(.*?)".toList ++ (quote d ++ "(.*)$)$".toList) := by
    have written : k.source = "^(.*?)".toList ++ quote d ++ "(.*)$".toList := rfl
    rw [TokenPattern.anchored, written, List.append_assoc, List.append_assoc, List.append_assoc]
    rfl
  have behind : Level.nested { parts := some (.leaf (.anchor .textEnd)) :: some ⟨.group 2 longest, 2⟩ ::
      (ds.reverse.map some ++ atDelimiter.level.parts) } = ⟨tokens d, tokensDepth d⟩ := by
    rw [← nested_parts]
    simp [parts, atDelimiter, ds]
  have close : Reader.Passes [] (ds.foldl Reader.push atDelimiter) "(.*)$)$".toList
      { level := { parts := [some (.leaf (.anchor .textEnd)), some ⟨tokens d, tokensDepth d + 1⟩,
          some atStart] }, groups := 2 } := by
    have hgroup : (⟨tokens d, tokensDepth d + 1⟩ : Nested Pattern) = .within id (Level.nested _) :=
      congrArg (Nested.within id) behind.symm
    rw [Reader.foldl_push, hgroup]
    exact .cons rfl rfl <| .cons rfl rfl <| .cons rfl rfl <| .cons rfl rfl <| .cons rfl rfl <|
      .cons rfl rfl <| .cons rfl rfl .nil
  have hread : readNested (TokenPattern.anchored k.source) =
      .ok ⟨(tokens d).whole, sideBySide [0, tokensDepth d + 1, 0]⟩ := by
    rw [hsource, readNested_of_passes ((passes_front _).trans
      ((passes_quote d (r := atDelimiter) rfl).trans close)) rfl]
    rfl
  refine read_of_readNested hread (Nat.le_trans (sideBySide_le (n := 4) fun n hn => ?_) (by decide))
  have := tokensDepth_le d
  simp only [List.mem_cons, List.not_mem_nil, or_false] at hn
  omega

/-- One part for each character of the delimiter leads along the same ways as one part for all of them. -/
theorem ways_tokens (d : Text) : (tokens d).ways = (cutBy (.literal d)).ways := by
  let front : List Pattern := [.anchor .textStart, .group 1 shortest]
  let back : List Pattern := [.group 2 longest, .anchor .textEnd]
  have behind : (seqs (chars d ++ back)).ways = (seqs (.literal d :: back)).ways := by
    rw [ways_seqs_append, ways_seqs_cons]
    rfl
  calc (tokens d).ways
      = (Pattern.seq (seqs front) (seqs (chars d ++ back))).ways := ways_seqs_append ..
    _ = (Pattern.seq (seqs front) (seqs (.literal d :: back))).ways := by
        funext s
        simp only [ways, behind]
    _ = (cutBy (.literal d)).ways := (ways_seqs_append front (.literal d :: back)).symm

theorem isPlain_literal (d : Text) : (Pattern.literal d).isPlain := by
  rw [literal, isPlain_seqs, List.all_map, List.all_eq_true]
  exact fun _ _ => rfl

theorem lastGroup_tokens (d : Text) : (tokens d).lastGroup = 2 := by
  have hchars : (chars d).flatMap groupNumbers = [] := by
    simp [List.flatMap_map, groupNumbers]
  rw [lastGroup, tokens, groupNumbers_seqs]
  simp only [List.flatMap_append, hchars]
  rfl

theorem captures?_tokens (d token : Text) :
    (tokens d).whole.captures? token = (cutBy (.literal d)).whole.captures? token := by
  have hgroups : (tokens d).groupsOf = (cutBy (.literal d)).groupsOf := by
    funext t start w
    rw [groupsOf, groupsOf, lastGroup_tokens, lastGroup_cutBy (isPlain_literal d)]
  rw [captures?_whole, captures?_whole, ways_tokens, hgroups]

/-- The groups of a token, which are those of a text, the delimiter and the rest. -/
theorem groups?_pattern (k : PrefixKey) (h : token ≠ engineProperty) :
    k.pattern.groups? token = .ok ((cutBy (.literal k.delimiter.text)).whole.captures? token) := by
  rw [TokenPattern.groups?, if_neg h]
  simp only [pattern, read_source, captures?_tokens]

/-! ## Where a token is cut -/

/-- A token has no groups, or it is the first one, the delimiter and the second one. -/
theorem groups?_cases (k : PrefixKey) (token : Text) : k.pattern.groups? token = .ok none ∨
    ∃ g, k.pattern.groups? token = .ok (some g) ∧ token = g.text 1 ++ (k.delimiter.text ++ g.text 2) := by
  by_cases he : token = engineProperty
  · exact .inl (by rw [TokenPattern.groups?, if_pos he])
  · rw [groups?_pattern k he]
    cases hg : (cutBy (.literal k.delimiter.text)).whole.captures? token with
    | none => exact .inl rfl
    | some g =>
      obtain ⟨u, v, ht, rfl, rfl⟩ :=
        exists_split_of_captures? (isPlain_literal k.delimiter.text) (fun _ => takes_literal _) hg
      exact .inr ⟨g, rfl, ht⟩

theorem split?_of_groups?_eq_none (h : k.pattern.groups? token = .ok none) : k.split? token = .ok none := by
  rw [split?, h]
  rfl

/-- What a token is taken apart into once its groups are known. -/
theorem split?_of_groups? (h : k.pattern.groups? token = .ok (some g)) :
    k.split? token = (k.canInterpret (g.text 1)).map fun right =>
      if right then some (g.text 1, g.text 2) else none := by
  rw [split?, h]
  cases hright : k.canInterpret (g.text 1) with
  | error e => simp [bind, Except.bind, Except.map, hright]
  | ok right => cases right <;> simp [bind, Except.bind, Except.map, hright]

/-- A token is not taken apart, or it is the prefix, the delimiter and the rest. -/
theorem split?_cases (wanted : Text) (d : Delimiter) (token : Text) :
    split? ⟨some wanted, d⟩ token = .ok none ∨
      ∃ b, token = wanted ++ (d.text ++ b) ∧ split? ⟨some wanted, d⟩ token = .ok (some (wanted, b)) := by
  rcases groups?_cases ⟨some wanted, d⟩ token with hnone | ⟨g, hg, ht⟩
  · exact .inl (split?_of_groups?_eq_none hnone)
  · rw [split?_of_groups? hg]
    by_cases hw : wanted = g.text 1
    · exact .inr ⟨g.text 2, by rw [hw]; exact ht, by simp [canInterpret, Except.map, ← hw]⟩
    · exact .inl (by simp [canInterpret, Except.map, hw])

/-- A token without the delimiter is not taken apart, whatever the prefix. -/
theorem split?_eq_none (k : PrefixKey) (h : ¬k.delimiter.text <:+: token) : k.split? token = .ok none := by
  rcases groups?_cases k token with hnone | ⟨g, -, ht⟩
  · exact split?_of_groups?_eq_none hnone
  · exact absurd ⟨g.text 1, g.text 2, by rw [List.append_assoc, ← ht]⟩ h

/-- A token is cut at the first place where the delimiter stands. What is in front has to be the prefix. -/
theorem split?_of_first (k : PrefixKey) (he : token ≠ engineProperty) (hline : '\n' ∉ token)
    (ht : token = u ++ (k.delimiter.text ++ v))
    (hfirst : ∀ u' v', token = u' ++ (k.delimiter.text ++ v') → u.length ≤ u'.length) :
    k.split? token = (k.canInterpret u).map fun right => if right then some (u, v) else none := by
  have hskip : ∀ x x', u = x ++ x' → x' ≠ [] → ¬k.delimiter.text <+: x' ++ (k.delimiter.text ++ v) := by
    rintro x x' rfl hx' ⟨v', hv'⟩
    have := hfirst x v' (by rw [ht, List.append_assoc, hv'])
    have := List.length_pos_iff.2 hx'
    simp only [List.length_append] at *
    omega
  obtain ⟨g, hg, rfl, rfl⟩ := exists_groups_of_cut (isPlain_literal k.delimiter.text)
    (fun _ => takes_literal _) ht hline hskip
  exact split?_of_groups? (by rw [groups?_pattern k he, hg])

/-- A prefix, a colon and any text without line feeds are taken apart again. -/
theorem split?_append {wanted b : Text} (hcolon : ':' ∉ wanted) (hline : '\n' ∉ wanted ++ ':' :: b) :
    split? ⟨some wanted, .colon⟩ (wanted ++ ':' :: b) = .ok (some (wanted, b)) := by
  have hengine : wanted ++ ':' :: b ≠ engineProperty :=
    ne_engineProperty_of_mem (c := ':') (by simp) (by decide)
  rw [split?_of_first _ hengine hline (u := wanted) (v := b) rfl]
  · simp [canInterpret, Except.map]
  · intro u' v' he
    refine Nat.le_of_not_lt fun hlt => hcolon ?_
    have hget := congrArg (·[u'.length]?) he
    simp only [List.getElem?_append_left hlt] at hget
    rw [List.getElem?_append_right (Nat.le_refl _), Nat.sub_self] at hget
    exact List.mem_of_getElem? hget

end PrefixKey

end Interpolation
