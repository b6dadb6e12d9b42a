import Interpolation.Glob
import Interpolation.Proofs.Pattern.Remainders

/-!
# What a glob denotes

A glob consists of wildcards, separators, characters that stand for themselves and characters behind a
backslash. A backslash at its end has nothing to escape.

* `Glob.Piece` is a piece of a glob and `Glob.Shape` a whole one; `Glob.Shape.text` is the glob as it is
  written, and `Glob.Shape.Denotes` are the texts that it denotes;
* `Glob.translate_append`: the translation of a glob is that of its pieces, one after another;
* `Glob.Shape.passes_translate`: each of them is read as a pattern of its own, whatever follows, since no
  translation begins with a sign that would go on with the one in front;
* `Glob.Shape.matchesWhole_translate`: so the translation is a pattern, and matches the texts that the
  glob denotes.
-/

namespace Interpolation.Glob

/-! ## Globs as data -/

/-- Whether a character stands for itself in a glob. In a pattern the full stop does not. -/
def isOrdinary (c : Char) : Bool :=
  !(['\\', '+', '(', ')', '[', ']', '{', '}', '^', '$', '|', '*', '?', '/'].elem c)

/-- Whether a character can stand behind a backslash, for itself: ASCII punctuation but for angle
brackets and slashes of either kind. -/
def isQuotable (c : Char) : Bool :=
  32 < c.toNat && c.toNat < 127 && !c.isAlphanum && !(['<', '>', '/', '\\'].elem c)

/-- A piece of a glob. -/
inductive Piece where
  /-- Any text. -/
  | star
  /-- Any character. -/
  | one
  /-- A slash of either kind, written as a slash. -/
  | slash
  /-- A slash of either kind, written as two backslashes. -/
  | backslashes
  /-- A character behind a backslash. -/
  | quoted (c : Char) (h : isQuotable c)
  | ordinary (c : Char) (h : isOrdinary c)

/-- A glob: its pieces, and whether a backslash stands behind them. -/
structure Shape where
  pieces : List Piece
  dangling : Bool

/-- A piece as it is written. -/
def Piece.text : Piece → Text
  | .star => ['*']
  | .one => ['?']
  | .slash => ['/']
  | .backslashes => ['\\', '\\']
  | .quoted c _ => ['\\', c]
  | .ordinary c _ => [c]

/-- A backslash, or nothing. -/
def backslashIf (dangling : Bool) : Text := if dangling then ['\\'] else []

/-- A glob as it is written. -/
def Shape.text (g : Shape) : Text := g.pieces.flatMap Piece.text ++ backslashIf g.dangling

/-- The texts that a piece denotes. -/
def Piece.Denotes : Piece → Text → Prop
  | .star, _ => True
  | .one, u => ∃ c, u = [c]
  | .slash, u | .backslashes, u => u = ['/'] ∨ u = ['\\']
  | .quoted c _, u | .ordinary c _, u => u = [c]

/-- The texts that pieces denote, one after another, in front of a given text. -/
def DenotesAll (behind : Text) : List Piece → Text → Prop
  | [], u => u = behind
  | p :: ps, u => ∃ v w, u = v ++ w ∧ p.Denotes v ∧ DenotesAll behind ps w

/-- The texts that a glob denotes. A backslash at its end denotes itself. -/
def Shape.Denotes (g : Shape) : Text → Prop := DenotesAll (backslashIf g.dangling) g.pieces

/-! ## Translations -/

variable {p : Piece} {g : Shape} {greed : Greed} {all greedy : Bool} {tail u : Text}

/-- No translation begins with a question mark, which would change the repetition in front of it. -/
theorem head?_translate_ne (greedy : Bool) (g : Text) : (translate greedy g).head? ≠ some '?' := by
  unfold translate
  split
  · exact nofun
  · simp [separatorClass]
  · simp
  · simp
  · simp [separatorClass]
  · simp
  · simp
  · split <;> simp
  · rename_i hne _ _
    simpa using hne

theorem isOrdinary_ne {c e : Char} (h : isOrdinary c) (he : isOrdinary e = false) : c ≠ e := by
  rintro rfl
  exact absurd (h.symm.trans he) nofun

theorem isQuotable_ne {c e : Char} (h : isQuotable c) (he : isQuotable e = false) : c ≠ e := by
  rintro rfl
  exact absurd (h.symm.trans he) nofun

theorem translate_cons_of_isOrdinary {c : Char} (h : isOrdinary c) (hc : c ≠ '.') (greedy : Bool)
    (g : Text) : translate greedy (c :: g) = c :: translate greedy g := by
  rw [translate]
  -- the other rules are for characters that mean something
  all_goals
    intros
    first
    | exact hc ‹_›
    | exact isOrdinary_ne h rfl ‹_›

theorem translate_quoted {c : Char} (h : isQuotable c) (greedy : Bool) (g : Text) :
    translate greedy ('\\' :: c :: g) = '\\' :: c :: translate greedy g := by
  rw [translate]
  exact isQuotable_ne h rfl

/-- A piece as it is translated. -/
def Piece.translated (greedy : Bool) (p : Piece) : Text := translate greedy p.text

theorem translate_append (greedy : Bool) (p : Piece) (g : Text) :
    translate greedy (p.text ++ g) = p.translated greedy ++ translate greedy g := by
  cases p with
  | star => simp [Piece.translated, Piece.text, translate]
  | one | slash | backslashes => rfl
  | quoted c h =>
    simp only [Piece.translated, Piece.text, List.cons_append, List.nil_append, translate_quoted h]
    rfl
  | ordinary c h =>
    by_cases hc : c = '.'
    · subst hc
      rfl
    · simp only [Piece.translated, Piece.text, List.cons_append, List.nil_append,
        translate_cons_of_isOrdinary h hc]
      rfl

/-! ## Reading the translations -/

open Pattern

/-- The pattern of a piece. -/
def Piece.pattern (all : Bool) (greed : Greed) : Piece → Pattern
  | .star => .star greed (.char (usual all).dotClass)
  | .one => .char (usual all).dotClass
  | .slash | .backslashes => .char (.union (.union .none (.one '/')) (.one '\\'))
  | .quoted c _ | .ordinary c _ => .char (.one c)

/-- The patterns of a glob, one for each piece and one for a backslash at the end. -/
def Shape.patterns (all : Bool) (greed : Greed) (g : Shape) : List Pattern :=
  g.pieces.map (Piece.pattern all greed) ++ (backslashIf g.dangling).map fun c => .char (.one c)

/-- How deep the pattern of a piece nests. -/
def Piece.depth : Piece → Nat
  | .star => 1
  | .slash | .backslashes => 2
  | .one | .quoted .. | .ordinary .. => 0

/-- The patterns of a glob as they are read. -/
def Shape.parts (all : Bool) (greed : Greed) (g : Shape) : List (Nested Pattern) :=
  g.pieces.map (fun p => ⟨p.pattern all greed, p.depth⟩) ++
    (backslashIf g.dangling).map fun c => .leaf (.char (.one c))

/-- How deep the pattern of a glob nests. -/
def Shape.depth (g : Shape) : Nat :=
  sideBySide (g.pieces.map Piece.depth ++ (backslashIf g.dangling).map fun _ => 0)

theorem Shape.depth_le (g : Shape) : g.depth ≤ 3 := by
  refine sideBySide_le fun d hd => ?_
  simp only [List.mem_append, List.mem_map] at hd
  rcases hd with ⟨p, -, rfl⟩ | ⟨_, -, rfl⟩
  · cases p <;> simp [Piece.depth]
  · exact Nat.zero_le 2

/-- There is room for more around the pattern of a glob. -/
theorem Shape.depth_add_le (g : Shape) {n : Nat} (hn : 3 + n ≤ maxDepth) : g.depth + n ≤ maxDepth :=
  Nat.le_trans (Nat.add_le_add_right g.depth_le n) hn

theorem Shape.values_parts (g : Shape) : (g.parts all greed).map Nested.value = g.patterns all greed := by
  simp [parts, patterns, Nested.leaf, Function.comp_def]

theorem Shape.depths_parts (g : Shape) (all : Bool) (greed : Greed) :
    sideBySide ((g.parts all greed).map Nested.depth) = g.depth := by
  simp [parts, depth, Nested.leaf, Function.comp_def]

theorem isEscapable_of_isQuotable {c : Char} (h : isQuotable c) : isEscapable c := by
  have hlt : c ≠ '<' := isQuotable_ne h rfl
  have hgt : c ≠ '>' := isQuotable_ne h rfl
  simp only [isQuotable, Bool.and_eq_true, decide_eq_true_eq, Bool.not_eq_true'] at h
  have hascii : c.toNat < 128 := by omega
  simp [isEscapable, hascii, h.1.2, hlt, hgt]

theorem readSign_of_isOrdinary {c : Char} (h : isOrdinary c) (hc : c ≠ '.') {r : Reader}
    (hr : r.flags = usual all) : readSign r c tail = .ok (r.push (.leaf (.char (.one c))), tail) := by
  unfold readSign
  split
  case h_9 => exact absurd rfl hc
  case h_13 => rw [hr, classOf_usual]
  all_goals exact absurd rfl (isOrdinary_ne h rfl)

theorem readSign_of_isEscapable {c : Char} (h : isEscapable c) {r : Reader} (hr : r.flags = usual all) :
    readSign r '\\' (c :: tail) = .ok (r.push (.leaf (.char (.one c))), tail) := by
  simp only [readSign, hr, readEscape_of_isEscapable h]
  rfl

theorem Piece.passes_translated (htail : tail.head? ≠ some '?') {r : Reader} (hr : r.flags = usual all)
    (p : Piece) :
    Reader.Passes tail r (p.translated (greed = .greedy)) (r.push ⟨p.pattern all greed, p.depth⟩) := by
  obtain ⟨level, opened, flags, groups, names⟩ := r
  subst hr
  cases p with
  | star =>
    cases greed with
    | greedy =>
      refine .cons rfl rfl (.cons (t := []) rfl ?_ .nil)
      simp only [List.nil_append, readSign, Reader.push, readGreed_of_head?_ne htail]
      rfl
    | reluctant => exact .cons rfl rfl (.sign [] rfl rfl ⟨['?'], rfl⟩ .nil)
  | one => exact .cons rfl rfl .nil
  | slash | backslashes => exact .sign [] rfl rfl ⟨"/\\\\]".toList, rfl⟩ .nil
  | quoted c h =>
    rw [translated, text, translate_quoted h]
    exact .sign [] rfl (readSign_of_isEscapable (isEscapable_of_isQuotable h) rfl) ⟨[c], rfl⟩ .nil
  | ordinary c h =>
    by_cases hc : c = '.'
    · subst hc
      exact .sign [] rfl rfl ⟨['.'], rfl⟩ .nil
    · rw [translated, text, translate_cons_of_isOrdinary h hc]
      exact .cons rfl (readSign_of_isOrdinary h hc rfl) .nil

/-- The translation of a glob is read as the patterns of its pieces. -/
theorem Shape.passes_translate (htail : tail.head? ≠ some '?') {r : Reader} (hr : r.flags = usual all)
    (g : Shape) :
    Reader.Passes tail r (translate (greed = .greedy) g.text) ((g.parts all greed).foldl Reader.push r) := by
  obtain ⟨ps, dangling⟩ := g
  induction ps generalizing r with
  | nil =>
    cases dangling with
    | false => exact .nil
    | true => exact .sign [] (by rw [hr]; rfl) (readSign_of_isEscapable rfl hr) ⟨['\\'], rfl⟩ .nil
  | cons p ps ih =>
    have htext : text ⟨p :: ps, dangling⟩ = p.text ++ text ⟨ps, dangling⟩ := by simp [text]
    rw [htext, translate_append]
    refine (p.passes_translated ?_ hr).trans (ih (r := r.push ⟨p.pattern all greed, p.depth⟩) hr)
    rw [List.head?_append]
    cases hhead : (translate (greed = .greedy) (text ⟨ps, dangling⟩)).head? with
    | none => exact htail
    | some c => exact fun he => head?_translate_ne _ _ (hhead.trans he)

theorem Shape.readsAs_translate (htail : tail.head? ≠ some '?') (greed : Greed) (g : Shape)
    (before : List (Nested Pattern)) (n : Nat) :
    ReadsAs tail before n (translate (greed = .greedy) g.text) ⟨.seqs (g.patterns true greed), g.depth⟩ n := by
  rw [← values_parts, ← g.depths_parts true greed]
  refine ⟨_, g.passes_translate htail rfl, ?_, ?_, ?_, Reader.nested_foldl_push rfl _⟩
  all_goals rw [Reader.foldl_push]
  · rfl
  · rfl

/-- The translation of a glob is a pattern. -/
theorem Shape.read_translate (greed : Greed) (g : Shape) :
    Pattern.read (translate (greed = .greedy) g.text) = .ok (.seqs (g.patterns false greed)) := by
  have hflags : ((g.parts false greed).foldl Reader.push {}).flags = usual false := by
    rw [Reader.foldl_push]
    rfl
  have hread : readNested (translate (greed = .greedy) g.text) =
      .ok ⟨.seqs (g.patterns false greed), g.depth⟩ := by
    rw [readNested_of_passes (g.passes_translate (by decide) rfl) (by rw [hflags]; rfl), Reader.finish,
      Reader.nested_foldl_push rfl, Reader.foldl_push, values_parts, depths_parts]
    rfl
  exact read_of_readNested hread (g.depth_add_le (n := 0) (by decide))

/-- A glob of characters that stand for themselves is translated to a literal. -/
theorem read_translate_ordinary {t : Text} (h : ∀ c ∈ t, isOrdinary c) (greed : Greed) :
    Pattern.read (translate (greed = .greedy) t) = .ok (.literal t) := by
  have htext : Shape.text ⟨t.pmap .ordinary h, false⟩ = t := by
    have hmap : (t.pmap Piece.ordinary h).map Piece.text = t.map fun c => [c] := by
      simp [List.map_pmap, Piece.text]
    rw [Shape.text, List.flatMap_def, hmap, ← List.flatMap_def]
    simp [backslashIf]
  have hpatterns : Shape.patterns false greed ⟨t.pmap .ordinary h, false⟩ = t.map fun c => .char (.one c) := by
    simp [Shape.patterns, backslashIf, List.map_pmap, Piece.pattern]
  rw [← htext, Shape.read_translate, hpatterns, htext]
  rfl

/-! ## What the translations match -/

theorem Piece.takes_pattern : (p.pattern true greed).Takes u ↔ p.Denotes u := by
  cases p with
  | star => simp [pattern, Denotes, takes_star_char, usual, Flags.dotClass, CharClass.contains]
  | one => simp [pattern, Denotes, takes_char, usual, Flags.dotClass, CharClass.contains]
  | slash | backslashes => simp [pattern, Denotes, takes_char, CharClass.contains, or_and_right, exists_or]
  | quoted c | ordinary c => simp [pattern, Denotes, takes_char, CharClass.contains]

theorem Shape.takes_patterns : (Pattern.seqs (g.patterns true greed)).Takes u ↔ g.Denotes u := by
  obtain ⟨ps, dangling⟩ := g
  rw [patterns, Denotes]
  induction ps generalizing u with
  | nil => exact takes_literal _
  | cons p ps ih =>
    simp only [List.map_cons, List.cons_append, takes_seqs_cons, DenotesAll, Piece.takes_pattern, ih]

theorem Shape.isUnanchored_patterns (g : Shape) : (Pattern.seqs (g.patterns all greed)).isUnanchored := by
  rw [isUnanchored_seqs, patterns, List.all_append, List.all_map, List.all_map, Bool.and_eq_true,
    List.all_eq_true, List.all_eq_true]
  exact ⟨fun p _ => by cases p <;> rfl, fun _ _ => rfl⟩

/-- The translation of a glob is a pattern, and the texts that it matches from end to end, where `.`
accepts line feeds, are those that the glob denotes, whichever repetitions stand for the stars. -/
theorem Shape.matchesWhole_translate (g : Shape) (greedy : Bool) :
    (∃ p, Pattern.read (translate greedy g.text) = .ok p) ∧
      ∀ u, MatchesWhole (translate greedy g.text) u ↔ g.Denotes u := by
  have forGreed (greed : Greed) : (∃ p, Pattern.read (translate (greed = .greedy) g.text) = .ok p) ∧
      ∀ u, MatchesWhole (translate (greed = .greedy) g.text) u ↔ g.Denotes u := by
    refine ⟨⟨_, g.read_translate greed⟩, fun u => ?_⟩
    have hreads : ReadsAs ")$".toList [atStart] 0 (translate (greed = .greedy) g.text) _ 0 :=
      g.readsAs_translate (by decide) greed _ _
    exact (matchesWhole_iff hreads g.isUnanchored_patterns (g.depth_add_le (by decide)) u).trans takes_patterns
  cases greedy with
  | false => exact forGreed .reluctant
  | true => exact forGreed .greedy

end Interpolation.Glob
