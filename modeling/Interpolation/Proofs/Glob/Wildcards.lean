import Interpolation.Proofs.Glob.Pieces

/-!
# Globs of wildcards

A glob of stars, question marks, separators and characters that stand for themselves describes texts
without regard to any order of preference.

* `Glob.Part` is a part of such a glob, `Glob.text` is the glob as it is written and `Glob.Matches` are the
  texts that it describes;
* `Glob.Leads`: what follows behind a text of the glob, and `Glob.Leads.exchange`: two ways through a
  glob that cross can be exchanged behind the crossing;
* `Glob.prefers_of_ways`: so the preferred way of the patterns for the parts ends at the
  preferred one of all ends, for greedy patterns that of the longest and for reluctant ones that of the
  shortest text;
* `Glob.readsAs_translate`: the translation of a glob is read as these patterns, as its parts are pieces
  of a glob.
-/

namespace Interpolation.Glob

/-- Whether a character stands for itself in a glob, as it does in a pattern but for the full stop. -/
def isLiteral (c : Char) : Bool :=
  !(['\\', '+', '(', ')', '[', ']', '{', '}', '^', '$', '|', '*', '?', '/', '\n'].elem c)

/-- A part of a glob. -/
inductive Part where
  /-- Any text. -/
  | star
  /-- Any character. -/
  | one
  /-- A slash of either kind, written as a slash. -/
  | slash
  /-- A slash of either kind, written as two backslashes. -/
  | backslashes
  | literal (c : Char) (h : isLiteral c)

/-- A part as it is written. -/
def Part.text : Part → Text
  | .star => ['*']
  | .one => ['?']
  | .slash => ['/']
  | .backslashes => ['\\', '\\']
  | .literal c _ => [c]

/-- A glob as it is written. -/
def text (ps : List Part) : Text := ps.flatMap Part.text

/-- The texts that a part describes. -/
def Part.Matches : Part → Text → Prop
  | .star, _ => True
  | .one, u => ∃ c, u = [c]
  | .slash, u | .backslashes, u => u = ['/'] ∨ u = ['\\']
  | .literal c _, u => u = [c]

/-- The texts that a glob describes. -/
def Matches : List Part → Text → Prop
  | [], u => u = []
  | p :: ps, u => ∃ v w, u = v ++ w ∧ p.Matches v ∧ Matches ps w

/-! ## Ends of a glob -/

/-- The pattern of a part. -/
def Part.pattern (greed : Greed) : Part → Pattern
  | .star => .star greed (.char .any)
  | .one => .char .any
  | .slash | .backslashes => .char (.union (.union .none (.one '/')) (.one '\\'))
  | .literal c _ => .char (.one c)

variable {p : Part} {ps : List Part} {greed : Greed} {t t' r r' u : Text}

theorem Part.eq_star_or (p : Part) : p = .star ∨ ∃ a, ∀ greed, p.pattern greed = .char a := by
  cases p with
  | star => exact .inl rfl
  | _ => exact .inr ⟨_, fun _ => rfl⟩

open Pattern in
theorem Part.takes_pattern : (p.pattern greed).Takes u ↔ p.Matches u := by
  cases p with
  | star => simp [pattern, Matches, takes_star_char, CharClass.contains]
  | one => simp [pattern, Matches, takes_char, CharClass.contains]
  | slash | backslashes => simp [pattern, Matches, takes_char, CharClass.contains, or_and_right, exists_or]
  | literal c => simp [pattern, Matches, takes_char, CharClass.contains]

/-- The patterns of the parts of a glob, one after another. -/
def pattern (greed : Greed) (ps : List Part) : Pattern :=
  .seqs (ps.map (Part.pattern greed))

open Pattern in
theorem takes_pattern : (pattern greed ps).Takes u ↔ Matches ps u := by
  rw [pattern]
  induction ps generalizing u with
  | nil => exact takes_seqs_nil
  | cons p ps ih => simp only [List.map_cons, takes_seqs_cons, Matches, Part.takes_pattern, ih]

/-- The rest of a text behind one that a glob describes. -/
def Leads (ps : List Part) (t r : Text) : Prop :=
  ∃ u, t = u ++ r ∧ Matches ps u

theorem leads_nil : Leads [] t r ↔ r = t := by
  simp [Leads, Matches, eq_comm]

theorem leads_cons_star : Leads (.star :: ps) t r ↔ ∃ m, m <:+ t ∧ Leads ps m r := by
  constructor
  · rintro ⟨_, rfl, v, w, rfl, -, hw⟩
    exact ⟨w ++ r, ⟨v, by simp⟩, w, rfl, hw⟩
  · rintro ⟨_, ⟨v, rfl⟩, w, rfl, hw⟩
    exact ⟨v ++ w, by simp, v, w, rfl, trivial, hw⟩

theorem leads_cons_char {a : CharClass} (hp : p.pattern .greedy = .char a) :
    Leads (p :: ps) t r ↔ ∃ c m, t = c :: m ∧ a.contains c ∧ Leads ps m r := by
  have matches_iff : ∀ v, p.Matches v ↔ ∃ c, a.contains c ∧ v = [c] := fun v => by
    have htakes : (p.pattern .greedy).Takes v ↔ p.Matches v := Part.takes_pattern
    rw [← htakes, hp, Pattern.takes_char]
  constructor
  · rintro ⟨_, rfl, v, w, rfl, hv, hw⟩
    obtain ⟨c, hc, rfl⟩ := (matches_iff v).1 hv
    exact ⟨c, w ++ r, rfl, hc, w, rfl, hw⟩
  · rintro ⟨c, _, rfl, hc, w, rfl, hw⟩
    exact ⟨c :: w, rfl, [c], w, rfl, (matches_iff _).2 ⟨c, hc, rfl⟩, hw⟩

/-- Of two ways through a glob, the one that starts further on also ends further on, or else the ways
cross, so that each of the ends can be reached from both starts. -/
theorem Leads.exchange (h : Leads ps t r) (h' : Leads ps t' r') (ht : t' <:+ t) :
    r' <:+ r ∨ Leads ps t' r ∧ Leads ps t r' := by
  induction ps generalizing t t' with
  | nil =>
    rw [leads_nil.1 h, leads_nil.1 h']
    exact .inl ht
  | cons p ps ih =>
    obtain rfl | ⟨a, ha⟩ := p.eq_star_or
    · obtain ⟨m, hm, h⟩ := leads_cons_star.1 h
      obtain ⟨m', hm', h'⟩ := leads_cons_star.1 h'
      rcases List.suffix_or_suffix_of_suffix hm (hm'.trans ht) with hmm | hmm
      · -- the first way has passed the second one inside the star
        exact .inr ⟨leads_cons_star.2 ⟨m, hmm.trans hm', h⟩, leads_cons_star.2 ⟨m', hm'.trans ht, h'⟩⟩
      · exact (ih h h' hmm).imp_right fun ⟨hr, hr'⟩ =>
          ⟨leads_cons_star.2 ⟨m', hm', hr⟩, leads_cons_star.2 ⟨m, hm, hr'⟩⟩
    · obtain ⟨c, m, rfl, hc, h⟩ := (leads_cons_char (ha _)).1 h
      obtain ⟨c', m', rfl, hc', h'⟩ := (leads_cons_char (ha _)).1 h'
      have hmm : m' <:+ m := by
        rcases List.suffix_cons_iff.1 ht with he | hs
        · exact (List.cons.inj he).2 ▸ List.suffix_refl m'
        · exact (List.suffix_cons c' m').trans hs
      exact (ih h h' hmm).imp_right fun ⟨hr, hr'⟩ =>
        ⟨(leads_cons_char (ha _)).2 ⟨c', m', rfl, hc', hr⟩,
          (leads_cons_char (ha _)).2 ⟨c, m, rfl, hc, hr'⟩⟩

/-! ## The preferred end -/

variable {s : Place} {w : Way}

theorem isUnanchored_pattern (greed : Greed) (ps : List Part) : (pattern greed ps).isUnanchored := by
  rw [pattern, Pattern.isUnanchored_seqs, List.all_map, List.all_eq_true]
  intro p _
  cases p <;> rfl

theorem groupNumbers_pattern (greed : Greed) (ps : List Part) : (pattern greed ps).groupNumbers = [] := by
  rw [pattern, Pattern.groupNumbers_seqs, List.flatMap_map, List.flatMap_eq_nil_iff]
  intro p _
  cases p <;> rfl

theorem leads_of_mem_ways (h : w ∈ (pattern greed ps).ways s) : Leads ps s.rest w.stop.rest := by
  obtain ⟨u, hu, -, ht⟩ := Pattern.takes_of_mem_ways _ s w h
  exact ⟨u, hu, takes_pattern.1 ht⟩

theorem head?_ways_ne_none (h : Leads ps s.rest r) : ((pattern greed ps).ways s).head? ≠ none := by
  obtain ⟨u, hu, hm⟩ := h
  obtain ⟨w, hw, -⟩ :=
    Pattern.exists_way_of_takes (takes_pattern.2 hm) (isUnanchored_pattern greed ps) s r hu
  exact fun hnone => List.not_mem_nil (List.head?_eq_none_iff.1 hnone ▸ hw)

open Pattern in
theorem head?_ways_cons : ((pattern greed (p :: ps)).ways s).head? =
    Way.best (fun t => ((pattern greed ps).ways t).head?) ((p.pattern greed).ways s) := by
  rw [← best_some_stay, pattern, List.map_cons, best_seqs_cons]
  simp only [best_some_stay]
  rfl

/-- The preferred way through the patterns of the parts ends at the preferred one of all ends. -/
theorem prefers_of_ways (hw : ((pattern greed ps).ways s).head? = some w)
    (hr : Leads ps s.rest r) : greed.Prefers w.stop.rest r := by
  induction ps generalizing s with
  | nil =>
    obtain rfl := leads_nil.1 hr
    obtain rfl : .stay s = w := Option.some.inj hw
    exact .refl greed s.rest
  | cons p ps ih =>
    rw [head?_ways_cons] at hw
    obtain rfl | ⟨a, ha⟩ := p.eq_star_or
    · obtain ⟨u, m, hm, -, hw, hpreferred⟩ :=
        Pattern.exists_preferred_of_best rfl (Pattern.ordered_star_char _ _) hw
      have here : Leads ps m w.stop.rest := leads_of_mem_ways (s := s.past u m) (List.mem_of_mem_head? hw)
      obtain ⟨m', ⟨u', hm'⟩, hr⟩ := leads_cons_star.1 hr
      have hmm := hpreferred u' m' hm'.symm (Pattern.takes_star_char.2 fun _ _ => rfl) (head?_ways_ne_none hr)
      -- the preferred way starts behind the star where it prefers to, and cannot end elsewhere
      cases greed with
      | greedy => exact (hr.exchange here hmm).elim id fun ⟨hr, _⟩ => ih hw hr
      | reluctant => exact (here.exchange hr hmm).elim id fun ⟨_, hr⟩ => ih hw hr
    · obtain ⟨c, m, hm, hc, hr⟩ := (leads_cons_char (ha _)).1 hr
      have hone : (p.pattern greed).ways s = [.stay (s.past [c] m)] := by
        simp only [ha, Pattern.ways, hm, hc, if_true]
        rfl
      rw [hone, Way.best_stay] at hw
      exact ih hw hr

/-! ## The translation of a glob -/

theorem isLiteral_ne {c e : Char} (h : isLiteral c) (he : isLiteral e = false) : c ≠ e := by
  rintro rfl
  exact absurd (h.symm.trans he) nofun

/-- There are no line feeds in a glob. -/
theorem newline_not_mem_text (ps : List Part) : '\n' ∉ text ps := by
  intro hm
  obtain ⟨p, -, hp⟩ := List.mem_flatMap.1 hm
  cases p with
  | literal c h => exact isLiteral_ne h rfl (List.mem_singleton.1 hp).symm
  | _ => exact absurd hp (by decide)

theorem isOrdinary_of_isLiteral {c : Char} (h : isLiteral c) : isOrdinary c := by
  simp only [isLiteral, isOrdinary, List.elem_eq_mem, List.mem_cons, Bool.not_eq_true',
    decide_eq_false_iff_not, not_or] at h ⊢
  simp [h]

/-- A part is a piece of a glob. -/
def Part.piece : Part → Piece
  | .star => .star
  | .one => .one
  | .slash => .slash
  | .backslashes => .backslashes
  | .literal c h => .ordinary c (isOrdinary_of_isLiteral h)

/-- A glob of wildcards as a glob of pieces. -/
def shape (ps : List Part) : Shape := ⟨ps.map Part.piece, false⟩

theorem text_shape (ps : List Part) : (shape ps).text = text ps := by
  have htext : ∀ p : Part, p.piece.text = p.text := fun p => by cases p <;> rfl
  simp [Shape.text, shape, backslashIf, text, List.flatMap_map, htext]

theorem patterns_shape (greed : Greed) (ps : List Part) :
    (shape ps).patterns true greed = ps.map (Part.pattern greed) := by
  have hpattern : ∀ p : Part, p.piece.pattern true greed = p.pattern greed := fun p => by cases p <;> rfl
  simp [Shape.patterns, shape, backslashIf, hpattern]

open Pattern in
/-- The translation of a glob is read as the patterns of its parts. -/
theorem readsAs_translate {tail : Text} (htail : tail.head? ≠ some '?') (greed : Greed) (ps : List Part)
    (before : List (Nested Pattern)) (n : Nat) :
    ReadsAs tail before n (translate (greed = .greedy) (text ps)) ⟨pattern greed ps, (shape ps).depth⟩ n := by
  rw [← text_shape, pattern, ← patterns_shape]
  exact (shape ps).readsAs_translate htail greed before n

end Interpolation.Glob
