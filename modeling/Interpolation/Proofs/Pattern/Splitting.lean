import Interpolation.Pattern.Search
import Interpolation.Proofs.Pattern.Language

/-!
# Cutting texts at matches

A text is cut from the left: where the pattern leads nowhere a character is left as it is, and where
it leads on the preferred way takes the match away.

* `Pattern.Idle`: the pattern leads nowhere from the start of a text, wherever this stands;
* `Pattern.piecesFrom` are the pieces of the rest of a text, by its first character
  (`Pattern.piecesFrom_plain`) or by a match that it begins with (`Pattern.piecesFrom_hit`);
* `Pattern.Cuts`: a text is cut into the given parts, wherever it stands; `Pattern.Cuts.nil`,
  `Pattern.Cuts.plain` and `Pattern.Cuts.hit` build this up from the end of the text, and
  `Pattern.Cuts.split_eq` draws the conclusion;
* `Pattern.exists_ways_star_char`: the preferred way of a greedy repetition of characters takes as
  many of them as there are.
-/

namespace Interpolation.Pattern

variable {p q : Pattern} {ps : List Pattern} {s : Place} {t u r m : Text} {c : Char}
  {parts others : List Text} {first : Text}

/-! ## Parts between matches -/

/-- The pattern leads nowhere from the start of a text, wherever the text stands. -/
def Idle (p : Pattern) (t : Text) : Prop :=
  ∀ index before, p.ways ⟨index, before, t⟩ = []

/-- The pieces of the rest of a text. -/
def piecesFrom (p : Pattern) (index : Nat) (before : Option Char) (ended : Bool) (t : Text) : List Piece :=
  cut index 0 ended t ((placesFrom index before t).map fun s => (p.ways s).head?)

theorem pieces_eq (p : Pattern) (t : Text) : p.pieces t = p.piecesFrom 0 none false t := by
  rw [pieces, survey_eq]
  rfl

theorem piecesFrom_nil (h : p.Idle []) (index : Nat) (before : Option Char) (ended : Bool) :
    p.piecesFrom index before ended [] = [] := by
  rw [piecesFrom, placesFrom, List.map_singleton, h]
  rfl

/-- A character from which the pattern leads nowhere is a piece of its own. -/
theorem piecesFrom_plain (hc : p.Idle (c :: t)) (index : Nat) (before : Option Char) (ended : Bool) :
    p.piecesFrom index before ended (c :: t) =
      .plain c :: p.piecesFrom (index + 1) (some c) false t := by
  rw [piecesFrom, placesFrom, List.map_cons, hc, List.head?_nil, cut, piecesFrom]

/-- The characters of a match are passed over. -/
theorem cut_inMatch (t : Text) (m : Text) : ∀ (index : Nat) (before : Option Char) (ended : Bool),
    cut index m.length ended (m ++ t) ((placesFrom index before (m ++ t)).map fun s => (p.ways s).head?) =
      p.piecesFrom (index + m.length) (m.getLast?.or before) (ended || !m.isEmpty) t := by
  induction m with
  | nil =>
    intro index before ended
    rw [List.isEmpty_nil, Bool.not_true, Bool.or_false]
    rfl
  | cons c m ih =>
    intro index before ended
    have hbefore : (c :: m).getLast?.or before = m.getLast?.or (some c) := by
      cases m with
      | nil => rfl
      | cons d m => rw [List.getLast?_cons_cons, List.getLast?_cons, Option.some_or, Option.some_or]
    rw [List.cons_append, placesFrom, List.map_cons, List.length_cons, cut, ih, hbefore,
      show index + 1 + m.length = index + (m.length + 1) by omega]
    cases m <;> simp

/-- A match at the start of a text is a piece. -/
theorem piecesFrom_hit {w : Way} (hm : m ≠ []) {index : Nat} {before : Option Char}
    (hw : (p.ways ⟨index, before, m ++ t⟩).head? = some w) (hi : w.stop.index = index + m.length)
    (ended : Bool) : p.piecesFrom index before ended (m ++ t) =
      .hit index w :: p.piecesFrom (index + m.length) (m.getLast?.or before) true t := by
  obtain ⟨c, m, rfl⟩ := List.exists_cons_of_ne_nil hm
  have hlength : w.stop.index - index = m.length + 1 := by
    rw [hi, List.length_cons]
    omega
  have hskip := cut_inMatch (p := p) t (c :: m) index before true
  rw [List.cons_append, placesFrom, List.map_cons, List.length_cons, cut] at hskip
  rw [List.cons_append] at hw ⊢
  rw [piecesFrom, placesFrom, List.map_cons, hw, cut]
  simp only [hlength]
  rw [hskip, List.length_cons, Bool.true_or]

/-- Wherever a text stands, also behind a match, the pattern cuts it into the given parts. -/
def Cuts (p : Pattern) (t : Text) (parts : List Text) : Prop :=
  ∀ index before ended, between (p.piecesFrom index before ended t) = parts

theorem Cuts.split_eq (h : p.Cuts t parts) : p.split t = parts := by
  rw [split, pieces_eq]
  exact h 0 none false

theorem Cuts.nil (h : p.Idle []) : p.Cuts [] [[]] := by
  intro index before ended
  rw [piecesFrom_nil h]
  rfl

/-- A character from which the pattern leads nowhere belongs to the part behind it. -/
theorem Cuts.plain (hc : p.Idle (c :: t)) (h : p.Cuts t (first :: others)) :
    p.Cuts (c :: t) ((c :: first) :: others) := by
  intro index before ended
  rw [piecesFrom_plain hc, between, h]

/-- A match at the start of a text is taken away. -/
theorem Cuts.hit (hm : m ≠ [])
    (hp : ∀ index before, ∃ w, (p.ways ⟨index, before, m ++ t⟩).head? = some w ∧
      w.stop.index = index + m.length) (h : p.Cuts t parts) : p.Cuts (m ++ t) ([] :: parts) := by
  intro index before ended
  obtain ⟨w, hw, hi⟩ := hp index before
  rw [piecesFrom_hit hm hw hi ended, between, h]

/-! ## Preferred ways -/

/-- Only from where a text of the language stands does a pattern lead on. -/
theorem idle_of_not_takes (h : ∀ u r, t = u ++ r → ¬p.Takes u) : p.Idle t := by
  intro index before
  refine List.eq_nil_iff_forall_not_mem.2 fun w hw => ?_
  obtain ⟨u, hu, -, hp⟩ := p.takes_of_mem_ways _ w hw
  exact h u _ hu hp

/-- The preferred way of a pattern, continued by the preferred way of the patterns behind it. -/
theorem head?_ways_seqs_cons {w v : Way} {ws : List Way} (hp : p.ways s = w :: ws)
    (hps : ((seqs ps).ways w.stop).head? = some v) :
    ((seqs (p :: ps)).ways s).head? = some (w.andThen v) := by
  simp only [ways_seqs_cons, ways, hp, List.flatMap_cons, List.head?_append, List.head?_map, hps]
  rfl

/-- Further rounds of a greedy repetition of characters take all of them first. -/
theorem exists_onward_char {a : CharClass} (hr : ∀ c, r.head? = some c → a.contains c = false) :
    ∀ (u : Text) (fuel : Nat) (s : Place), s.rest = u ++ r → (∀ c ∈ u, a.contains c) →
      u.length ≤ fuel →
        ∃ ws, onward (Pattern.char a).ways .greedy fuel s = .stay (s.past u r) :: ws := by
  intro u
  induction u with
  | nil =>
    intro fuel s hs _ _
    replace hs : s.rest = r := hs
    rw [Place.past_nil hs]
    have hround : (Pattern.char a).ways s = [] := by
      simp only [ways, hs]
      cases r with
      | nil => rfl
      | cons c r => simp [hr c rfl]
    cases fuel with
    | zero => exact ⟨[], rfl⟩
    | succ fuel =>
      rw [onward, hround]
      exact ⟨[], rfl⟩
  | cons c u ih =>
    intro fuel s hs hu hfuel
    cases fuel with
    | zero => simp at hfuel
    | succ fuel =>
      have hround : (Pattern.char a).ways s = [.stay (s.past [c] (u ++ r))] := by
        simp only [ways, hs, List.cons_append, hu c List.mem_cons_self, if_true]
        rfl
      obtain ⟨ws, hws⟩ := ih fuel (s.past [c] (u ++ r)) rfl
        (fun d hd => hu d (List.mem_cons_of_mem _ hd)) (Nat.le_of_succ_le_succ hfuel)
      rw [Place.past_past] at hws
      simp only [onward, hround, List.flatMap_singleton]
      rw [if_neg (by simp [Way.stay]), show (Way.stay (s.past [c] (u ++ r))).stop = s.past [c] (u ++ r)
        from rfl, hws, List.map_cons]
      exact ⟨_, rfl⟩

/-- Any number of rounds are further rounds, if no round is empty. -/
theorem ways_star (hp : ¬p.Takes []) (greed : Greed) (s : Place) :
    (Pattern.star greed p).ways s = onward p.ways greed s.rest.length s := by
  have hne : ∀ w ∈ p.ways s, w.stop.index ≠ s.index := by
    intro w hw hi
    obtain ⟨u, -, hs, hu⟩ := takes_of_mem_ways p s w hw
    have hlength : u.length = 0 := by
      rw [hs, Place.past_index] at hi
      omega
    exact hp (List.length_eq_zero_iff.1 hlength ▸ hu)
  have hrounds : rounds p.ways greed s = further p.ways greed s := by
    rw [rounds_eq p.reaches_of_mem_ways, further, List.flatMap_def, List.flatMap_def]
    congr 1
    refine List.map_congr_left fun w hw => ?_
    rw [if_neg (hne w hw), if_neg (hne w hw)]
  rw [onward_eq p.reaches_of_mem_ways, ← hrounds]
  cases greed <;> rfl

theorem not_takes_char_nil {a : CharClass} : ¬(Pattern.char a).Takes [] := by
  rw [takes_char]
  exact nofun

/-- The preferred way of a greedy repetition of characters takes as many as there are. -/
theorem exists_ways_star_char {a : CharClass} (hs : s.rest = u ++ r) (hu : ∀ c ∈ u, a.contains c)
    (hr : ∀ c, r.head? = some c → a.contains c = false) :
    ∃ ws, (Pattern.star .greedy (.char a)).ways s = .stay (s.past u r) :: ws := by
  rw [ways_star not_takes_char_nil]
  exact exists_onward_char hr u s.rest.length s hs hu (by rw [hs]; simp)

end Interpolation.Pattern
