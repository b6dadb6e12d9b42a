import Interpolation.Proofs.Pattern.Language
import Interpolation.TokenPattern

/-!
# Recognising whole tokens

A pattern for whole texts has matches from the start of a text only, and these reach its end.

* `Pattern.captures?_of_fromStart`: such a pattern has at most one match in a text;
* `Pattern.ways_whole`: its ways are those of the pattern inside that reach the end;
* `recognize?_eq`: the groups of a token are those of the first of these ways, and
  `exists_way_of_recognize?` and `recognize?_eq_none` draw the consequences that do not depend on
  the order of preference;
* `takes_of_recognize?` and `isSome_recognize?`: a pattern without anchors recognises the texts that
  it takes, and `text_zero_of_recognize?`: the match is the whole token;
* `recognize?_eq_none_of_demands`: a pattern that demands a character of some kind recognises no
  token without one.
-/

namespace Interpolation

namespace Pattern

variable {p : Pattern} {s : Place} {t : Text} {w : Way}

/-! ## Patterns that match from the start only -/

/-- A pattern that leads nowhere from the later places of a text. -/
def FromStart (p : Pattern) : Prop :=
  ∀ s : Place, s.before.isSome → p.ways s = []

theorem survey_of_fromStart (h : p.FromStart) (t : Text) :
    p.survey t = (p.ways (.start t)).head? :: List.replicate t.length none := by
  have later : ∀ (cs : Text) (index : Nat) (c : Char),
      (placesFrom index (some c) cs).map (fun s => (p.ways s).head?) =
        List.replicate (cs.length + 1) none := by
    intro cs
    induction cs with
    | nil =>
      intro index c
      rw [placesFrom, List.map_singleton, h _ rfl]
      rfl
    | cons d cs ih =>
      intro index c
      rw [placesFrom, List.map_cons, ih, h _ rfl]
      rfl
  rw [survey_eq, places]
  cases t with
  | nil => rfl
  | cons c cs =>
    rw [placesFrom, List.map_cons, later]
    rfl

/-- Where no place leads on there is no match. -/
theorem findSome?_cut_replicate (t : Text) : ∀ (n index inMatch : Nat) (ended : Bool),
    (cut index inMatch ended t (List.replicate n none)).findSome? Piece.hit? = none := by
  induction t with
  | nil =>
    intro n index inMatch ended
    cases n <;> cases inMatch <;> rfl
  | cons c cs ih =>
    intro n index inMatch ended
    cases n with
    | zero => cases inMatch <;> rfl
    | succ n =>
      cases inMatch with
      | zero =>
        rw [List.replicate_succ, cut]
        exact ih n _ _ _
      | succ left =>
        rw [List.replicate_succ, cut]
        exact ih n _ _ _

theorem find?_of_fromStart (h : p.FromStart) (t : Text) :
    p.find? t = (p.ways (.start t)).head?.map fun w => (0, w) := by
  rw [find?, pieces, survey_of_fromStart h]
  cases (p.ways (.start t)).head? with
  | none => exact findSome?_cut_replicate t (t.length + 1) 0 0 false
  | some w =>
    cases t with
    | nil => rfl
    | cons c cs =>
      simp only [cut]
      split <;> rfl

/-- The groups of the match are those of the preferred way from the start. -/
theorem captures?_of_fromStart (h : p.FromStart) (t : Text) :
    p.captures? t = (p.ways (.start t)).head?.map (p.groupsOf t 0) := by
  rw [captures?, find?_of_fromStart h, Option.map_map]
  rfl

/-! ## Patterns for whole texts -/

theorem fromStart_whole (p : Pattern) : p.whole.FromStart := by
  intro s hs
  obtain ⟨c, hc⟩ := Option.isSome_iff_exists.1 hs
  simp [whole, seqs, ways, Anchor.holds, hc]

/-- The ways of a pattern for whole texts are those of the pattern inside that reach the end. -/
theorem ways_whole (p : Pattern) (t : Text) :
    p.whole.ways (.start t) = (p.ways (.start t)).filter fun w => w.stop.rest.isEmpty := by
  have close : ∀ ws : List Way,
      (ws.flatMap fun w => ((Pattern.anchor .textEnd).ways w.stop).map w.andThen) =
        ws.filter fun w => w.stop.rest.isEmpty := by
    intro ws
    induction ws with
    | nil => rfl
    | cons w ws ih =>
      rw [List.flatMap_cons, ih, List.filter_cons]
      by_cases h : w.stop.rest.isEmpty <;> simp [ways, Anchor.holds, h, andThen_stay]
  have opened : (Pattern.seq (.anchor .textStart) p).ways (.start t) = p.ways (.start t) := by
    simp only [ways, Anchor.holds, Place.start, Option.isNone_none, if_true, List.flatMap_singleton]
    exact List.map_id _
  rw [← close, ← opened]
  rfl

@[simp] theorem lastGroup_whole (p : Pattern) : p.whole.lastGroup = p.lastGroup := by
  simp [lastGroup, whole, seqs, groupNumbers]

theorem groupsOf_whole (p : Pattern) : p.whole.groupsOf = p.groupsOf := by
  funext t start w
  rw [groupsOf, groupsOf, lastGroup_whole]

end Pattern

/-! ## Tokens -/

variable {p : Pattern} {token : Text} {g : Groups}

/-- A token with a sign that the reserved one does not have. -/
theorem ne_engineProperty_of_mem {c : Char} (h : c ∈ token) (hc : c ∉ engineProperty) :
    token ≠ engineProperty := by
  rintro rfl
  exact hc h

/-- The groups of a token are those of the preferred one of the ways that reach its end. -/
theorem recognize?_eq (h : token ≠ engineProperty) :
    recognize? p token =
      ((p.ways (.start token)).find? fun w => w.stop.rest.isEmpty).map (p.groupsOf token 0) := by
  rw [recognize?, if_neg h, Pattern.captures?_of_fromStart p.fromStart_whole, Pattern.ways_whole,
    List.head?_filter, Pattern.groupsOf_whole]

theorem exists_way_of_recognize? (h : recognize? p token = some g) :
    token ≠ engineProperty ∧
      ∃ w ∈ p.ways (.start token), w.stop.rest = [] ∧ g = p.groupsOf token 0 w := by
  by_cases he : token = engineProperty
  · rw [recognize?, if_pos he] at h
    exact absurd h (by simp)
  · rw [recognize?_eq he, Option.map_eq_some_iff] at h
    obtain ⟨w, hw, rfl⟩ := h
    have hr := List.find?_some hw
    exact ⟨he, w, List.mem_of_find?_eq_some hw, List.isEmpty_iff.1 hr, rfl⟩

theorem recognize?_eq_none :
    recognize? p token = none ↔
      token = engineProperty ∨ ∀ w ∈ p.ways (.start token), w.stop.rest ≠ [] := by
  by_cases he : token = engineProperty
  · simp [recognize?, he]
  · rw [recognize?_eq he, Option.map_eq_none_iff, List.find?_eq_none]
    simp [he]

/-- Only texts that the pattern takes are recognised. -/
theorem takes_of_recognize? (h : recognize? p token = some g) : p.Takes token := by
  obtain ⟨-, w, hw, hr, -⟩ := exists_way_of_recognize? h
  obtain ⟨u, hu, -, ht⟩ := p.takes_of_mem_ways _ w hw
  rw [hr, List.append_nil] at hu
  have hu : token = u := hu
  rwa [hu]

/-- Without anchors all texts that the pattern takes are recognised. -/
theorem isSome_recognize? (hp : p.isUnanchored) (he : token ≠ engineProperty)
    (h : p.Takes token) : (recognize? p token).isSome := by
  obtain ⟨w, hw, hs⟩ := Pattern.exists_way_of_takes h hp (.start token) [] (List.append_nil _).symm
  cases hr : recognize? p token with
  | some g => rfl
  | none =>
    have := (recognize?_eq_none.1 hr).resolve_left he w hw
    rw [hs] at this
    exact absurd rfl this

/-- The match is the whole token. -/
theorem text_zero_of_recognize? (h : recognize? p token = some g) : g.text 0 = token := by
  obtain ⟨-, w, hw, hr, rfl⟩ := exists_way_of_recognize? h
  obtain ⟨u, hu, hs, -⟩ := p.takes_of_mem_ways _ w hw
  rw [hr, List.append_nil] at hu
  obtain rfl : token = u := hu
  have hstop : w.stop.index = token.length := by rw [hs, Place.past_index, Place.start, Nat.zero_add]
  simp [Groups.text, Groups.get?, Pattern.groupsOf, Pattern.slice, hstop]

/-! ## Demanded characters -/

/-- Whether a pattern demands a character of a kind by name. -/
def Pattern.demands (kind : Char → Bool) : Pattern → Bool
  | .char (.one c) => kind c
  | .group _ p | .plus _ p => p.demands kind
  | .seq p q => p.demands kind || q.demands kind
  | .alt p q => p.demands kind && q.demands kind
  | .empty | .char _ | .anchor _ | .opt _ _ => false

theorem Pattern.exists_mem_of_demands {kind : Char → Bool} {u : Text} (h : p.Takes u)
    (hp : p.demands kind) : ∃ c ∈ u, kind c := by
  induction h with
  | empty | anchor | skip => simp [demands] at hp
  | @char a c hc =>
    cases a with
    | one c' =>
      obtain rfl : c = c' := by simpa [CharClass.contains] using hc
      exact ⟨c, List.mem_singleton_self c, hp⟩
    | _ => simp [demands] at hp
  | group _ ih | once _ ih => exact ih hp
  | seq _ _ ihu ihv =>
    simp only [demands, Bool.or_eq_true] at hp
    rcases hp with hp | hp
    · obtain ⟨c, hc, hk⟩ := ihu hp
      exact ⟨c, List.mem_append_left _ hc, hk⟩
    · obtain ⟨c, hc, hk⟩ := ihv hp
      exact ⟨c, List.mem_append_right _ hc, hk⟩
  | left _ ih =>
    simp only [demands, Bool.and_eq_true] at hp
    exact ih hp.1
  | right _ ih =>
    simp only [demands, Bool.and_eq_true] at hp
    exact ih hp.2
  | opt => simp [demands] at hp
  | more _ _ ihu _ =>
    obtain ⟨c, hc, hk⟩ := ihu hp
    exact ⟨c, List.mem_append_left _ hc, hk⟩

/-- A token without a character of the kind that the pattern demands is not recognised. -/
theorem recognize?_eq_none_of_demands {kind : Char → Bool} (hp : p.demands kind)
    (h : ∀ c ∈ token, kind c = false) : recognize? p token = none := by
  cases hr : recognize? p token with
  | none => rfl
  | some g =>
    obtain ⟨c, hc, hk⟩ := Pattern.exists_mem_of_demands (takes_of_recognize? hr) hp
    simp [h c hc] at hk

end Interpolation
