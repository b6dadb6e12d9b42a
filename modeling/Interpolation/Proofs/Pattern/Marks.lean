import Interpolation.Proofs.Pattern.Greed
import Interpolation.Proofs.Pattern.Signs

/-!
# Marks of the other preference

A question mark behind a repetition makes it reluctant. Where the written forms of two patterns differ by such
marks only, the patterns that are read of them differ by greed only.

* `Pattern.Marked`: the second text has a question mark behind every star that is neither escaped nor in a
  class;
* `Pattern.Reader.Regreed`: two states of reading that differ by greed only. `Pattern.Reader.Regreed.exists_sign`
  is what one sign does to them, `Pattern.Reader.Regreed.run` what the signs of whole texts do;
* `Pattern.exists_read_of_marked` is the result for two patterns.
-/

namespace Interpolation.Pattern

/-- The second text is the first one, with a question mark behind every star that is neither escaped nor in a
class. There are no question marks in the first text but escaped ones and those in classes. -/
inductive Marked : Text → Text → Prop
  | nil : Marked [] []
  | sign {c : Char} {t t' : Text} (hc : c ∉ ['\\', '[', '?', '*']) (h : Marked t t') : Marked (c :: t) (c :: t')
  | star {t t' : Text} (h : Marked t t') : Marked ('*' :: t) ('*' :: '?' :: t')
  | escaped {c : Char} {t t' : Text} (h : Marked t t') : Marked ('\\' :: c :: t) ('\\' :: c :: t')
  | bracket {u t t' : Text} {a : Nested CharClass} (hu : readClass {} u = .ok (a, [])) (h : Marked t t') :
    Marked ('[' :: (u ++ t)) ('[' :: (u ++ t'))

variable {t t' rest : Text} {all : Bool} {c : Char}

/-- What is no backslash, star or opening bracket, is the same in both texts. -/
theorem keeps_marked : Keeps Marked where
  head := by
    intro c t t' h
    cases h with
    | sign | star | escaped | bracket => exact ⟨_, rfl⟩
  tail := by
    intro c t t' hc h
    obtain ⟨hescape, hopen, hstar⟩ := isInert_iff.1 hc
    cases h with
    | sign _ h => exact h
    | star => exact absurd rfl hstar
    | escaped => exact absurd rfl hescape
    | bracket => exact absurd rfl hopen
  length_le := by
    intro t t' h
    induction h with
    | nil => exact Nat.le_refl _
    | sign | star | escaped | bracket => simp only [List.length_cons, List.length_append]; omega

namespace Marked

theorem head?_ne (h : Marked t t') : t.head? ≠ some '?' ∧ t'.head? ≠ some '?' := by
  cases h with
  | nil => simp
  | @sign c _ _ hc =>
    have hc : c ≠ '?' := by
      rintro rfl
      exact hc (by decide)
    simpa using hc
  | star | escaped | bracket => simp

theorem eq_nil (h : Marked t t') (ht : t = []) : t' = [] := by
  cases h with
  | nil => rfl
  | sign | star | escaped | bracket => cases ht

end Marked

/-! ## Repetitions -/

theorem Repeats.greedy {f : Greed → Pattern → Pattern} {u : Text} (h : Repeats all c t f u) (greed : Greed)
    (p : Pattern) : (f greed p).greedy = f .greedy p.greedy := by
  cases h with
  | opt | star | plus => rfl
  | counted => exact greedy_repeated ..

theorem Repeats.exists_of_marked {f : Greed → Pattern → Pattern} {u : Text} (h : Repeats all c t f u)
    (hc : c ∉ ['\\', '[', '?', '*']) (ht : Marked t t') : ∃ u', Repeats all c t' f u' ∧ Marked u u' := by
  cases h with
  | opt => exact absurd (by decide) hc
  | star => exact absurd (by decide) hc
  | plus => exact ⟨t', .plus, ht⟩
  | counted hcount =>
    obtain ⟨u', hcount', hu⟩ := keeps_marked.readCount all ht hcount
    exact ⟨u', .counted hcount', hu⟩

/-! ## States of reading -/

/-- A pattern that has been read, with all repetitions greedy. -/
abbrev Nested.greedy : Nested Pattern → Nested Pattern := Nested.map Pattern.greedy

theorem Nested.greedy_within {f g : Pattern → Pattern} (hf : ∀ p, (f p).greedy = g p.greedy)
    (p : Nested Pattern) : (p.within f).greedy = p.greedy.within g :=
  congrArg (Nested.mk · (p.depth + 1)) (hf p.value)

/-- What has been read of a group, with all repetitions greedy. -/
def Level.greedy (l : Level) : Level :=
  ⟨l.alternatives.map Nested.greedy, l.parts.map (Option.map Nested.greedy)⟩

theorem Level.greedy_push (l : Level) (p : Nested Pattern) : (l.push p).greedy = l.greedy.push p.greedy := rfl

theorem Level.greedy_last (l : Level) : l.last.greedy = l.greedy.last := by
  have value : (seqs (l.parts.reverse.filterMap (Option.map Nested.value))).greedy =
      seqs (l.greedy.parts.reverse.filterMap (Option.map Nested.value)) := by
    simp only [greedy, greedy_seqs, List.map_filterMap, ← List.map_reverse, List.filterMap_map,
      Function.comp_def, Option.map_map]
    rfl
  have depth : l.parts.reverse.map (fun part => (part.map Nested.depth).getD 0) =
      l.greedy.parts.reverse.map fun part => (part.map Nested.depth).getD 0 := by
    simp only [greedy, ← List.map_reverse, List.map_map, Function.comp_def, Option.map_map]
    rfl
  exact congrArg₂ Nested.mk value (congrArg sideBySide depth)

theorem Level.greedy_joined (l : Level) : l.joined.greedy = l.greedy.joined := by
  have last := l.greedy_last
  obtain ⟨alternatives, parts⟩ := l
  cases alternatives with
  | none => exact last
  | some p =>
    obtain ⟨value, depth⟩ := Nested.mk.inj last
    exact congrArg₂ Nested.mk (congrArg (Pattern.alt p.value.greedy) value) (congrArg (max p.depth) depth)

theorem Level.greedy_nested (l : Level) : l.nested.greedy = l.greedy.nested := by
  have hsome : l.greedy.alternatives.isSome = l.alternatives.isSome := Option.isSome_map
  unfold Level.nested
  rw [hsome, ← greedy_joined]
  split <;> rfl

theorem Level.greedy_next (l : Level) : l.next.greedy = l.greedy.next := by
  simp only [next, greedy, Option.map_some, List.map_nil, greedy_joined]

/-- An open group, with all repetitions greedy. -/
def Opened.greedy (o : Opened) : Opened := { o with around := o.around.greedy }

/-- A state of reading, with all repetitions greedy. -/
def Reader.greedy (r : Reader) : Reader :=
  { r with level := r.level.greedy, opened := r.opened.map Opened.greedy }

namespace Reader

variable {r r' s : Reader} {p q : Nested Pattern}

theorem greedy_repeatLast {f g : Pattern → Pattern} (hf : ∀ p, (f p).greedy = g p.greedy) (r : Reader) :
    (r.repeatLast f).map greedy = r.greedy.repeatLast g := by
  obtain ⟨⟨alternatives, parts⟩, opened, flags, groups, names⟩ := r
  match parts with
  | [] => rfl
  | none :: parts => rfl
  | some p :: parts =>
    simp [repeatLast, greedy, Level.greedy, Except.map, Nested.greedy_within hf]

theorem greedy_closeGroup (r : Reader) : r.closeGroup.map greedy = r.greedy.closeGroup := by
  obtain ⟨level, opened, flags, groups, names⟩ := r
  match opened with
  | [] => rfl
  | ⟨around, flags', none⟩ :: opened =>
    have hgroup := Nested.greedy_within (f := id) (g := id) (fun _ => rfl) level.nested
    rw [Level.greedy_nested] at hgroup
    simp [closeGroup, greedy, Opened.greedy, Except.map, Level.greedy_push, hgroup]
  | ⟨around, flags', some n⟩ :: opened =>
    have hgroup := Nested.greedy_within (f := .group n) (fun _ => rfl) level.nested
    rw [Level.greedy_nested] at hgroup
    simp [closeGroup, greedy, Opened.greedy, Except.map, Level.greedy_push, hgroup]

theorem greedy_finish (r : Reader) : r.finish.map Nested.greedy = r.greedy.finish := by
  simp only [finish, greedy, List.isEmpty_map]
  split
  · exact congrArg Except.ok (Level.greedy_nested _)
  · rfl

theorem flags_repeatLast {f : Pattern → Pattern} (h : r.repeatLast f = .ok r') :
    r'.flags = r.flags ∧ r'.opened = r.opened := by
  unfold repeatLast at h
  split at h
  · obtain rfl := Except.ok.inj h
    exact ⟨rfl, rfl⟩
  · cases h

/-- Two states of reading that differ by greed only, under the usual settings. -/
structure Regreed (all : Bool) (r s : Reader) : Prop where
  greedy : r.greedy = s.greedy
  flags : r.flags = usual all
  opened : ∀ o ∈ r.opened, o.flags = usual all

namespace Regreed

theorem flags' (h : r.Regreed all s) : s.flags = usual all :=
  (congrArg Reader.flags h.greedy).symm.trans h.flags

theorem push (h : r.Regreed all s) (hp : p.greedy = q.greedy) : (r.push p).Regreed all (s.push q) where
  greedy := by
    change r.greedy.push p.greedy = s.greedy.push q.greedy
    rw [h.greedy, hp]
  flags := h.flags
  opened := h.opened

theorem next (h : r.Regreed all s) :
    Regreed all { r with level := r.level.next } { s with level := s.level.next } where
  greedy := by
    have next (r : Reader) : Reader.greedy { r with level := r.level.next } =
        { r.greedy with level := r.greedy.level.next } := by
      simp only [Reader.greedy, Level.greedy_next]
    rw [next, next, h.greedy]
  flags := h.flags
  opened := h.opened

theorem openNumbered (h : r.Regreed all s) : r.openNumbered.Regreed all s.openNumbered where
  greedy := by
    change r.greedy.openNumbered = s.greedy.openNumbered
    rw [h.greedy]
  flags := h.flags
  opened := fun o ho => (List.mem_cons.1 ho).elim (fun he => he ▸ h.flags) (h.opened o)

/-- A step that is the same but for greed. -/
theorem exists_of_map {α β ε : Type} {f : α → β} {x y : Except ε α} {a : α} (h : x.map f = y.map f)
    (hx : x = .ok a) : ∃ b, y = .ok b ∧ f a = f b := by
  subst hx
  cases y with
  | error e => cases h
  | ok b => exact ⟨b, rfl, Except.ok.inj h⟩

/-- Repeating the last part, with one preference or the other. -/
theorem repeatLast (h : r.Regreed all s) {f : Greed → Pattern → Pattern}
    (hf : ∀ greed p, (f greed p).greedy = f .greedy p.greedy) (greed greed' : Greed)
    (hr : r.repeatLast (f greed) = .ok r') : ∃ s', s.repeatLast (f greed') = .ok s' ∧ r'.Regreed all s' := by
  have hmap : (r.repeatLast (f greed)).map Reader.greedy = (s.repeatLast (f greed')).map Reader.greedy := by
    rw [greedy_repeatLast (hf greed), greedy_repeatLast (hf greed'), h.greedy]
  obtain ⟨s', hs', hgreedy⟩ := exists_of_map hmap hr
  obtain ⟨hflags, hopened⟩ := flags_repeatLast hr
  exact ⟨s', hs', hgreedy, hflags.trans h.flags, by rw [hopened]; exact h.opened⟩

theorem closeGroup (h : r.Regreed all s) (hr : r.closeGroup = .ok r') :
    ∃ s', s.closeGroup = .ok s' ∧ r'.Regreed all s' := by
  have hmap : r.closeGroup.map Reader.greedy = s.closeGroup.map Reader.greedy := by
    rw [greedy_closeGroup, greedy_closeGroup, h.greedy]
  obtain ⟨s', hs', hgreedy⟩ := exists_of_map hmap hr
  have hopened := h.opened
  unfold Reader.closeGroup at hr
  split at hr
  · cases hr
  · rename_i hr'
    rw [hr'] at hopened
    obtain rfl := Except.ok.inj hr
    exact ⟨s', hs', hgreedy, hopened _ List.mem_cons_self, fun o ho => hopened o (List.mem_cons_of_mem _ ho)⟩

/-- The sign at the head of the first text, and of the second one. -/
theorem exists_sign (h : r.Regreed all s) (ht : Marked (c :: t) t') (hr : Sign all r c t r' rest) :
    ∃ u s' rest', t' = c :: u ∧ Sign all s c u s' rest' ∧ Marked rest rest' ∧ r'.Regreed all s' := by
  cases ht with
  | @sign _ _ u hc ht =>
    cases hr with
    | opening => exact ⟨u, _, u, rfl, .opening ht.head?_ne.2, ht, h.openNumbered⟩
    | closing hclose =>
      obtain ⟨s', hs', h'⟩ := h.closeGroup hclose
      exact ⟨u, s', u, rfl, .closing hs', ht, h'⟩
    | bar => exact ⟨u, _, u, rfl, .bar, ht, h.next⟩
    | bracket => exact absurd (by decide) hc
    | escape => exact absurd (by decide) hc
    | repeating hf hgreed hrepeat =>
      obtain ⟨v, hv, hrest⟩ := hf.exists_of_marked hc ht
      rw [readGreed_of_head?_ne hrest.head?_ne.1] at hgreed
      obtain ⟨rfl, rfl⟩ := Prod.mk.inj hgreed
      obtain ⟨s', hs', h'⟩ := h.repeatLast hf.greedy .greedy .greedy hrepeat
      exact ⟨u, s', v, rfl, .repeating hv (readGreed_of_head?_ne hrest.head?_ne.2) hs', hrest, h'⟩
    | single hsingle => exact ⟨u, _, u, rfl, .single hsingle, ht, h.push rfl⟩
  | @star _ u ht =>
    cases hr with
    | repeating hf hgreed hrepeat =>
      cases hf
      rw [readGreed_of_head?_ne ht.head?_ne.1] at hgreed
      obtain ⟨rfl, rfl⟩ := Prod.mk.inj hgreed
      -- the same repetition, marked as reluctant
      obtain ⟨s', hs', h'⟩ := h.repeatLast (f := star) (fun _ _ => rfl) .greedy .reluctant hrepeat
      exact ⟨_, s', u, rfl, .repeating .star rfl hs', ht, h'⟩
    | single hsingle => exact absurd (by decide) hsingle
  | @escaped e _ u ht =>
    cases hr with
    | escape hescape =>
      obtain ⟨rest', hescape', hrest⟩ := keeps_marked.readEscape all ht ht.eq_nil hescape
      exact ⟨_, _, rest', rfl, .escape hescape', hrest, h.push rfl⟩
    | repeating hf => cases hf
    | single hsingle => exact absurd (by decide) hsingle
  | @bracket u t t' a hu ht =>
    replace hu : readClass (usual false) u = .ok (a, []) := hu
    have hclass (tail : Text) : readClass (usual all) (u ++ tail) = .ok (a, tail) := (readClass_append all tail hu).1
    cases hr with
    | bracket hread =>
      rw [hclass] at hread
      obtain ⟨rfl, rfl⟩ := Prod.mk.inj (Except.ok.inj hread)
      exact ⟨_, _, t', rfl, .bracket (hclass t'), ht, h.push rfl⟩
    | repeating hf => cases hf
    | single hsingle => exact absurd (by decide) hsingle

/-- All signs of the two texts. Reading the second text needs no fault that reading the first one has not. -/
theorem run {fuel : Nat} : ∀ {fuel' : Nat} {r s : Reader} {t t' : Text}, r.Regreed all s → Marked t t' →
    t.length < fuel → t'.length < fuel' → Reader.run fuel r t = .ok p →
      ∃ q, Reader.run fuel' s t' = .ok q ∧ p.greedy = q.greedy := by
  induction fuel with
  | zero => exact fun _ _ hlt => absurd hlt (Nat.not_lt_zero _)
  | succ fuel ih =>
    intro fuel' r s t t' h ht hlt hlt' hrun
    obtain ⟨fuel', rfl⟩ : ∃ n, fuel' = n + 1 := ⟨fuel' - 1, by omega⟩
    rw [Reader.run, h.flags, skip_usual] at hrun
    cases t with
    | nil =>
      obtain rfl := ht.eq_nil rfl
      rw [Reader.run, h.flags', skip_usual]
      exact exists_of_map (by rw [greedy_finish, greedy_finish, h.greedy]) hrun
    | cons c t =>
      obtain ⟨⟨r', rest⟩, hread, hrun⟩ := Fault.bind_eq_ok hrun
      -- no group begins with a question mark
      have hgroup (hc : c = '(') : t.head? ≠ some '?' := by
        obtain ⟨u, rfl⟩ := keeps_marked.head ht
        exact (keeps_marked.tail (by rw [hc]; decide) ht).head?_ne.1
      have hsign := (readSign_iff h.flags hgroup).1 hread
      obtain ⟨u, s', rest', rfl, hsign', hrest, h'⟩ := h.exists_sign ht hsign
      have hlength := hsign.suffix.length_le
      have hlength' := hsign'.suffix.length_le
      rw [List.length_cons] at hlt hlt'
      replace hlt' : rest'.length < fuel' := by omega
      obtain ⟨q, hq, hgreedy⟩ := ih h' hrest (by omega) hlt' hrun
      refine ⟨q, ?_, hgreedy⟩
      rw [Reader.run, h.flags', skip_usual]
      simp only [hsign'.readSign h.flags']
      exact hq

end Regreed

end Reader

/-- Where one text is the written form of a pattern, so is the other one with the marks, and the two patterns
differ by greed only. -/
theorem exists_read_of_marked {p : Pattern} (ht : Marked t t') (hp : read t = .ok p) :
    ∃ q, read t' = .ok q ∧ p.greedy = q.greedy := by
  obtain ⟨d, hd, hp⟩ := exists_readNested hp
  have start : Reader.Regreed false {} {} := ⟨rfl, rfl, nofun⟩
  obtain ⟨q, hq, hgreedy⟩ := start.run ht (Nat.lt_succ_self _) (Nat.lt_succ_self _) hp
  obtain ⟨hvalue, hdepth⟩ := Nested.mk.inj hgreedy
  exact ⟨q.value, read_of_readNested hq (hdepth ▸ hd), hvalue⟩

end Interpolation.Pattern
