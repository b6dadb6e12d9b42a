import Interpolation.Proofs.Pattern.Language
import Interpolation.Proofs.Pattern.Seams
import Interpolation.Proofs.Pattern.Signs
import Mathlib.Data.List.Forall2

/-!
# Fragments of patterns inside a group

A tame fragment that can be read on its own can be read inside a group of another pattern. What is read of
it there is a copy of what is read of it alone, with the numbers of its groups moved on by the number of
groups in front.

* `Pattern.Copy` relates a pattern to its copies, and `Pattern.Nested.Copy` patterns that nest as deep;
  `Pattern.Copy.takes_iff` and `Pattern.Copy.bounds` say that a copy takes the same texts, and where the
  numbers of its groups are;
* `Pattern.Reader.Copy` relates states of reading, and `Pattern.Reader.Copy.exists_sign` is what one sign
  does to them;
* `Pattern.exists_readsAs` is the result for a whole fragment.
-/

namespace Interpolation.Pattern

/-! ## Copies -/

/-- A copy of a pattern without anchors, for other settings of the full stop. The groups of the pattern
have numbers up to `m`, and those of the copy are greater by `k`. -/
inductive Copy (k : Nat) (all all' : Bool) (m : Nat) : Pattern → Pattern → Prop
  | empty : Copy k all all' m .empty .empty
  | char (a : CharClass) : Copy k all all' m (.char a) (.char a)
  | dot : Copy k all all' m (.char (usual all).dotClass) (.char (usual all').dotClass)
  | group {n : Nat} {p q : Pattern} (hn : n < m) (h : Copy k all all' m p q) :
      Copy k all all' m (.group (n + 1) p) (.group (n + 1 + k) q)
  | seq {p p' q q' : Pattern} (hp : Copy k all all' m p p') (hq : Copy k all all' m q q') :
      Copy k all all' m (.seq p q) (.seq p' q')
  | alt {p p' q q' : Pattern} (hp : Copy k all all' m p p') (hq : Copy k all all' m q q') :
      Copy k all all' m (.alt p q) (.alt p' q')
  | opt (greed : Greed) {p q : Pattern} (h : Copy k all all' m p q) :
      Copy k all all' m (.opt greed p) (.opt greed q)
  | plus (greed : Greed) {p q : Pattern} (h : Copy k all all' m p q) :
      Copy k all all' m (.plus greed p) (.plus greed q)

variable {k m m' : Nat} {all all' : Bool} {p q : Pattern} {ps qs : List Pattern} {u : Text}

namespace Copy

theorem mono (h : Copy k all all' m p q) (hm : m ≤ m') : Copy k all all' m' p q := by
  induction h with
  | empty => exact .empty
  | char a => exact .char a
  | dot => exact .dot
  | group hn _ ih => exact .group (Nat.lt_of_lt_of_le hn hm) ih
  | seq _ _ ihp ihq => exact .seq ihp ihq
  | alt _ _ ihp ihq => exact .alt ihp ihq
  | opt greed _ ih => exact .opt greed ih
  | plus greed _ ih => exact .plus greed ih

theorem isUnanchored (h : Copy k all all' m p q) : q.isUnanchored := by
  induction h with
  | empty | char | dot => rfl
  | group _ _ ih | opt _ _ ih | plus _ _ ih => exact ih
  | seq _ _ ihp ihq | alt _ _ ihp ihq => exact Bool.and_eq_true_iff.2 ⟨ihp, ihq⟩

/-- The numbers of the groups in a copy. -/
theorem bounds (h : Copy k all all' m p q) : ∀ n ∈ q.groupNumbers, k < n ∧ n ≤ m + k := by
  induction h with
  | empty | char | dot => exact fun _ hn => absurd hn List.not_mem_nil
  | group hn _ ih =>
    intro n h
    rcases List.mem_cons.1 h with rfl | h
    · omega
    · exact ih n h
  | seq _ _ ihp ihq | alt _ _ ihp ihq =>
    exact fun n hn => (List.mem_append.1 hn).elim (ihp n) (ihq n)
  | opt _ _ ih | plus _ _ ih => exact ih

theorem takes_plus_of (h : ∀ u, p.Takes u → q.Takes u) {greed : Greed}
    (hu : (Pattern.plus greed p).Takes u) : (Pattern.plus greed q).Takes u := by
  generalize hp : Pattern.plus greed p = r at hu
  induction hu with
  | once hu =>
    obtain ⟨rfl, rfl⟩ := Pattern.plus.inj hp
    exact .once (h _ hu)
  | more hu _ _ ih =>
    obtain ⟨rfl, rfl⟩ := Pattern.plus.inj hp
    exact .more (h _ hu) (ih rfl)
  | _ => cases hp

/-- For the same setting, a copy takes the same texts. -/
theorem takes_iff (h : Copy k all all m p q) : ∀ u, p.Takes u ↔ q.Takes u := by
  induction h with
  | empty | char | dot => exact fun _ => Iff.rfl
  | group _ _ ih => simpa only [takes_group] using ih
  | seq _ _ ihp ihq => simp only [takes_seq, ihp, ihq, implies_true]
  | alt _ _ ihp ihq => simp only [takes_alt, ihp, ihq, implies_true]
  | opt _ _ ih => simp only [takes_opt, ih, implies_true]
  | plus _ _ ih => exact fun u => ⟨takes_plus_of fun u => (ih u).1, takes_plus_of fun u => (ih u).2⟩

theorem foldl (h : Copy k all all' m p q) (hs : List.Forall₂ (Copy k all all' m) ps qs) :
    Copy k all all' m (ps.foldl .seq p) (qs.foldl .seq q) := by
  induction hs generalizing p q with
  | nil => exact h
  | cons hp _ ih => exact ih (.seq h hp)

theorem seqs (h : List.Forall₂ (Copy k all all' m) ps qs) :
    Copy k all all' m (Pattern.seqs ps) (Pattern.seqs qs) := by
  cases h with
  | nil => exact .empty
  | cons hp hs => exact hp.foldl hs

theorem times (h : Copy k all all' m p q) (n : Nat) : Copy k all all' m (p.times n) (q.times n) := by
  refine seqs ?_
  induction n with
  | zero => exact .nil
  | succ n ih => exact .cons h ih

theorem upTo (greed : Greed) (h : Copy k all all' m p q) :
    ∀ n, Copy k all all' m (p.upTo greed n) (q.upTo greed n)
  | 0 => .empty
  | 1 => .opt greed h
  | n + 2 => .opt greed (.seq h (upTo greed h (n + 1)))

theorem star (greed : Greed) (h : Copy k all all' m p q) :
    Copy k all all' m (p.star greed) (q.star greed) :=
  .opt greed (.plus greed h)

theorem repeated (greed : Greed) (h : Copy k all all' m p q) (count : Count) :
    Copy k all all' m (Pattern.repeated greed p count) (Pattern.repeated greed q count) := by
  unfold Pattern.repeated
  split
  · exact .empty
  · exact h.times _
  · exact h.star greed
  · exact .plus greed h
  · exact .seq (h.times _) (.plus greed h)
  · exact h.upTo greed _
  · split
    · exact h.times _
    · exact .seq (h.times _) (h.upTo greed _)

end Copy

/-- What has been read, and a copy of it that nests as deep. -/
structure Nested.Copy (k : Nat) (all all' : Bool) (m : Nat) (p q : Nested Pattern) : Prop where
  value : Pattern.Copy k all all' m p.value q.value
  depth : q.depth = p.depth

namespace Nested.Copy

variable {p q : Nested Pattern}

theorem mono (h : p.Copy k all all' m q) (hm : m ≤ m') : p.Copy k all all' m' q :=
  ⟨h.value.mono hm, h.depth⟩

theorem within (h : p.Copy k all all' m q) {f g : Pattern → Pattern}
    (hf : ∀ p q, Pattern.Copy k all all' m p q → Pattern.Copy k all all' m (f p) (g q)) :
    (p.within f).Copy k all all' m (q.within g) :=
  ⟨hf _ _ h.value, congrArg (· + 1) h.depth⟩

theorem leaf {p q : Pattern} (h : Pattern.Copy k all all' m p q) :
    (Nested.leaf p).Copy k all all' m (.leaf q) :=
  ⟨h, rfl⟩

end Nested.Copy

/-! ## Repetitions -/

variable {c : Char} {t u : Text} {f : Greed → Pattern → Pattern}

theorem Repeats.copy (h : Repeats all c t f u) (greed : Greed) (hp : Copy k all all' m p q) :
    Copy k all all' m (f greed p) (f greed q) := by
  cases h with
  | opt => exact .opt greed hp
  | star => exact hp.star greed
  | plus => exact .plus greed hp
  | counted => exact hp.repeated greed _

theorem Repeats.append (all' : Bool) (tail : Text) (h : Repeats all c t f u) :
    Repeats all' c (t ++ tail) f (u ++ tail) := by
  cases h with
  | opt => exact .opt
  | star => exact .star
  | plus => exact .plus
  | counted hcount => exact .counted (readCount_append all' tail hcount).1

/-! ## States of reading -/

/-- What has been read of a group, and a copy of it. -/
structure Level.Copy (k : Nat) (all all' : Bool) (m : Nat) (l l' : Level) : Prop where
  alternatives : Option.Rel (Nested.Copy k all all' m) l.alternatives l'.alternatives
  parts : List.Forall₂ (Option.Rel (Nested.Copy k all all' m)) l.parts l'.parts

namespace Level.Copy

variable {l l' : Level}

theorem mono (h : l.Copy k all all' m l') (hm : m ≤ m') : l.Copy k all all' m' l' := by
  have rel_mono {o o' : Option (Nested Pattern)} :
      Option.Rel (Nested.Copy k all all' m) o o' → Option.Rel (Nested.Copy k all all' m') o o'
    | .some h => .some (h.mono hm)
    | .none => .none
  exact ⟨rel_mono h.alternatives, h.parts.imp fun _ _ => rel_mono⟩

theorem push (h : l.Copy k all all' m l') {p q : Nested Pattern} (hp : p.Copy k all all' m q) :
    (l.push p).Copy k all all' m (l'.push q) :=
  ⟨h.alternatives, .cons (.some hp) h.parts⟩

theorem last (h : l.Copy k all all' m l') : l.last.Copy k all all' m l'.last := by
  have hparts := List.rel_reverse h.parts
  constructor
  · refine .seqs (List.rel_filterMap (R := Option.Rel (Nested.Copy k all all' m)) (fun _ _ h => ?_) hparts)
    cases h with
    | none => exact .none
    | some h => exact .some h.value
  · let depth (part : Option (Nested Pattern)) : Nat := (part.map Nested.depth).getD 0
    have hdepths : List.Forall₂ (· = ·) (l.parts.reverse.map depth) (l'.parts.reverse.map depth) := by
      refine List.rel_map (R := Option.Rel (Nested.Copy k all all' m)) (fun _ _ h => ?_) hparts
      cases h with
      | none => rfl
      | some h => exact h.depth.symm
    rw [List.forall₂_eq_eq_eq] at hdepths
    exact congrArg sideBySide hdepths.symm

theorem joined (h : l.Copy k all all' m l') : l.joined.Copy k all all' m l'.joined := by
  have hlast := h.last
  obtain ⟨alternatives, parts⟩ := l
  obtain ⟨alternatives', parts'⟩ := l'
  obtain ⟨halternatives, -⟩ := h
  unfold Level.joined
  cases halternatives with
  | none => exact hlast
  | some h => exact ⟨.alt h.value hlast.value, congrArg₂ max h.depth hlast.depth⟩

theorem nested (h : l.Copy k all all' m l') : l.nested.Copy k all all' m l'.nested := by
  have hjoined := h.joined
  have hsome : l.alternatives.isSome = l'.alternatives.isSome := by
    rcases l with ⟨_, _⟩
    rcases l' with ⟨_, _⟩
    cases h.alternatives <;> rfl
  unfold Level.nested
  rw [← hsome]
  split
  · exact hjoined.within fun _ _ h => h
  · exact hjoined

theorem next (h : l.Copy k all all' m l') : l.next.Copy k all all' m l'.next :=
  ⟨.some h.joined, .nil⟩

end Level.Copy

/-- An open group that catches, and a copy of it. -/
structure Opened.Copy (k : Nat) (all all' : Bool) (m : Nat) (o o' : Opened) : Prop where
  around : o.around.Copy k all all' m o'.around
  flags : o.flags = usual all
  flags' : o'.flags = usual all'
  number : ∃ n < m, o.number = some (n + 1) ∧ o'.number = some (n + 1 + k)

theorem Opened.Copy.mono {o o' : Opened} (h : o.Copy k all all' m o') (hm : m ≤ m') :
    o.Copy k all all' m' o' :=
  ⟨h.around.mono hm, h.flags, h.flags', h.number.imp fun _ hn => ⟨Nat.lt_of_lt_of_le hn.1 hm, hn.2⟩⟩

/-- A state of reading, and a copy of it inside of groups that stay open. -/
structure Reader.Copy (k : Nat) (all all' : Bool) (outer : List Opened) (r s : Reader) : Prop where
  level : r.level.Copy k all all' r.groups s.level
  opened : ∃ inner, s.opened = inner ++ outer ∧
    List.Forall₂ (Opened.Copy k all all' r.groups) r.opened inner
  flags : r.flags = usual all
  flags' : s.flags = usual all'
  groups : s.groups = r.groups + k

namespace Reader.Copy

variable {outer : List Opened} {r r' s : Reader}

theorem push (h : r.Copy k all all' outer s) {p q : Nested Pattern} (hp : p.Copy k all all' r.groups q) :
    (r.push p).Copy k all all' outer (s.push q) :=
  { h with level := h.level.push hp }

/-- Repeating the last part: there is one in the copy if there is one. -/
theorem repeatLast (h : r.Copy k all all' outer s) {f g : Pattern → Pattern}
    (hf : ∀ p q, Pattern.Copy k all all' r.groups p q → Pattern.Copy k all all' r.groups (f p) (g q))
    (hr : r.repeatLast f = .ok r') :
    ∃ s', s.repeatLast g = .ok s' ∧ r'.Copy k all all' outer s' ∧ r'.groups = r.groups := by
  obtain ⟨⟨alternatives, parts⟩, opened, flags, groups, names⟩ := r
  obtain ⟨⟨alternatives', parts'⟩, opened', flags', groups', names'⟩ := s
  obtain ⟨⟨halternatives, hparts⟩, hopened, hflags, hflags', hgroups⟩ := h
  cases hparts with
  | nil => cases hr
  | cons hpart hparts =>
    cases hpart with
    | none => cases hr
    | some hp =>
      obtain rfl := Except.ok.inj hr
      exact ⟨_, rfl, ⟨⟨halternatives, .cons (.some (hp.within hf)) hparts⟩, hopened, hflags, hflags',
        hgroups⟩, rfl⟩

/-- The next group gets the next number. -/
theorem openNumbered (h : r.Copy k all all' outer s) :
    r.openNumbered.Copy k all all' outer s.openNumbered := by
  have hm : r.groups ≤ r.groups + 1 := Nat.le_succ _
  obtain ⟨inner, hinner, hopened⟩ := h.opened
  refine ⟨⟨.none, .nil⟩, ⟨⟨s.level, s.flags, some (s.groups + 1)⟩ :: inner, ?_, ?_⟩, h.flags, h.flags', ?_⟩
  · exact congrArg _ hinner
  · refine .cons ⟨h.level.mono hm, h.flags, h.flags', r.groups, Nat.lt_succ_self _, rfl, ?_⟩
      (hopened.imp fun _ _ h => h.mono hm)
    rw [h.groups, Nat.add_right_comm]
  · exact (congrArg (· + 1) h.groups).trans (Nat.add_right_comm ..)

/-- A group can be closed in the copy if it can be closed. -/
theorem closeGroup (h : r.Copy k all all' outer s) (hr : r.closeGroup = .ok r') :
    ∃ s', s.closeGroup = .ok s' ∧ r'.Copy k all all' outer s' ∧ r'.groups = r.groups := by
  obtain ⟨level, opened, flags, groups, names⟩ := r
  obtain ⟨level', opened', flags', groups', names'⟩ := s
  obtain ⟨hlevel, ⟨inner, rfl, hopened⟩, hflags, hflags', hgroups⟩ := h
  cases hopened with
  | nil => cases hr
  | @cons o o' _ inner ho hopened =>
    obtain ⟨around, flags, number⟩ := o
    obtain ⟨around', flags', number'⟩ := o'
    obtain ⟨haround, rfl, rfl, n, hn, rfl, rfl⟩ := ho
    obtain rfl := Except.ok.inj hr
    have hgroup := hlevel.nested.within fun _ _ h => Pattern.Copy.group hn h
    exact ⟨_, rfl, ⟨haround.push hgroup, ⟨inner, rfl, hopened⟩, rfl, rfl, hgroups⟩, rfl⟩

variable {tail t rest : Text} {c : Char} {cs : Text}

/-- A tame sign in front of other text, inside of groups that stay open. -/
theorem exists_sign (h : r.Copy k all all' outer s) (hs : Seam tail) (ht : Tame (c :: cs))
    (hr : Sign all r c cs r' rest) : ∃ s', Sign all' s c (cs ++ tail) s' (rest ++ tail) ∧
      r'.Copy k all all' outer s' ∧ (c ≠ '(' → r'.groups = r.groups) := by
  cases hr with
  | opening hhead =>
    exact ⟨s.openNumbered, .opening (head?_append_ne hs (by decide) hhead), h.openNumbered, fun he => absurd rfl he⟩
  | closing hclose =>
    obtain ⟨s', hs', hcopy, hgroups⟩ := h.closeGroup hclose
    exact ⟨s', .closing hs', hcopy, fun _ => hgroups⟩
  | bar => exact ⟨_, .bar, { h with level := h.level.next }, fun _ => rfl⟩
  | @bracket _ _ a hclass =>
    exact ⟨_, .bracket (readClass_append all' tail hclass).1, h.push ⟨.char a.value, rfl⟩, fun _ => rfl⟩
  | escape hescape =>
    obtain ⟨e, t, rfl, he⟩ := ht.2.2.2.1 rfl
    rw [readEscape_of_isEscapable (isEscapable_of_mem he)] at hescape
    obtain ⟨rfl, rfl⟩ := Prod.mk.inj (Except.ok.inj hescape)
    exact ⟨_, .escape (readEscape_of_isEscapable (isEscapable_of_mem he) _),
      h.push (.leaf (.char (.one e))), fun _ => rfl⟩
  | repeating hf hgreed hrepeat =>
    obtain ⟨s', hs', hcopy, hgroups⟩ := h.repeatLast (fun _ _ hp => hf.copy _ hp) hrepeat
    exact ⟨s', .repeating (hf.append all' tail) (readGreed_append all' hs hgreed) hs', hcopy, fun _ => hgroups⟩
  | single hc =>
    refine ⟨_, .single hc, h.push (.leaf ?_), fun _ => rfl⟩
    by_cases hdot : c = '.'
    · subst hdot
      exact .dot
    · have hc : c ∉ ['.', '^', '$'] := by simpa using ⟨hdot, ht.1, ht.2.1⟩
      rw [single_of_not_mem all hc, single_of_not_mem all' hc]
      exact .char _

/-- A tame fragment in front of other text, once it has been read without that. -/
theorem exists_passes (hs : Seam tail) {p : Nested Pattern} : ∀ {fuel : Nat} {r s : Reader} {t : Text},
    r.Copy k all all' outer s → Tame t → t.length < fuel → run fuel r t = .ok p →
      ∃ r' s' : Reader, Passes tail s t s' ∧ r'.Copy k all all' outer s' ∧ r'.finish = .ok p ∧
        ('(' ∉ t → r'.groups = r.groups) := by
  intro fuel
  induction fuel with
  | zero => exact fun _ _ hlt => absurd hlt (Nat.not_lt_zero _)
  | succ fuel ih =>
    intro r s t h ht hlt hrun
    cases t with
    | nil =>
      rw [run, h.flags, skip_usual] at hrun
      exact ⟨r, s, .nil, h, hrun, fun _ => rfl⟩
    | cons c cs =>
      rw [run, h.flags, skip_usual] at hrun
      obtain ⟨⟨r₁, rest⟩, hread, hrun⟩ := Fault.bind_eq_ok hrun
      have hsign := (readSign_iff h.flags ht.2.2.1).1 hread
      obtain ⟨s₁, hsign', h₁, hgroups₁⟩ := h.exists_sign hs ht hsign
      have hlength := hsign.suffix.length_le
      rw [List.length_cons] at hlt
      obtain ⟨r', s', hpasses, h', hfinish, hgroups⟩ :=
        ih h₁ (ht.2.2.2.2.of_suffix hsign.suffix) (by omega) hrun
      refine ⟨r', s', .sign rest (by rw [h.flags']; rfl) (hsign'.readSign h.flags') hsign.suffix hpasses, h', hfinish,
        fun hc => ?_⟩
      rw [hgroups fun hmem => hc (List.mem_cons_of_mem _ (hsign.suffix.subset hmem)),
        hgroups₁ fun he => hc (he ▸ List.mem_cons_self)]

/-- Where the groups of a fragment are all closed, those of its copy are. -/
theorem of_finish (h : r.Copy k all all' outer s) {p : Nested Pattern} (hr : r.finish = .ok p) :
    s.opened = outer ∧ p.Copy k all all' r.groups s.level.nested := by
  unfold Reader.finish at hr
  split at hr
  · rename_i hempty
    obtain rfl := Except.ok.inj hr
    obtain ⟨inner, hinner, hopened⟩ := h.opened
    rw [List.isEmpty_iff.1 hempty] at hopened
    cases hopened
    exact ⟨hinner, h.level.nested⟩
  · cases hr

end Reader.Copy

open Reader in
/-- A tame fragment that can be read on its own can be read inside of any group. There is one pattern that
all that is read of it is a copy of, and no group without a parenthesis. It nests as deep inside as it does on
its own. -/
theorem exists_readsAs {f : Text} (ht : Tame f) {p : Nested Pattern} (h : readNested f = .ok p) :
    ∃ p', ∀ tail, Seam tail → ∀ ps k, ∃ q m, ReadsAs tail ps k f q (m + k) ∧ q.depth = p.depth ∧
      Copy k true true m p' q.value ∧ ('(' ∉ f → m = 0) := by
  have own : Reader.Copy 0 false true [] {} { flags := usual true } :=
    ⟨⟨.none, .nil⟩, ⟨[], rfl, .nil⟩, rfl, rfl, rfl⟩
  obtain ⟨r, s, hpasses, hcopy, hfinish, -⟩ := own.exists_passes .nil ht (Nat.lt_succ_self _) h
  obtain ⟨hopened, halone⟩ := hcopy.of_finish hfinish
  have hrun : run (f.length + 1) { flags := usual true } f = .ok s.level.nested := by
    rw [run_of_passes_nil hpasses (by rw [hcopy.flags']; rfl), Reader.finish, hopened]
    rfl
  refine ⟨s.level.nested.value, fun tail htail ps k => ?_⟩
  have spliced : Reader.Copy k true true (inside ps k).opened { flags := usual true } (inside ps k) :=
    ⟨⟨.none, .nil⟩, ⟨[], rfl, .nil⟩, rfl, rfl, (Nat.zero_add k).symm⟩
  obtain ⟨r', s', hpasses', hcopy', hfinish', hgroups⟩ :=
    spliced.exists_passes htail ht (Nat.lt_succ_self _) hrun
  obtain ⟨hopened', hinside⟩ := hcopy'.of_finish hfinish'
  exact ⟨s'.level.nested, r'.groups, ⟨s', hpasses', hopened', hcopy'.flags', hcopy'.groups, rfl⟩,
    hinside.depth.trans halone.depth, hinside.value, hgroups⟩

end Interpolation.Pattern
