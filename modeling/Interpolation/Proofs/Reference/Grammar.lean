import Interpolation.Text.Position

/-!
# The grammar of references

Whether a reference starts at a position, and where it ends, is decided by the text alone.

* `Text.from?_add` and `Text.between_add`: positions behind a part of a text, and the part itself;
* `Text.Unopened` texts have no opening signs;
* `Reference.Body` is what stands between the opening sign of a reference and its closing brace;
* `Reference.Reads`: how a text is read from behind an opening sign, up to the closing brace or, if
  there is none, to the end; `Reference.exists_reads` and `Reference.Reads.unique`: there is always
  one reading;
* `Reference.Reads.eq_source`: a body is read from its own source; `Reference.Body.IsFirm`: it is, with
  any other body behind it;
* `Reference.StandsAt`: a reference stands at a position of a text.
-/

namespace Interpolation

/-! ## Positions -/

namespace Text

variable {t u v : Text} {pos : Nat}

/-- At a position a text falls into two parts. -/
theorem exists_of_from? (h : t.from? pos = some v) :
    ∃ front, t = front ++ v ∧ pos = front.byteLength := by
  induction t generalizing pos with
  | nil =>
    cases pos with
    | zero => exact ⟨[], (Option.some.inj h), rfl⟩
    | succ pos => cases h
  | cons c cs ih =>
    cases pos with
    | zero => exact ⟨[], (Option.some.inj h), rfl⟩
    | succ pos =>
      rw [from?] at h
      split at h
      · obtain ⟨front, rfl, hpos⟩ := ih h
        refine ⟨c :: front, rfl, ?_⟩
        rw [byteLength_cons]
        omega
      · cases h

theorem from?_add (h : t.from? pos = some (u ++ v)) : t.from? (pos + u.byteLength) = some v := by
  obtain ⟨front, rfl, rfl⟩ := exists_of_from? h
  rw [← List.append_assoc, ← byteLength_append, from?_append]

theorem from?_succ {c : Char} (h : t.from? pos = some (c :: v)) :
    t.from? (pos + c.utf8Size) = some v :=
  from?_add (u := [c]) h

theorem byteLength_of_from? (h : t.from? pos = some v) : pos + v.byteLength = t.byteLength := by
  obtain ⟨front, rfl, rfl⟩ := exists_of_from? h
  exact (byteLength_append front v).symm

/-- A character stands at a position if the position is that behind what stands in front. -/
theorem charAt?_eq_some_iff {c : Char} :
    t.charAt? pos = some c ↔ ∃ front rest, t = front ++ c :: rest ∧ pos = front.byteLength := by
  constructor
  · intro h
    obtain ⟨rest, hrest, hc⟩ := Option.bind_eq_some_iff.1 h
    obtain ⟨front, ht, hpos⟩ := exists_of_from? hrest
    obtain ⟨rest, rfl⟩ := List.head?_eq_some_iff.1 hc
    exact ⟨front, rest, ht, hpos⟩
  · rintro ⟨front, rest, rfl, rfl⟩
    rw [charAt?, from?_append]
    rfl

theorem le_of_charAt? {c : Char} (h : t.charAt? pos = some c) : pos + c.utf8Size ≤ t.byteLength := by
  obtain ⟨front, rest, rfl, rfl⟩ := charAt?_eq_some_iff.1 h
  rw [byteLength_append, byteLength_cons]
  omega

theorem length_le_byteLength (t : Text) : t.length ≤ t.byteLength := by
  induction t with
  | nil => exact Nat.le_refl 0
  | cons c cs ih =>
    have := Char.utf8Size_pos c
    rw [List.length_cons, byteLength_cons]
    omega

theorem takeBytes_append (u v : Text) : takeBytes (u ++ v) u.byteLength = u := by
  induction u with
  | nil =>
    cases v with
    | nil => rfl
    | cons c cs =>
      have := Char.utf8Size_pos c
      rw [List.nil_append, byteLength_nil, takeBytes, if_neg (by omega)]
  | cons c cs ih =>
    rw [List.cons_append, byteLength_cons, takeBytes, if_pos (by omega), Nat.add_sub_cancel_left, ih]

theorem between_add (h : t.from? pos = some (u ++ v)) : t.between pos (pos + u.byteLength) = u := by
  rw [between, h, Option.getD_some, Nat.add_sub_cancel_left, takeBytes_append]

/-! ## Opening signs -/

/-- No opening sign stands in a text. -/
def Unopened (t : Text) : Prop := ¬['$', '{'] <:+: t

instance (t : Text) : Decidable t.Unopened := inferInstanceAs (Decidable (¬_))

theorem unopened_of_not_mem (h : '$' ∉ t) : t.Unopened :=
  fun hi => h (hi.subset List.mem_cons_self)

theorem Unopened.head {c : Char} (h : Unopened (c :: t)) : ¬(c = '$' ∧ t.head? = some '{') := by
  rintro ⟨rfl, hhead⟩
  obtain ⟨u, rfl⟩ := List.head?_eq_some_iff.1 hhead
  exact h (List.prefix_append ['$', '{'] u).isInfix

/-- A text without dollar signs in front opens nothing. -/
theorem Unopened.append (hu : '$' ∉ u) (h : t.Unopened) : (u ++ t).Unopened := by
  induction u with
  | nil => exact h
  | cons c u ih =>
    intro hi
    rcases List.infix_cons_iff.1 hi with ⟨v, hv⟩ | hi
    · exact hu ((List.cons.inj hv).1 ▸ List.mem_cons_self)
    · exact ih (fun hm => hu (List.mem_cons_of_mem _ hm)) hi

theorem Unopened.tail {c : Char} (h : Unopened (c :: t)) : t.Unopened :=
  fun hi => h (hi.trans (List.suffix_cons c t).isInfix)

end Text

namespace Reference

/-! ## Readings -/

/-- What stands behind the opening sign of a reference: characters and references. -/
inductive Body where
  | nil
  | char (c : Char) (rest : Body)
  | reference (inner rest : Body)
  deriving DecidableEq, Repr

namespace Body

/-- The text of a body. -/
def source : Body → Text
  | nil => []
  | char c rest => c :: rest.source
  | reference inner rest => '$' :: '{' :: (inner.source ++ '}' :: rest.source)

/-- The text of the reference with a body. -/
def text (b : Body) : Text := '$' :: '{' :: (b.source ++ ['}'])

/-- The body of a text whose characters stand for themselves. -/
def ofText : Text → Body
  | [] => nil
  | c :: cs => char c (ofText cs)

/-- A body with another one behind it. -/
def append : Body → Body → Body
  | nil, b => b
  | char c rest, b => char c (rest.append b)
  | reference inner rest, b => reference inner (rest.append b)

@[simp] theorem source_ofText (t : Text) : (ofText t).source = t := by
  induction t with
  | nil => rfl
  | cons c cs ih => rw [ofText, source, ih]

@[simp] theorem source_append (b b' : Body) : (b.append b').source = b.source ++ b'.source := by
  induction b with
  | nil => rfl
  | char c rest ih => rw [append, source, source, ih, List.cons_append]
  | reference inner rest _ ih => simp [append, source, ih]

theorem append_nil (b : Body) : b.append nil = b := by
  induction b with
  | nil => rfl
  | char c rest ih => rw [append, ih]
  | reference inner rest _ ih => rw [append, ih]

theorem append_assoc (b b' b'' : Body) : (b.append b').append b'' = b.append (b'.append b'') := by
  induction b with
  | nil => rfl
  | char c rest ih => rw [append, append, append, ih]
  | reference inner rest _ ih => rw [append, append, append, ih]

end Body

/-- How a text is read from behind an opening sign: into a body and the text behind the closing
brace, or into a body that the end of the text breaks off. -/
inductive Reads : Text → Body → Option Text → Prop where
  | ended : Reads [] .nil none
  | close (r : Text) : Reads ('}' :: r) .nil (some r)
  | reference {u r : Text} {i b : Body} {o : Option Text} (inner : Reads u i (some r))
    (rest : Reads r b o) : Reads ('$' :: '{' :: u) (.reference i b) o
  /-- An opening sign that is never closed is copied like other characters. -/
  | unclosed {u : Text} {i b : Body} {o : Option Text} (inner : Reads u i none)
    (rest : Reads ('{' :: u) b o) : Reads ('$' :: '{' :: u) (.char '$' b) o
  | char {c : Char} {u : Text} {b : Body} {o : Option Text} (close : c ≠ '}')
    (opening : ¬(c = '$' ∧ u.head? = some '{')) (rest : Reads u b o) : Reads (c :: u) (.char c b) o

variable {u r : Text} {b b' i : Body} {o o' : Option Text}

/-! ## There is one reading -/

theorem Reads.eq_source (h : Reads u b o) :
    u = b.source ++ o.elim [] fun r => '}' :: r := by
  induction h with
  | ended => rfl
  | close r => rfl
  | reference _ _ ihi ih =>
    rw [ihi, ih]
    simp [Body.source]
  | unclosed _ _ _ ih => rw [ih, Body.source, List.cons_append]
  | char _ _ _ ih => rw [ih, Body.source, List.cons_append]

theorem Reads.eq_source_of_some (h : Reads u b (some r)) : u = b.source ++ '}' :: r := h.eq_source

/-- Behind a closing brace less of the text is left. -/
theorem Reads.length_lt (h : Reads u b (some r)) : r.length < u.length := by
  have hlength := congrArg List.length h.eq_source_of_some
  rw [List.length_append, List.length_cons] at hlength
  omega

theorem exists_reads (u : Text) : ∃ b o, Reads u b o := by
  induction hn : u.length using Nat.strongRecOn generalizing u with
  | ind n ih =>
    subst hn
    cases u with
    | nil => exact ⟨.nil, none, .ended⟩
    | cons c cs =>
      obtain ⟨b, o, hrest⟩ := ih cs.length (Nat.lt_succ_self _) cs rfl
      by_cases hclose : c = '}'
      · subst hclose
        exact ⟨.nil, some cs, .close cs⟩
      · by_cases hopening : c = '$' ∧ cs.head? = some '{'
        · obtain ⟨rfl, hhead⟩ := hopening
          obtain ⟨v, rfl⟩ := List.head?_eq_some_iff.1 hhead
          have hv : v.length < ('$' :: '{' :: v).length := by
            rw [List.length_cons, List.length_cons]
            omega
          obtain ⟨i, oi, hinner⟩ := ih v.length hv v rfl
          cases oi with
          | none => exact ⟨_, _, .unclosed hinner hrest⟩
          | some r =>
            obtain ⟨b', o', hbehind⟩ := ih r.length (Nat.lt_trans hinner.length_lt hv) r rfl
            exact ⟨_, _, .reference hinner hbehind⟩
        · exact ⟨_, _, .char hclose hopening hrest⟩

/-- There is only one reading. -/
theorem Reads.unique (h : Reads u b o) (h' : Reads u b' o') : b = b' ∧ o = o' := by
  induction h generalizing b' o' with
  | ended =>
    cases h'
    exact ⟨rfl, rfl⟩
  | close r =>
    cases h' with
    | close => exact ⟨rfl, rfl⟩
    | char hclose => exact absurd rfl hclose
  | reference _ _ ihi ih =>
    cases h' with
    | reference hinner hrest =>
      obtain ⟨rfl, hr⟩ := ihi hinner
      obtain rfl := Option.some.inj hr
      obtain ⟨rfl, rfl⟩ := ih hrest
      exact ⟨rfl, rfl⟩
    | unclosed hinner _ => exact absurd (ihi hinner).2 (by simp)
    | char _ hopening _ => exact absurd ⟨rfl, rfl⟩ hopening
  | unclosed _ _ ihi ih =>
    cases h' with
    | reference hinner _ => exact absurd (ihi hinner).2 (by simp)
    | unclosed _ hrest =>
      obtain ⟨rfl, rfl⟩ := ih hrest
      exact ⟨rfl, rfl⟩
    | char _ hopening _ => exact absurd ⟨rfl, rfl⟩ hopening
  | char hclose hopening _ ih =>
    cases h' with
    | close => exact absurd rfl hclose
    | reference => exact absurd ⟨rfl, rfl⟩ hopening
    | unclosed => exact absurd ⟨rfl, rfl⟩ hopening
    | char _ _ hrest =>
      obtain ⟨rfl, rfl⟩ := ih hrest
      exact ⟨rfl, rfl⟩

/-- Where an opening sign is never closed, what is around it is not closed either. -/
theorem Reads.of_unclosed (hi : Reads u i none) (h : Reads ('{' :: u) b o) :
    b = .char '{' i ∧ o = none := by
  have hchar : Reads ('{' :: u) (.char '{' i) none := .char (by decide) (by simp) hi
  exact h.unique hchar

/-- A body is read alike in front of every other text. -/
theorem Reads.append (h : Reads u b (some r)) (r' : Text) :
    Reads (b.source ++ '}' :: r') b (some r') := by
  generalize ho : some r = o at h
  induction h generalizing r r' with
  | ended => exact absurd ho (by simp)
  | close => exact .close r'
  | @reference u v i b o hinner hrest ihi ih =>
    have hread : Reads (i.source ++ '}' :: (b.source ++ '}' :: r')) i
        (some (b.source ++ '}' :: r')) := ihi _ rfl
    have htext : (Body.reference i b).source ++ '}' :: r' =
        '$' :: '{' :: (i.source ++ '}' :: (b.source ++ '}' :: r')) := by
      simp [Body.source]
    rw [htext]
    exact .reference hread (ih r' ho)
  | unclosed hinner hrest =>
    obtain ⟨-, rfl⟩ := Reads.of_unclosed hinner hrest
    exact absurd ho (by simp)
  | @char c u b o hclose hopening hrest ih =>
    subst ho
    refine .char hclose ?_ (ih r' rfl)
    rintro ⟨hc, hhead⟩
    refine hopening ⟨hc, ?_⟩
    rw [hrest.eq_source_of_some]
    cases hb : b.source with
    | nil => simp [hb] at hhead
    | cons d ds => simpa [hb] using hhead

/-- A reference ends where it ends, whatever follows. -/
theorem Reads.append_right (h : Reads u b (some r)) (v : Text) : Reads (u ++ v) b (some (r ++ v)) := by
  rw [h.eq_source_of_some, List.append_assoc, List.cons_append]
  exact h.append (r ++ v)

/-! ## Bodies in a row -/

/-- A body is read from its source whatever is read behind it. -/
def Body.IsFirm (b : Body) : Prop :=
  ∀ (u : Text) (b' : Body) (o : Option Text), Reads u b' o → Reads (b.source ++ u) (b.append b') o

namespace Body.IsFirm

theorem ofText {t : Text} (hdollar : '$' ∉ t) (hclose : '}' ∉ t) : (Body.ofText t).IsFirm := by
  intro u b' o h
  induction t with
  | nil => exact h
  | cons c cs ih =>
    refine .char (fun hc => ?_) (fun hc => ?_) (ih (fun hm => ?_) fun hm => ?_)
    · exact hclose (hc ▸ List.mem_cons_self)
    · exact hdollar (hc.1 ▸ List.mem_cons_self)
    · exact hdollar (List.mem_cons_of_mem _ hm)
    · exact hclose (List.mem_cons_of_mem _ hm)

theorem append (h : b.IsFirm) (h' : b'.IsFirm) : (b.append b').IsFirm := by
  intro u b'' o hread
  rw [Body.append_assoc, Body.source_append, List.append_assoc]
  exact h _ _ _ (h' _ _ _ hread)

/-- A firm body can be closed. -/
theorem reads (h : b.IsFirm) (r : Text) : Reads (b.source ++ '}' :: r) b (some r) := by
  have hread := h _ _ _ (.close r)
  rwa [Body.append_nil] at hread

theorem reference (h : i.IsFirm) : (Body.reference i .nil).IsFirm := by
  intro u b' o hread
  have htext : (Body.reference i .nil).source ++ u = '$' :: '{' :: (i.source ++ '}' :: u) := by
    simp [Body.source]
  rw [htext]
  exact .reference (h.reads u) hread

end Body.IsFirm

/-- A text without opening signs and closing braces is read as it stands. -/
theorem reads_of_unopened {t : Text} (hopen : t.Unopened) (hclose : '}' ∉ t) (r : Text) :
    Reads (t ++ '}' :: r) (.ofText t) (some r) := by
  induction t with
  | nil => exact .close r
  | cons c cs ih =>
    refine .char (fun hc => ?_) (fun hc => ?_) (ih hopen.tail fun hm => ?_)
    · exact hclose (hc ▸ List.mem_cons_self)
    · refine hopen.head ⟨hc.1, ?_⟩
      cases cs with
      | nil => cases hc.2
      | cons e es => exact hc.2
    · exact hclose (List.mem_cons_of_mem _ hm)

/-- A text without dollar signs has no opening signs. -/
theorem reads_ofText {t : Text} (hdollar : '$' ∉ t) (hclose : '}' ∉ t) (r : Text) :
    Reads (t ++ '}' :: r) (.ofText t) (some r) :=
  reads_of_unopened (Text.unopened_of_not_mem hdollar) hclose r

/-! ## References in a text -/

/-- A reference stands at a position: an opening sign whose body is closed. -/
def StandsAt (input : Text) (pos : Nat) (b : Body) : Prop :=
  ∃ u r, input.from? pos = some ('$' :: '{' :: u) ∧ Reads u b (some r)

end Reference

end Interpolation
