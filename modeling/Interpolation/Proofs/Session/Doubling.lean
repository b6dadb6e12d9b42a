import Interpolation.Proofs.Session.Verbatim

/-!
# Doubled dollar signs

A text whose dollar signs are all doubled stands for the text it is made from. The pairs are taken
from the left, so no dollar sign is ever left over for a brace behind it, neither inside the text nor
where a reference follows.

* `Text.double` doubles the dollar signs of a text, `Text.reference` is the text of a reference to a
  name;
* `Reference.scans_double`: such a text is scanned character by character, whatever comes behind it;
* `Reference.Finds.expand_around`: a reference between two such texts;
* `Resolver.expandAt_double` and `Resolver.expandAt_around` say so of sessions, and
  `Resolver.spec_expandAt_reference` of references alone;
* `Store.expand_double` adds texts that are stored with their dollar signs doubled.
-/

namespace Interpolation

namespace Text

/-- A text with every dollar sign doubled. -/
def double : Text → Text
  | [] => []
  | c :: t => if c = '$' then '$' :: '$' :: double t else c :: double t

/-- A text without dollar signs has none to double. -/
theorem double_of_not_mem {t : Text} (h : '$' ∉ t) : t.double = t := by
  induction t with
  | nil => rfl
  | cons c t ih =>
    rw [List.mem_cons, not_or] at h
    rw [double, if_neg fun hc => h.1 hc.symm, ih h.2]

/-- The text of a reference to a name. -/
def reference (name : Text) : Text := '$' :: '{' :: (name ++ ['}'])

end Text

namespace Reference

variable {host : Host} {x : Finder} {t u v p : Text} {ss : List Segment}

/-- How a character is scanned when its dollar sign is doubled. -/
def Segment.literal (c : Char) : Segment := if c = '$' then .escape else .char c

/-- A text with doubled dollar signs is scanned character by character. The last pair of dollar signs
is complete, so that nothing behind the text is drawn into it. -/
theorem scans_double (t : Text) (h : Scans v ss) :
    Scans (t.double ++ v) (t.map Segment.literal ++ ss) := by
  induction t with
  | nil => exact h
  | cons c t ih =>
    rw [Text.double, List.map_cons, Segment.literal]
    split
    · exact .escape ih
    · next hc => exact .char (fun h => hc h.1) (fun h => hc h.1) ih

/-- Characters whose dollar signs were doubled stand for themselves. -/
theorem evaluateAll_literal (hx : x.step = pure ()) (t : Text) (ss : List Segment) :
    Segment.evaluateAll x (t.map Segment.literal ++ ss) =
      Segment.evaluateAll x ss >>= fun out => pure (t ++ out) := by
  induction t with
  | nil => simp
  | cons c t ih =>
    have hc : (Segment.literal c).evaluate x = pure [c] := by
      rw [Segment.literal]
      split
      · next h => rw [h, Segment.evaluate]
      · rw [Segment.evaluate, hx, pure_bind]
    rw [List.map_cons, List.cons_append, Segment.evaluateAll, hc, pure_bind, ih]
    simp only [bind_assoc, pure_bind, List.cons_append, List.nil_append]

/-- A text with doubled dollar signs is expanded without a look at any reference. -/
theorem Finds.expand_of_double (h : Finds host x) (hx : x.step = pure ()) (t : Text) :
    expand host t.double = pure t := by
  have hs : Scans t.double (t.map Segment.literal ++ []) := by
    simpa using scans_double t .ended
  rw [h.expand_of_scans hs, evaluateAll_literal hx, Segment.evaluateAll, pure_bind, List.append_nil]

/-- A reference between two texts with doubled dollar signs. -/
theorem Finds.expand_around (h : Finds host x) (hx : x.step = pure ()) (hopen : p.Unopened)
    (hclose : '}' ∉ p) (u v : Text) :
    expand host (u.double ++ Text.reference p ++ v.double) =
      x.value (.ofText p) >>= fun w => pure (u ++ w.render ++ v) := by
  have hbehind : Scans v.double (v.map Segment.literal ++ []) := by
    simpa using scans_double v .ended
  have hs : Scans (u.double ++ Text.reference p ++ v.double)
      (u.map Segment.literal ++ .reference (.ofText p) :: (v.map Segment.literal ++ [])) := by
    have hread := reads_of_unopened hopen hclose v.double
    have htext : u.double ++ Text.reference p ++ v.double =
        u.double ++ '$' :: '{' :: (p ++ '}' :: v.double) := by
      simp [Text.reference]
    rw [htext]
    exact scans_double u (.reference hread hbehind)
  rw [h.expand_of_scans hs, evaluateAll_literal hx, Segment.evaluateAll, Segment.evaluate,
    evaluateAll_literal hx, Segment.evaluateAll]
  simp only [bind_assoc, pure_bind, List.append_nil, List.append_assoc]

end Reference

namespace Resolver

open Reference

variable {r : Resolver} {unended : Prop} {g : Guard} {k k' : Stock} {p t : Text}

/-- In every session a text with doubled dollar signs is expanded at once. -/
theorem expandAt_double (r : Resolver) (depth : Nat) (t : Text) :
    r.expandAt (depth + 1) t.double = pure t :=
  (finds_hostWith (depth + 1)).expand_of_double rfl t

/-- A reference to a name expands to the value of the property, or stands for its own text, and what is
around it keeps to itself. -/
theorem expandAt_around (hopen : p.Unopened) (hclose : '}' ∉ p) (depth : Nat) (u v : Text) :
    r.expandAt (depth + 2) (u.double ++ Text.reference p ++ v.double) =
      r.propertyValue (r.host (depth + 1)) p >>= fun w =>
        pure (u ++ (w.getD (.text (Text.reference p))).render ++ v) := by
  have htext : (Body.ofText p).text = Text.reference p := by
    rw [Body.text, Body.source_ofText, Text.reference]
  have hfinds : Finds (r.host (depth + 2)) (r.finder none (depth + 2)) := finds_hostWith (depth + 2)
  rw [expandAt, hfinds.expand_around rfl hopen hclose, value_ofText, htext, bind_assoc]
  simp only [pure_bind]

theorem spec_expandAt_around {depth : Nat} {w : Option Value} (hopen : p.Unopened)
    (hclose : '}' ∉ p) (u v : Text)
    (h : Eval.Spec unended g k (r.propertyValue (r.host (depth + 1)) p)
      fun answer l => answer = .ok w ∧ l = k') :
    Eval.Spec unended g k (r.expandAt (depth + 2) (u.double ++ Text.reference p ++ v.double))
      fun out l => out = .ok (u ++ (w.getD (.text (Text.reference p))).render ++ v) ∧ l = k' := by
  rw [expandAt_around hopen hclose]
  refine h.bind ?_ fun _ _ h => by cases h.1
  rintro _ _ ⟨⟨⟩, rfl⟩
  exact .pure ⟨rfl, rfl⟩

/-- A reference alone expands to what the value of the property is, or stands for its own text. -/
theorem spec_expandAt_reference {depth : Nat} {v : Option Value} (hopen : t.Unopened)
    (hclose : '}' ∉ t)
    (h : Eval.Spec unended g k (r.propertyValue (r.host (depth + 1)) t)
      fun answer l => answer = .ok v ∧ l = k') :
    Eval.Spec unended g k (r.expandAt (depth + 2) (Text.reference t))
      fun out l => out = .ok (v.getD (.text (Text.reference t))).render ∧ l = k' := by
  simpa [Text.double] using spec_expandAt_around hopen hclose [] [] h

end Resolver

/-- Doubled dollar signs protect everything. As an evaluation, the expansion of a text whose dollar
signs are doubled is nothing but the text: it is the same in all states, and it leaves them as they are,
along with the record of what was entered on the way. If such a text is stored under a name that can be
referred to as it stands, a reference to it expands to the text in a session of its own, also between two
more texts of this kind, and the store stays as it is. -/
theorem Store.expand_double (s : Store) (t : Text) :
    (∀ depth ≠ 0, s.resolver.expandAt depth t.double = pure t) ∧
    ∀ p : Text, p.Unopened → '}' ∉ p →
      (s.setProperty p t.double).expand (Text.reference p) =
        some (.ok t, s.setProperty p t.double) ∧
      ∀ u v : Text, (s.setProperty p t.double).expand (u.double ++ Text.reference p ++ v.double) =
        some (.ok (u ++ t ++ v), s.setProperty p t.double) := by
  refine ⟨fun depth hdepth => ?_, fun p hopen hclose => ?_⟩
  · obtain ⟨depth, rfl⟩ := Nat.exists_eq_add_one_of_ne_zero hdepth
    exact Resolver.expandAt_double s.resolver depth t
  · have around (u v : Text) :
        (s.setProperty p t.double).expand (u.double ++ Text.reference p ++ v.double) =
          some (.ok (u ++ t ++ v), s.setProperty p t.double) := by
      obtain ⟨depth, hdepth⟩ : ∃ depth, usualDepth = depth + 3 := ⟨999997, rfl⟩
      have hstored : (s.setProperty p t.double).properties.get? p = some t.double :=
        TextMap.get?_insert_self ..
      have raw : Eval.Spec False (Guard.empty.push ⟨s.resolver.scope, p⟩)
          (s.setProperty p t.double).stock
          (Reference.expand (s.resolver.host (depth + 2)) t.double)
          (fun out k => out = .ok t ∧ k = (s.setProperty p t.double).stock) := by
        show Eval.Spec False _ _ (s.resolver.expandAt (depth + 2) t.double) _
        rw [Resolver.expandAt_double]
        exact .pure ⟨rfl, rfl⟩
      have value := Resolver.spec_propertyValue_of_stored hstored rfl raw
      rw [Store.expand, hdepth]
      exact session_eq_some (Resolver.spec_expandAt_around hopen hclose u v value)
    exact ⟨by simpa [Text.double] using around [] [], around⟩

/-- Dollar signs at all seams: in front of the reference, at the end of its name and of the stored
text, and around a brace behind it. -/
theorem Store.expand_double_seams :
    let s := standard ∅
    Text.Unopened "a$".toList ∧ '}' ∉ "a$".toList ∧
      (s.setProperty "a$".toList "$${x}$$".toList).expand "$$${a$}{$$}".toList =
        some (.ok "$${x}${$}".toList, s.setProperty "a$".toList "$${x}$$".toList) := by
  intro s
  have hopen : Text.Unopened "a$".toList := by decide
  have hclose : '}' ∉ "a$".toList := by decide
  exact ⟨hopen, hclose,
    ((expand_double s "${x}$".toList).2 _ hopen hclose).2 "$".toList "{$}".toList⟩

end Interpolation
