import Interpolation.Proofs.Operator.Deleting
import Interpolation.Proofs.Operator.Replacing
import Interpolation.Proofs.Pattern.Narrowing

/-!
# Deletions and replacements at the front of a value

A deletion puts a glob into a pattern in which wildcards stand for any character; for a replacement they stand
for any character but the line feed.

* `Glob.narrows_pattern`: the second pattern of a glob of wildcards is the first one with narrower classes;
* `Glob.exists_text_eq`: which texts are globs of wildcards without separators;
* `Pattern.replaceFirst_of_head?`: a match at the front of a text is the first one;
* `Operator.evaluate_replace_of_delete`: a beginning without line feeds that is deleted as the longest one is also the
  first match that is replaced. With line feeds it is not (`Operator.not_evaluate_replace_of_delete`).
-/

namespace Interpolation

/-! ## Globs without separators -/

namespace Glob

/-- Whether a character can stand in a glob that consists of wildcards and characters that stand for
themselves. -/
def isSimple (c : Char) : Bool :=
  !(['\\', '/', '+', '(', ')', '[', ']', '{', '}', '^', '$', '|', '\n'].elem c)

theorem exists_part {c : Char} (h : isSimple c) : ∃ p : Part, p.text = [c] := by
  by_cases hstar : c = '*'
  · exact ⟨.star, by rw [hstar]; rfl⟩
  · by_cases hone : c = '?'
    · exact ⟨.one, by rw [hone]; rfl⟩
    · have hliteral : isLiteral c := by
        simp only [isSimple, isLiteral, List.elem_eq_mem, List.mem_cons, Bool.not_eq_true',
          decide_eq_false_iff_not, not_or] at h ⊢
        simp [h, hstar, hone]
      exact ⟨.literal c hliteral, rfl⟩

/-- A text of such characters is a glob of wildcards. -/
theorem exists_text_eq {g : Text} (h : ∀ c ∈ g, isSimple c) : ∃ ps, text ps = g := by
  induction g with
  | nil => exact ⟨[], rfl⟩
  | cons c g ih =>
    obtain ⟨p, hp⟩ := exists_part (h c List.mem_cons_self)
    obtain ⟨ps, hps⟩ := ih fun c hc => h c (List.mem_cons_of_mem _ hc)
    exact ⟨p :: ps, by rw [text, List.flatMap_cons, hp]; exact congrArg (c :: ·) hps⟩

theorem eq_nil_of_text {ps : List Part} (h : text ps = []) : ps = [] := by
  cases ps with
  | nil => rfl
  | cons p ps => cases p <;> simp [text, Part.text] at h

theorem ne_of_isSimple {c e : Char} (h : isSimple c) (he : isSimple e = false) : c ≠ e := by
  rintro rfl
  exact absurd (h.symm.trans he) nofun

open Pattern in
/-- The pattern of a glob on its own is narrower than that in a deletion: it accepts no line feeds. -/
theorem narrows_pattern (greed : Greed) (ps : List Part) :
    Narrows (· ≠ '\n') (.seqs ((shape ps).patterns false greed)) (pattern greed ps) := by
  have hpatterns : (shape ps).patterns false greed = ps.map fun p => p.piece.pattern false greed := by
    simp [Shape.patterns, shape, backslashIf]
  rw [hpatterns, pattern]
  refine Narrows.seqs_map fun p _ => ?_
  cases p with
  | star => exact .star (.char fun c => by simp [usual, Flags.dotClass, CharClass.notNewline, CharClass.contains])
  | one => exact .char fun c => by simp [usual, Flags.dotClass, CharClass.notNewline, CharClass.contains]
  | slash | backslashes =>
    refine .char fun c => ?_
    simp only [CharClass.contains]
    by_cases hc : c = '\n' <;> simp [hc]
  | literal a ha =>
    have hne : a ≠ '\n' := isLiteral_ne ha rfl
    refine .char fun c => ?_
    simp only [CharClass.contains]
    by_cases hc : c = a <;> simp [hc, hne]

end Glob

/-! ## The first match -/

namespace Pattern

variable {p : Pattern} {t : Text} {w : Way}

/-- A match at the front of a text is the first one. -/
theorem find?_of_head? (h : (p.ways (.start t)).head? = some w) : p.find? t = some (0, w) := by
  rw [find?, pieces, survey_eq, places]
  cases t with
  | nil =>
    rw [placesFrom, List.map_singleton, show (p.ways ⟨0, none, []⟩).head? = some w from h]
    rfl
  | cons c cs =>
    rw [placesFrom, List.map_cons, show (p.ways ⟨0, none, c :: cs⟩).head? = some w from h]
    simp only [cut]
    split <;> rfl

theorem replaceFirst_of_head? (h : (p.ways (.start t)).head? = some w) (put : Groups → Text) :
    p.replaceFirst t put = put (p.groupsOf t 0 w) ++ w.stop.rest := by
  rw [replaceFirst, find?_of_head? h]
  rfl

end Pattern

/-! ## Beginnings that are deleted and replaced -/

namespace Deletion

variable {ps : List Glob.Part} {u v w : Text}

/-- If a beginning is deleted as the longest one, the preferred way through the patterns of the glob leads
past it. -/
theorem exists_head?_of_apply (h : apply ⟨.front, .greedy⟩ (Glob.text ps) v = .ok w) (hv : v = u ++ w)
    (hu : u ≠ []) :
    ∃ x, ((Glob.pattern .greedy ps).ways (.start v)).head? = some x ∧ x.stop.rest = w := by
  obtain ⟨w', hw', hleaves⟩ := exists_apply_wildcards ⟨.front, .greedy⟩ ps v
  obtain rfl : w = w' := by
    rw [h] at hw'
    injection hw'
  rcases hleaves with ⟨u', hu', hmatches, hlongest⟩ | ⟨rfl, -⟩
  · obtain rfl : u = u' := List.append_cancel_right (hv.symm.trans hu')
    have hleads : Glob.Leads ps (Place.start v).rest w := ⟨u, hv, hmatches⟩
    have hways : ((Glob.pattern .greedy ps).ways (.start v)).head? ≠ none := Glob.head?_ways_ne_none hleads
    obtain ⟨x, hx⟩ := Option.ne_none_iff_exists'.1 hways
    refine ⟨x, hx, (List.IsSuffix.eq_of_length (Glob.prefers_of_ways hx hleads) ?_)⟩
    -- no way leads further than past the longest beginning
    obtain ⟨u', hu', hmatches'⟩ := Glob.leads_of_mem_ways (List.mem_of_mem_head? hx)
    have hle : u'.length ≤ u.length := hlongest u' x.stop.rest hu' hmatches'
    have hlength := congrArg List.length (hv.symm.trans hu')
    have := (Glob.prefers_of_ways hx hleads : x.stop.rest <:+ w).length_le
    simp only [List.length_append] at hlength
    omega
  · exact absurd (List.self_eq_append_left.1 hv) hu

end Deletion

/-- The first match of a replacement is the beginning that is deleted, if there are no line feeds in it. -/
theorem Replacement.apply_of_delete {ps : List Glob.Part} {r u v w : Text}
    (h : Deletion.apply ⟨.front, .greedy⟩ (Glob.text ps) v = .ok w) (hv : v = u ++ w) (hu : u ≠ [])
    (hline : '\n' ∉ u) (hglob : '\\' ∉ Glob.text ps) (hr : '\\' ∉ r) :
    Replacement.apply false (Glob.text ps) r v = .ok (r ++ w) := by
  obtain ⟨x, hx, rfl⟩ := Deletion.exists_head?_of_apply h hv hu
  have hkind : ∀ c ∈ u, decide (c ≠ '\n') = true := fun c hc =>
    decide_eq_true fun he => hline (he ▸ hc)
  have hfirst := (Glob.narrows_pattern .greedy ps).head?_ways hx hv hkind
  have hread : Pattern.read (Glob.translate true (Text.unescape '/' (Glob.text ps))) =
      .ok (.seqs ((Glob.shape ps).patterns false .greedy)) := by
    rw [Text.unescape_of_not_mem hglob, ← Glob.text_shape]
    exact (Glob.shape ps).read_translate .greedy
  rw [Replacement.apply_of_read hread]
  simp only [Bool.false_eq_true, if_false, Pattern.replaceFirst_of_head? hfirst,
    Replacement.reading_of_not_mem hr]

namespace Operator

variable {host : Host} {st st' : State} {x g r u v w : Text}

/-- If the longest beginning of a value that a glob matches is deleted, and there are no line feeds in it, then
a replacement with the same glob puts its text in place of the same beginning. -/
theorem evaluate_replace_of_delete (hx : '\n' ∉ x ∧ '#' ∉ x ∧ '/' ∉ x) (hlast : x.getLast? ≠ some '\\')
    (hg : ∀ c ∈ g, Glob.isSimple c) (hr : '\\' ∉ r ∧ '/' ∉ r)
    (hlookup : Operand.lookup host.toProperties x st = some (.ok (.set v), st'))
    (hdelete : (Operator.delete ⟨.front, .greedy⟩).evaluate host (x ++ ("##".toList ++ g)) st =
      some (.ok (some (.text w)), st'))
    (hv : v = u ++ w) (hu : u ≠ []) (hline : '\n' ∉ u) :
    Operator.replace.evaluate host (x ++ (['/'] ++ (g ++ '/' :: r))) st =
      some (.ok (some (.text (r ++ w))), st') := by
  obtain ⟨ps, rfl⟩ := Glob.exists_text_eq hg
  have hglob : '/' ∉ Glob.text ps ∧ '\\' ∉ Glob.text ps :=
    ⟨fun h => Glob.ne_of_isSimple (hg _ h) rfl rfl, fun h => Glob.ne_of_isSimple (hg _ h) rfl rfl⟩
  have hsign : ∀ c ∈ Deletion.sign ⟨.front, .greedy⟩, c ∉ x := by
    intro c hc
    obtain rfl : c = '#' := by simpa [Deletion.sign] using hc
    exact hx.2.1
  have happly : Deletion.apply ⟨.front, .greedy⟩ (Glob.text ps) v = .ok w := by
    have hrun := (run_evaluate_delete hx.1 hsign (Glob.newline_not_mem_text ps) hlookup).symm.trans hdelete
    cases hw : Deletion.apply ⟨.front, .greedy⟩ (Glob.text ps) v with
    | error e => simp [hw, Except.map] at hrun
    | ok w' => simpa [hw, Except.map] using hrun
  have hne : Glob.text ps ≠ [] := by
    intro hnil
    obtain rfl := Glob.eq_nil_of_text hnil
    obtain ⟨m, hm, rfl⟩ := Deletion.exists_head?_of_apply happly hv hu
    obtain rfl : Way.stay (.start v) = m := Option.some.inj hm
    exact hu (List.self_eq_append_left.1 hv)
  obtain ⟨m, hm, hname, hsigns, hpart, hreplacement⟩ :=
    (clean_of_not_mem false hx.2.2 hlast hne hglob hr.2).recognized_iff.2 rfl
  have hevery : decide (m.text 2 = ['/', '/']) = false := by
    rw [hsigns]
    rfl
  refine (run_evaluate_replace hm hname hlookup).trans ?_
  rw [hevery, hpart, hreplacement, Replacement.apply_of_delete happly hv hu hline hglob.2 hr.1]
  rfl

/-- The longest beginning, where a shorter one would do, and a line feed behind it. -/
theorem evaluate_replace_of_delete_dots :
    let st : State := { State.empty with properties := TextMap.insert ∅ "p".toList "a.b.c\nd".toList }
    ('\n' ∉ "p".toList ∧ '#' ∉ "p".toList ∧ '/' ∉ "p".toList) ∧ "p".toList.getLast? ≠ some '\\' ∧
      (∀ c ∈ "?*.".toList, Glob.isSimple c) ∧ ('\\' ∉ "<$>".toList ∧ '/' ∉ "<$>".toList) ∧
      Operand.lookup Host.plain.toProperties "p".toList st = some (.ok (.set "a.b.c\nd".toList), st) ∧
      (Operator.delete ⟨.front, .greedy⟩).evaluate Host.plain "p##?*.".toList st =
        some (.ok (some (.text "c\nd".toList)), st) ∧
      "a.b.c\nd".toList = "a.b.".toList ++ "c\nd".toList ∧ "a.b.".toList ≠ [] ∧ '\n' ∉ "a.b.".toList ∧
      Operator.replace.evaluate Host.plain "p/?*./<$>".toList st =
        some (.ok (some (.text "<$>c\nd".toList)), st) := by
  intro st
  have hx : '\n' ∉ "p".toList ∧ '#' ∉ "p".toList ∧ '/' ∉ "p".toList := by decide
  have hlast : "p".toList.getLast? ≠ some '\\' := by decide
  have hg : ∀ c ∈ "?*.".toList, Glob.isSimple c := by simp [Glob.isSimple]
  have hr : '\\' ∉ "<$>".toList ∧ '/' ∉ "<$>".toList := by decide
  have hlookup : Operand.lookup Host.plain.toProperties "p".toList st =
      some (.ok (.set "a.b.c\nd".toList), st) := rfl
  have happly : Deletion.apply ⟨.front, .greedy⟩ "?*.".toList "a.b.c\nd".toList = .ok "c\nd".toList := by
    decide +kernel
  have hdelete : (Operator.delete ⟨.front, .greedy⟩).evaluate Host.plain "p##?*.".toList st =
      some (.ok (some (.text "c\nd".toList)), st) := by
    have hrun := run_evaluate_delete (d := ⟨.front, .greedy⟩) hx.1 (by simp [Deletion.sign])
      (show '\n' ∉ "?*.".toList by decide) hlookup
    rwa [happly] at hrun
  have hv : "a.b.c\nd".toList = "a.b.".toList ++ "c\nd".toList := rfl
  have hu : "a.b.".toList ≠ [] := by decide
  have hline : '\n' ∉ "a.b.".toList := by decide
  have hreplace := evaluate_replace_of_delete hx hlast hg hr hlookup hdelete hv hu hline
  exact ⟨hx, hlast, hg, hr, hlookup, hdelete, hv, hu, hline, hreplace⟩

/-- In a deletion a star stands for line feeds too, and in a replacement it does not. -/
theorem not_evaluate_replace_of_delete : ¬∀ (host : Host) (st st' : State) (x g r u v w : Text),
    ('\n' ∉ x ∧ '#' ∉ x ∧ '/' ∉ x) → x.getLast? ≠ some '\\' → (∀ c ∈ g, Glob.isSimple c) →
    ('\\' ∉ r ∧ '/' ∉ r) → Operand.lookup host.toProperties x st = some (.ok (.set v), st') →
    (Operator.delete ⟨.front, .greedy⟩).evaluate host (x ++ ("##".toList ++ g)) st =
      some (.ok (some (.text w)), st') →
    v = u ++ w → u ≠ [] →
    Operator.replace.evaluate host (x ++ (['/'] ++ (g ++ '/' :: r))) st =
      some (.ok (some (.text (r ++ w))), st') := by
  intro h
  let st : State := { State.empty with properties := TextMap.insert ∅ "p".toList "a\nb".toList }
  have hlookup : Operand.lookup Host.plain.toProperties "p".toList st =
      some (.ok (.set "a\nb".toList), st) := rfl
  have happly : Deletion.apply ⟨.front, .greedy⟩ ['*'] "a\nb".toList = .ok [] := by decide +kernel
  have hdelete : (Operator.delete ⟨.front, .greedy⟩).evaluate Host.plain "p##*".toList st =
      some (.ok (some (.text [])), st) := by
    have hrun := run_evaluate_delete (d := ⟨.front, .greedy⟩) (by decide) (by simp [Deletion.sign])
      (show '\n' ∉ ['*'] by decide) hlookup
    rwa [happly] at hrun
  have hsame := h Host.plain st st "p".toList ['*'] ['r'] "a\nb".toList "a\nb".toList [] (by decide)
    (by decide) (by simp [Glob.isSimple]) (by decide) hlookup hdelete rfl (by decide)
  have hreplace : (Operator.replace.evaluate Host.plain "p/*/r".toList st).map (·.1) =
      some (.ok (some (.text "r\nb".toList))) := by decide +kernel
  replace hsame : Operator.replace.evaluate Host.plain "p/*/r".toList st =
      some (.ok (some (.text ['r'])), st) := hsame
  rw [hsame] at hreplace
  exact absurd hreplace (by decide)

end Operator

end Interpolation
