import Interpolation.Proofs.Glob.Pieces
import Interpolation.Proofs.Operator.Reader
import Interpolation.Proofs.Operator.Slashes
import Interpolation.Proofs.Pattern.Searching

/-!
# What replacements do

A replacement is written in a syntax of its own, and rewritten as a template that is expanded for every
match. The glob is rewritten twice, as its slashes are escaped.

* `Template.Expands`: a template is expanded to a text, built up from the end of both;
* `Replacement.reading` is what a replacement means, and `Replacement.expands_template` says that its
  template is expanded to that;
* `Operator.evaluate_replace_reading`: what is put in place of each match;
* `Operator.evaluate_replace_literal`: where a glob and a replacement mean themselves, all this comes to the
  replacement of one text by another.
-/

namespace Interpolation

/-! ## What a replacement means -/

namespace Template

variable {caught : Nat → Text} {t u : Text} {c : Char}

/-- A template is expanded to a text, whatever the fuel is as long as it suffices. -/
def Expands (caught : Nat → Text) (t u : Text) : Prop :=
  ∀ fuel, t.length ≤ fuel → expandWith caught fuel t = u

theorem Expands.expand_eq (h : Expands caught t u) : expand caught t = u := h _ (Nat.le_refl _)

theorem Expands.nil : Expands caught [] [] := by
  rintro (_ | fuel) - <;> rfl

theorem Expands.dollar (h : Expands caught t u) : Expands caught ('$' :: '$' :: t) ('$' :: u) := by
  rintro (_ | fuel) hfuel
  · cases hfuel
  · simp only [List.length_cons] at hfuel
    rw [expandWith, h fuel (by omega)]

theorem Expands.group (hc : c.isDigit) (h : Expands caught t u) :
    Expands caught ('$' :: '{' :: c :: '}' :: t) (caught (Text.digitValue c) ++ u) := by
  have hbrace : c ≠ '}' := by
    rintro rfl
    exact absurd hc (by decide)
  have hcalled : called caught [c] = caught (Text.digitValue c) := by
    simp [called, Text.toNat?, hc, Text.digitsValue]
  rintro (_ | fuel) hfuel
  · cases hfuel
  · simp only [List.length_cons] at hfuel
    simp [expandWith, hbrace, hcalled, h fuel (by omega)]

theorem Expands.plain (hc : c ≠ '$') (h : Expands caught t u) : Expands caught (c :: t) (c :: u) := by
  rintro (_ | fuel) hfuel
  · cases hfuel
  · rw [expandWith, h fuel (Nat.le_of_succ_le_succ hfuel)]
    all_goals
      intros
      exact hc ‹_›

end Template

namespace Replacement

/-- What a replacement means for a match with the given groups: a backslash and a digit stand for a group,
a backslash and any other character for this character, and everything else for itself. -/
def reading (caught : Nat → Text) : Text → Text
  | [] => []
  | ['\\'] => ['\\']
  | '\\' :: c :: cs => (if c.isDigit then caught (Text.digitValue c) else [c]) ++ reading caught cs
  | c :: cs => c :: reading caught cs

theorem reading_quoted (caught : Nat → Text) (c : Char) (cs : Text) : reading caught ('\\' :: c :: cs) =
    (if c.isDigit then caught (Text.digitValue c) else [c]) ++ reading caught cs := by
  rw [reading]

theorem reading_plain {c : Char} (hc : c ≠ '\\') (caught : Nat → Text) (cs : Text) :
    reading caught (c :: cs) = c :: reading caught cs := by
  rw [reading]
  all_goals
    intros
    exact hc ‹_›

/-- Whatever has no backslash means itself. -/
theorem reading_of_not_mem {r : Text} (hr : '\\' ∉ r) (caught : Nat → Text) : reading caught r = r := by
  induction r with
  | nil => rfl
  | cons c cs ih =>
    rw [reading_plain (fun h => hr (h ▸ List.mem_cons_self)), ih fun h => hr (List.mem_cons_of_mem _ h)]

/-- The template of a replacement is expanded to what the replacement means: every piece that is written
is read back as one, whatever stands next to it. -/
theorem expands_template (caught : Nat → Text) (raw : Text) :
    Template.Expands caught (template raw) (reading caught raw) := by
  fun_induction template raw with
  | case1 => exact .nil
  | case2 => exact .plain (by decide) .nil
  | case3 c cs hc ih =>
    rw [reading_quoted, if_pos hc]
    exact .group hc ih
  | case4 cs hc ih =>
    rw [reading_quoted, if_neg hc]
    exact .dollar ih
  | case5 c cs hc hdollar ih =>
    rw [reading_quoted, if_neg hc]
    exact .plain hdollar ih
  | case6 cs _ _ ih =>
    rw [reading_plain (by decide)]
    exact .dollar ih
  | case7 c cs hlast hquoted hdollar ih =>
    have hc : c ≠ '\\' := by
      rintro rfl
      cases cs with
      | nil => exact hlast rfl rfl
      | cons d cs => exact hquoted d cs rfl rfl
    rw [reading_plain hc]
    exact .plain hdollar ih

/-- What is put in place of the matches is what the replacement means for each of them. -/
theorem apply_of_read {every : Bool} {glob raw v : Text} {p : Pattern}
    (h : Pattern.read (Glob.translate true (Text.unescape '/' glob)) = .ok p) :
    apply every glob raw v = .ok (if every then p.replaceAll v fun m => reading m.text raw
      else p.replaceFirst v fun m => reading m.text raw) := by
  have hput : (fun m : Groups => Template.expand m.text (template raw)) = fun m => reading m.text raw :=
    funext fun m => (expands_template m.text raw).expand_eq
  simp only [apply, h, hput]

end Replacement

/-! ## Escapes -/

theorem Text.unescape_of_not_mem {t : Text} (ht : '\\' ∉ t) (mark : Char) : unescape mark t = t := by
  fun_induction unescape mark t with
  | case1 | case2 => rfl
  | case3 c d cs h => exact absurd (h.1 ▸ List.mem_cons_self) ht
  | case4 c d cs _ ih => rw [ih fun hm => ht (List.mem_cons_of_mem _ hm)]

namespace Operator

open Replacement

variable {host : Host} {st st' : State} {t x p r v : Text} {g : Groups}

/-! ## Tokens of replacements -/

theorem run_evaluate_replace (hg : recognize? Operator.replace.grammar t = some g) (hx : g.text 1 = x)
    (hv : Operand.lookup host.toProperties x st = some (.ok (.set v), st')) :
    Operator.replace.evaluate host t st =
      some ((Replacement.apply (g.text 2 = ['/', '/']) (g.text 3) (g.text 4) v).map (some ∘ .text), st') := by
  subst hx
  simp only [evaluate, hg]
  exact run_onValue hv

/-- Parts without slashes are cut off where they are meant to be, unless a backslash stands in front of a
slash between them. -/
theorem clean_of_not_mem (every : Bool) (hx : '/' ∉ x) (hlast : x.getLast? ≠ some '\\') (hp : p ≠ [])
    (hglob : '/' ∉ p ∧ '\\' ∉ p) (hr : '/' ∉ r) : Cut.Clean ⟨x, every, p, r⟩ where
  name := Text.slashesEscaped_of_not_mem hx
  glob := Text.slashesEscaped_of_not_mem hglob.1
  replacement := Text.slashesEscaped_of_not_mem hr
  name_open := hlast
  glob_open := fun h => hglob.2 (List.mem_of_getLast? h)
  single := fun _ => hp

theorem clean_of_literal (every : Bool) (hx : '/' ∉ x) (hlast : x.getLast? ≠ some '\\') (hp : p ≠ [])
    (hplain : ∀ c ∈ p, Glob.isOrdinary c) (hr : '/' ∉ r) : Cut.Clean ⟨x, every, p, r⟩ :=
  clean_of_not_mem every hx hlast hp
    ⟨fun h => absurd (hplain _ h) (by decide), fun h => absurd (hplain _ h) (by decide)⟩ hr

/-- A glob that means itself is a literal, and puts in a replacement that means itself. -/
theorem apply_literal (every : Bool) (hp : p ≠ []) (hplain : ∀ c ∈ p, Glob.isOrdinary c) (hr : '\\' ∉ r) :
    Replacement.apply every p r v =
      .ok (if every then Text.replaceAll p r hp v else Text.replaceFirst p r v) := by
  have hescape : Text.unescape '/' p = p :=
    Text.unescape_of_not_mem (fun h => absurd (hplain _ h) (by decide)) '/'
  have hread : Pattern.read (Glob.translate true (Text.unescape '/' p)) = .ok (.literal p) := by
    rw [hescape]
    exact Glob.read_translate_ordinary hplain .greedy
  simp only [apply_of_read hread, reading_of_not_mem hr, Pattern.replaceAll_literal hp,
    Pattern.replaceFirst_literal hp]

/-- Where the glob of a replacement is text that means itself, and so does the replacement, it is a plain
replacement of text: of every occurrence from the left that does not overlap with one in front of it, or of
the first one. -/
theorem evaluate_replace_literal (hx : '/' ∉ x) (hlast : x.getLast? ≠ some '\\') (hp : p ≠ [])
    (hplain : ∀ c ∈ p, Glob.isOrdinary c) (hr : '\\' ∉ r ∧ '/' ∉ r)
    (hv : Operand.lookup host.toProperties x st = some (.ok (.set v), st')) :
    Operator.replace.evaluate host (x ++ (['/', '/'] ++ (p ++ '/' :: r))) st =
        some (.ok (some (.text (Text.replaceAll p r hp v))), st') ∧
      Operator.replace.evaluate host (x ++ (['/'] ++ (p ++ '/' :: r))) st =
        some (.ok (some (.text (Text.replaceFirst p r v))), st') ∧
      (¬p <:+: v → Text.replaceAll p r hp v = v ∧ Text.replaceFirst p r v = v) := by
  have run (every : Bool) : Operator.replace.evaluate host (Cut.token ⟨x, every, p, r⟩) st = some
      (.ok (some (.text (if every then Text.replaceAll p r hp v else Text.replaceFirst p r v))), st') := by
    obtain ⟨g, hg, hname, hsigns, hglob, hreplacement⟩ :=
      (clean_of_literal every hx hlast hp hplain hr.2).recognized_iff.2 rfl
    have hevery : decide (g.text 2 = ['/', '/']) = every := by
      rw [hsigns]
      cases every <;> rfl
    rw [run_evaluate_replace hg hname hv, hevery, hglob, hreplacement, apply_literal every hp hplain hr.1]
    rfl
  exact ⟨run true, run false, fun h =>
    ⟨Text.replaceAll_of_not_isInfix hp h, Text.replaceFirst_of_not_isInfix h⟩⟩

/-- Full stops and dollar signs mean themselves. -/
theorem evaluate_replace_literal_dots :
    let st : State := { State.empty with properties := TextMap.insert ∅ "p".toList "a.b.c".toList }
    '/' ∉ "p".toList ∧ "p".toList.getLast? ≠ some '\\' ∧ ['.'] ≠ [] ∧ (∀ c ∈ ['.'], Glob.isOrdinary c) ∧
      ('\\' ∉ ['$'] ∧ '/' ∉ ['$']) ∧
      Operand.lookup Host.plain.toProperties "p".toList st = some (.ok (.set "a.b.c".toList), st) ∧
      Operator.replace.evaluate Host.plain "p//./$".toList st = some (.ok (some (.text "a$b$c".toList)), st) ∧
      Operator.replace.evaluate Host.plain "p/./$".toList st =
        some (.ok (some (.text "a$b.c".toList)), st) := by
  intro st
  have hv : Operand.lookup Host.plain.toProperties "p".toList st =
      some (.ok (.set "a.b.c".toList), st) := rfl
  have hplain : ∀ c ∈ ['.'], Glob.isOrdinary c := List.forall_mem_singleton.2 rfl
  obtain ⟨hall, hfirst, -⟩ := evaluate_replace_literal (r := ['$']) (by decide) (by decide)
    (List.cons_ne_nil '.' []) hplain (by decide) hv
  refine ⟨by decide, by decide, nofun, hplain, by decide, hv, ?_, hfirst⟩
  have hvalue : Text.replaceAll ['.'] ['$'] (List.cons_ne_nil '.' []) "a.b.c".toList = "a$b$c".toList := by
    simp [Text.replaceAll, Text.splitOnce?, Text.behind?]
  exact hvalue ▸ hall

end Operator

end Interpolation
