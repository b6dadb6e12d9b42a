import Interpolation.Proofs.Reference.Finding
import Interpolation.Proofs.Session.Depth

/-!
# Scanning a text

The expansion of a text goes through it from the left, part by part. Which parts there are is
decided by the text alone.

* `Text.undouble` puts one dollar sign for every two;
* `Reference.Segment` is a part of a text, `Reference.Scans` relates a text to its parts;
  `Reference.exists_scans` and `Reference.Scans.unique`: there is always one scan;
* `Reference.Segment.evaluateAll` evaluates parts one after another;
* `Reference.Finds.expand_of_scans`: a text expands to what its parts evaluate to;
* `Reference.Scans.append`: where a text ends in none of its parts, another one may follow.
-/

namespace Interpolation

/-! ## Doubled dollar signs -/

namespace Text

variable {t : Text}

/-- A text with one dollar sign for every two. -/
def undouble : Text → Text
  | '$' :: '$' :: t => '$' :: undouble t
  | c :: t => c :: undouble t
  | [] => []

theorem undouble_cons {c : Char} (h : ∀ u, c = '$' → t = '$' :: u → False) :
    undouble (c :: t) = c :: undouble t := by
  rw [undouble]
  exact h

theorem length_undouble_le (t : Text) : t.undouble.length ≤ t.length := by
  fun_induction undouble t with
  | case1 t ih => simp only [List.length_cons]; omega
  | case2 c t _ ih => simp only [List.length_cons]; omega
  | case3 => exact Nat.le_refl 0

/-- A text stays as it is just when no dollar sign is doubled in it. -/
theorem undouble_eq_self_iff : t.undouble = t ↔ ¬['$', '$'] <:+: t := by
  fun_induction undouble t with
  | case1 t ih =>
    refine ⟨fun h => ?_, fun h => absurd (List.prefix_append ['$', '$'] t).isInfix h⟩
    -- it is shorter
    have hlength := congrArg List.length h
    have hle := length_undouble_le t
    simp only [List.length_cons] at hlength
    omega
  | case2 c t hdouble ih =>
    rw [List.cons.injEq, ih, List.infix_cons_iff, not_or]
    refine ⟨fun h => ⟨fun hprefix => ?_, h.2⟩, fun h => ⟨rfl, h.2⟩⟩
    obtain ⟨u, hu⟩ := hprefix
    obtain ⟨rfl, rfl⟩ := List.cons.inj hu
    exact hdouble u rfl rfl
  | case3 => simp

theorem undouble_of_not_mem (h : '$' ∉ t) : t.undouble = t :=
  undouble_eq_self_iff.2 fun hi => h (hi.subset List.mem_cons_self)

end Text

namespace Reference

/-! ## Parts of a text -/

/-- A part of a text. -/
inductive Segment where
  /-- A character that stands for itself. -/
  | char (c : Char)
  /-- Two dollar signs, which stand for one. -/
  | escape
  | reference (b : Body)
  /-- The dollar sign of an opening sign that is never closed, and what is read behind it. -/
  | opener (b : Body)
  deriving DecidableEq, Repr

/-- How a text falls into parts, from the left. -/
inductive Scans : Text → List Segment → Prop where
  | ended : Scans [] []
  | escape {u : Text} {ss : List Segment} (rest : Scans u ss) :
      Scans ('$' :: '$' :: u) (.escape :: ss)
  | reference {u r : Text} {b : Body} {ss : List Segment} (inner : Reads u b (some r))
      (rest : Scans r ss) : Scans ('$' :: '{' :: u) (.reference b :: ss)
  | opener {u : Text} {b : Body} {ss : List Segment} (inner : Reads u b none)
      (rest : Scans ('{' :: u) ss) : Scans ('$' :: '{' :: u) (.opener b :: ss)
  | char {c : Char} {u : Text} {ss : List Segment} (escape : ¬(c = '$' ∧ u.head? = some '$'))
      (opening : ¬(c = '$' ∧ u.head? = some '{')) (rest : Scans u ss) :
      Scans (c :: u) (.char c :: ss)

variable {t u v r : Text} {b : Body} {ss ss' : List Segment} {c : Char}

theorem exists_scans (t : Text) : ∃ ss, Scans t ss := by
  induction hn : t.length using Nat.strongRecOn generalizing t with
  | ind n ih =>
    subst hn
    cases t with
    | nil => exact ⟨[], .ended⟩
    | cons c u =>
      obtain ⟨ss, hrest⟩ := ih u.length (Nat.lt_succ_self _) u rfl
      by_cases hescape : c = '$' ∧ u.head? = some '$'
      · obtain ⟨rfl, hhead⟩ := hescape
        obtain ⟨v, rfl⟩ := List.head?_eq_some_iff.1 hhead
        obtain ⟨ss', hbehind⟩ := ih v.length (by simp only [List.length_cons]; omega) v rfl
        exact ⟨_, .escape hbehind⟩
      · by_cases hopening : c = '$' ∧ u.head? = some '{'
        · obtain ⟨rfl, hhead⟩ := hopening
          obtain ⟨v, rfl⟩ := List.head?_eq_some_iff.1 hhead
          obtain ⟨b, o, hread⟩ := exists_reads v
          cases o with
          | none => exact ⟨_, .opener hread hrest⟩
          | some r =>
            have hlength := hread.length_lt
            obtain ⟨ss', hbehind⟩ := ih r.length (by simp only [List.length_cons]; omega) r rfl
            exact ⟨_, .reference hread hbehind⟩
        · exact ⟨_, .char hescape hopening hrest⟩

/-- There is only one scan. -/
theorem Scans.unique (h : Scans t ss) (h' : Scans t ss') : ss = ss' := by
  induction h generalizing ss' with
  | ended =>
    cases h'
    rfl
  | escape _ ih =>
    cases h' with
    | escape hrest => rw [ih hrest]
    | char hescape _ _ => exact absurd ⟨rfl, rfl⟩ hescape
  | reference hread _ ih =>
    cases h' with
    | reference hread' hrest =>
      obtain ⟨rfl, hr⟩ := hread.unique hread'
      obtain rfl := Option.some.inj hr
      rw [ih hrest]
    | opener hread' _ => exact absurd (hread.unique hread').2 (by simp)
    | char _ hopening _ => exact absurd ⟨rfl, rfl⟩ hopening
  | opener hread _ ih =>
    cases h' with
    | reference hread' _ => exact absurd (hread.unique hread').2 (by simp)
    | opener hread' hrest =>
      obtain ⟨rfl, -⟩ := hread.unique hread'
      rw [ih hrest]
    | char _ hopening _ => exact absurd ⟨rfl, rfl⟩ hopening
  | char hescape hopening _ ih =>
    cases h' with
    | escape => exact absurd ⟨rfl, rfl⟩ hescape
    | reference => exact absurd ⟨rfl, rfl⟩ hopening
    | opener => exact absurd ⟨rfl, rfl⟩ hopening
    | char _ _ hrest => rw [ih hrest]

/-- How a text without opening signs is scanned. -/
def Segment.ofText : Text → List Segment
  | '$' :: '$' :: t => .escape :: ofText t
  | c :: t => .char c :: ofText t
  | [] => []

theorem scans_of_unopened (h : t.Unopened) : Scans t (Segment.ofText t) := by
  fun_induction Segment.ofText t with
  | case1 t ih => exact .escape (ih h.tail.tail)
  | case2 c t hdouble ih =>
    refine .char (fun ⟨hc, hhead⟩ => ?_) h.head (ih h.tail)
    obtain ⟨u, rfl⟩ := List.head?_eq_some_iff.1 hhead
    exact hdouble u hc rfl
  | case3 => exact .ended

/-! ## Evaluating the parts -/

namespace Segment

/-- What a part stands for. -/
def evaluate (x : Finder) : Segment → Eval Text
  | char c => do
    x.step
    pure [c]
  | escape => pure ['$']
  | reference b => do
    let v ← x.value b
    pure v.render
  | opener b => do
    x.retry b
    pure ['$']

/-- What several parts stand for. -/
def evaluateAll (x : Finder) : List Segment → Eval Text
  | [] => pure []
  | s :: ss => do
    let t ← s.evaluate x
    let rest ← evaluateAll x ss
    pure (t ++ rest)

theorem evaluateAll_append (x : Finder) (ss ss' : List Segment) :
    evaluateAll x (ss ++ ss') =
      evaluateAll x ss >>= fun t => evaluateAll x ss' >>= fun t' => pure (t ++ t') := by
  induction ss with
  | nil => simp [evaluateAll]
  | cons s ss ih => simp only [List.cons_append, evaluateAll, ih, bind_assoc, pure_bind,
      List.append_assoc]

theorem evaluateAll_ofText {x : Finder} (hx : x.step = pure ()) (t : Text) :
    evaluateAll x (ofText t) = pure t.undouble := by
  fun_induction ofText t with
  | case1 t ih => simp only [evaluateAll, evaluate, ih, pure_bind, Text.undouble,
      List.singleton_append]
  | case2 c t hdouble ih => simp only [evaluateAll, evaluate, hx, ih, pure_bind,
      List.singleton_append, Text.undouble_cons hdouble]
  | case3 => rfl

end Segment

/-! ## Expansions of parts of a text -/

variable {host : Host} {x : Finder} {text : Text} {pos fuel : Nat}

theorem expandFrom_of_escape (hpos : text.from? pos = some ('$' :: '$' :: u)) :
    expandFrom host text (fuel + 1) pos =
      expandFrom host text fuel (pos + 2) >>= fun out => pure ('$' :: out) := by
  rw [expandFrom, hpos]
  exact if_pos ⟨rfl, rfl⟩

theorem expandFrom_of_none {e : Eval Unit} (hpos : text.from? pos = some (c :: u))
    (hescape : ¬(c = '$' ∧ u.head? = some '$'))
    (hnext : (host.nextReference text).runFrom pos = e >>= fun _ => pure (none, pos)) :
    expandFrom host text (fuel + 1) pos = e >>= fun _ =>
      expandFrom host text fuel (pos + c.utf8Size) >>= fun out => pure (c :: out) := by
  rw [expandFrom, hpos]
  dsimp only
  rw [if_neg hescape, hnext, bind_assoc]
  rfl

theorem expandFrom_of_some {e : Eval Value} {stop : Nat} (hpos : text.from? pos = some (c :: u))
    (hescape : ¬(c = '$' ∧ u.head? = some '$'))
    (hnext : (host.nextReference text).runFrom pos = e >>= fun v => pure (some v, stop)) :
    expandFrom host text (fuel + 1) pos = e >>= fun v =>
      expandFrom host text fuel stop >>= fun out => pure (v.render ++ out) := by
  rw [expandFrom, hpos]
  dsimp only
  rw [if_neg hescape, hnext, bind_assoc]
  rfl

theorem expandFrom_of_end (hpos : text.from? pos = some []) :
    expandFrom host text (fuel + 1) pos = pure [] := by
  rw [expandFrom, hpos]

namespace Finds

/-- The rest of a text expands to what its parts stand for. The fuel has to outlast it. -/
theorem expandFrom_of_scans (h : Finds host x) (hs : Scans u ss) :
    ∀ {text : Text} {pos fuel : Nat}, text.from? pos = some u → u.length < fuel →
      expandFrom host text fuel pos = Segment.evaluateAll x ss := by
  induction hs with
  | ended =>
    intro text pos fuel hpos hfuel
    obtain ⟨fuel, rfl⟩ := Nat.exists_eq_add_one_of_ne_zero (Nat.ne_of_gt (Nat.zero_lt_of_lt hfuel))
    rw [expandFrom_of_end hpos, Segment.evaluateAll]
  | escape _ ih =>
    intro text pos fuel hpos hfuel
    obtain ⟨fuel, rfl⟩ := Nat.exists_eq_add_one_of_ne_zero (Nat.ne_of_gt (Nat.zero_lt_of_lt hfuel))
    simp only [List.length_cons] at hfuel
    have hbehind : text.from? (pos + 2) = some _ := Text.from?_add (u := ['$', '$']) hpos
    rw [expandFrom_of_escape hpos, ih hbehind (by omega), Segment.evaluateAll, Segment.evaluate,
      pure_bind]
    rfl
  | @reference u r b ss hread _ ih =>
    intro text pos fuel hpos hfuel
    obtain ⟨fuel, rfl⟩ := Nat.exists_eq_add_one_of_ne_zero (Nat.ne_of_gt (Nat.zero_lt_of_lt hfuel))
    have htext : '$' :: '{' :: u = b.text ++ r := by
      rw [hread.eq_source_of_some]
      simp [Body.text]
    have hlength : r.length < fuel := by
      have := hread.length_lt
      simp only [List.length_cons] at hfuel
      omega
    rw [expandFrom_of_some hpos (by simp) (h.closed hpos hread), Segment.evaluateAll,
      Segment.evaluate, bind_assoc]
    refine bind_congr fun v => ?_
    rw [ih (Text.from?_add (htext ▸ hpos)) hlength, pure_bind]
  | opener hread _ ih =>
    intro text pos fuel hpos hfuel
    obtain ⟨fuel, rfl⟩ := Nat.exists_eq_add_one_of_ne_zero (Nat.ne_of_gt (Nat.zero_lt_of_lt hfuel))
    rw [expandFrom_of_none hpos (by simp) (h.unclosed hpos hread),
      ih (Text.from?_succ hpos) (Nat.lt_of_succ_lt_succ hfuel), Segment.evaluateAll,
      Segment.evaluate, bind_assoc]
    rfl
  | char hescape hopening _ ih =>
    intro text pos fuel hpos hfuel
    obtain ⟨fuel, rfl⟩ := Nat.exists_eq_add_one_of_ne_zero (Nat.ne_of_gt (Nat.zero_lt_of_lt hfuel))
    rw [expandFrom_of_none hpos hescape (h.runFrom_nextReference_of_char hpos hopening),
      ih (Text.from?_succ hpos) (Nat.lt_of_succ_lt_succ hfuel), Segment.evaluateAll,
      Segment.evaluate, bind_assoc]
    rfl

/-- A text expands to what its parts stand for. -/
theorem expand_of_scans (h : Finds host x) (hs : Scans t ss) :
    expand host t = Segment.evaluateAll x ss :=
  h.expandFrom_of_scans hs (Text.from?_zero t)
    (Nat.lt_succ_of_le (Text.length_le_byteLength t))

end Finds

/-! ## Texts behind one another -/

/-- Parts of a text that can be told from the text alone, whatever follows: every opening sign is
closed, and no lone dollar sign is at the end. -/
structure Segment.Whole (ss : List Segment) : Prop where
  closed : ∀ b, .opener b ∉ ss
  last : ss.getLast? ≠ some (.char '$')

theorem Segment.Whole.tail {s : Segment} (h : Whole (s :: ss)) : Whole ss where
  closed b hb := h.closed b (List.mem_cons_of_mem _ hb)
  last hl := h.last (by simp [List.getLast?_cons, hl])

/-- The parts of a text that ends in none of them are followed by those of what is behind it. -/
theorem Scans.append (h : Scans t ss) (whole : Segment.Whole ss) (h' : Scans v ss') :
    Scans (t ++ v) (ss ++ ss') := by
  induction h with
  | ended => exact h'
  | escape _ ih => exact .escape (ih whole.tail)
  | reference hread _ ih => exact .reference (hread.append_right v) (ih whole.tail)
  | opener => exact absurd List.mem_cons_self (whole.closed _)
  | @char c u ss hescape hopening hrest ih =>
    -- what follows a dollar sign is still in the text
    have hhead (hc : c = '$') : (u ++ v).head? = u.head? := by
      cases hrest with
      | ended => exact absurd (by rw [hc]; rfl) whole.last
      | _ => rfl
    exact .char (fun ⟨hc, hd⟩ => hescape ⟨hc, (hhead hc).symm.trans hd⟩)
      (fun ⟨hc, hd⟩ => hopening ⟨hc, (hhead hc).symm.trans hd⟩) (ih whole.tail)

theorem Finds.expand_joined (h : Finds host x) (hs : Scans t ss) (whole : Segment.Whole ss)
    (v : Text) : expand host (t ++ v) =
      expand host t >>= fun out => expand host v >>= fun out' => pure (out ++ out') := by
  obtain ⟨ss', hs'⟩ := exists_scans v
  rw [h.expand_of_scans (hs.append whole hs'), Segment.evaluateAll_append, h.expand_of_scans hs,
    h.expand_of_scans hs']

end Reference

namespace Resolver

open Reference

/-- In a text without opening signs, two dollar signs stand for one and all else for itself. -/
theorem expand_of_unopened (r : Resolver) (beyond : Option Error) (depth : Nat) {v : Text}
    (h : v.Unopened) : Reference.expand (r.hostWith beyond (depth + 1)) v = pure v.undouble := by
  rw [(finds_hostWith (depth + 1)).expand_of_scans (scans_of_unopened h)]
  exact Segment.evaluateAll_ofText rfl v

/-- A text without dollar signs stands for itself. -/
theorem expand_eq_pure (r : Resolver) (beyond : Option Error) (depth : Nat) {v : Text}
    (h : '$' ∉ v) : Reference.expand (r.hostWith beyond (depth + 1)) v = pure v := by
  rw [expand_of_unopened r beyond depth (Text.unopened_of_not_mem h), Text.undouble_of_not_mem h]

variable {ops : Operator → Prop} {scopes : Scope → Prop} {a b : Text} {ss : List Segment}

/-- Expands two texts, one after the other. -/
def expandInTurn (r : Resolver) (depth : Nat) (a b : Text) : Eval Text := do
  let out ← r.expandAt depth a
  let out' ← r.expandAt depth b
  pure (out ++ out')

theorem run_expandInTurn_eq_some {r : Resolver} {depth : Nat} {s u : State}
    {outcome : Except Error Text} :
    r.expandInTurn depth a b s = some (outcome, u) ↔
      (∃ e, r.expandAt depth a s = some (.error e, u) ∧ outcome = .error e) ∨
      ∃ out t outcome', r.expandAt depth a s = some (.ok out, t) ∧
        r.expandAt depth b t = some (outcome', u) ∧ outcome = outcome'.map (out ++ ·) := by
  have join (out : Text) (t : State) : (r.expandAt depth b >>= fun out' => pure (out ++ out')) t =
      (r.expandAt depth b t).map fun o => (o.1.map (out ++ ·), o.2) := Eval.run_map _ _ t
  rw [expandInTurn, Eval.run_bind_eq_some]
  constructor
  · rintro (⟨out, t, ht, hrest⟩ | ⟨e, he, rfl⟩)
    · rw [join] at hrest
      obtain ⟨⟨outcome', u'⟩, hu, ho⟩ := Option.map_eq_some_iff.1 hrest
      obtain ⟨rfl, rfl⟩ := Prod.mk.inj ho
      exact .inr ⟨out, t, outcome', ht, hu, rfl⟩
    · exact .inl ⟨e, he, rfl⟩
  · rintro (⟨e, he, rfl⟩ | ⟨out, t, outcome', ht, hu, rfl⟩)
    · exact .inr ⟨e, he, rfl⟩
    · exact .inl ⟨out, t, ht, by rw [join, hu]; rfl⟩

/-- Two texts behind one another expand like the first one and then the second one, at any depth, if
every opening sign that is scanned in the first one is closed there and no lone dollar sign ends it.
On built-in strategies the depths at which they end do not matter: if the first one fails, so do
both, with what it has left; if it does not, the second one goes on from there. -/
theorem expand_append (r : Resolver) (hs : Scans a ss) (whole : Segment.Whole ss) (b : Text) :
    (∀ depth, r.expandAt depth (a ++ b) = r.expandInTurn depth a b) ∧
    (r.Assembled ops scopes → ∀ s outcome u,
      (∃ depth, r.expandAt depth (a ++ b) s = some (outcome, u)) ↔
        (∃ depth e, r.expandAt depth a s = some (.error e, u) ∧ outcome = .error e) ∨
        ∃ depth depth' out t outcome', r.expandAt depth a s = some (.ok out, t) ∧
          r.expandAt depth' b t = some (outcome', u) ∧ outcome = outcome'.map (out ++ ·)) := by
  have each : ∀ depth, r.expandAt depth (a ++ b) = r.expandInTurn depth a b :=
    fun depth => (finds_hostWith depth).expand_joined hs whole b
  refine ⟨each, fun hr s outcome u => ⟨?_, ?_⟩⟩
  · rintro ⟨depth, hrun⟩
    rw [each] at hrun
    rcases run_expandInTurn_eq_some.1 hrun with ⟨e, he⟩ | ⟨out, t, outcome', ht, hu⟩
    · exact .inl ⟨depth, e, he⟩
    · exact .inr ⟨depth, depth, out, t, outcome', ht, hu⟩
  · rintro (⟨depth, e, he⟩ | ⟨depth, depth', out, t, outcome', ht, hu, ho⟩)
    · exact ⟨depth, by rw [each]; exact run_expandInTurn_eq_some.2 (.inl ⟨e, he⟩)⟩
    · -- at the greater depth both texts end as they do
      have ht' := le_expandAt hr (Nat.le_max_left depth depth') a s _ ht
      have hu' := le_expandAt hr (Nat.le_max_right depth depth') b t _ hu
      refine ⟨max depth depth', ?_⟩
      rw [each]
      exact run_expandInTurn_eq_some.2 (.inr ⟨out, t, outcome', ht', hu', ho⟩)

/-- A default that is stored, and a text that reads it and then fails: the failure comes from the
second text, and the default stays. -/
theorem expand_append_default :
    let r := (Store.standard ∅).resolver
    let a := "${x:=1}$$".toList
    let b := "${x}${y:?gone}".toList
    ∃ ss, Scans a ss ∧ Segment.Whole ss ∧ r.Assembled (fun _ => True) (fun _ => True) ∧
      (∃ depth t, r.expandAt depth a .empty = some (.ok ['1', '$'], t)) ∧
      ∃ depth u, r.expandAt depth (a ++ b) .empty = some (.error (.failure "gone".toList), u) ∧
        u.properties.get? ['x'] = some ['1'] := by
  intro r a b
  have hr : r.Assembled (fun _ => True) (fun _ => True) := (Store.isBuilt_standard ∅).assembled
  have hs : Scans a [.reference (.ofText "x:=1".toList), .escape] :=
    .reference (reads_ofText (t := "x:=1".toList) (by decide) (by decide) _) (.escape .ended)
  have whole : Segment.Whole [.reference (.ofText "x:=1".toList), .escape] := ⟨by simp, by simp⟩
  have hfirst : (r.expandAt 9 a .empty).map (·.1) = some (.ok ['1', '$']) := by decide +kernel
  have hboth : (r.expandInTurn 9 a b .empty).map (fun o => (o.1, o.2.properties.get? ['x'])) =
      some (.error (.failure "gone".toList), some ['1']) := by decide +kernel
  obtain ⟨⟨outcome, t⟩, ht, rfl⟩ := Option.map_eq_some_iff.1 hfirst
  obtain ⟨⟨outcome, u⟩, hu, ho⟩ := Option.map_eq_some_iff.1 hboth
  obtain ⟨rfl, hx⟩ := Prod.mk.inj ho
  rcases run_expandInTurn_eq_some.1 hu with ⟨e, he, -⟩ | ⟨out, t', outcome', ht', hu', hout⟩
  · rw [ht] at he
    cases he
  · obtain ⟨depth, h⟩ := ((expand_append r hs whole b).2 hr .empty _ u).2
      (.inr ⟨9, 9, out, t', outcome', ht', hu', hout⟩)
    exact ⟨_, hs, whole, hr, ⟨9, t, ht⟩, depth, u, h, hx⟩

end Resolver

end Interpolation
