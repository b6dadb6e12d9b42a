import Interpolation.Proofs.Reference.Grammar
import Interpolation.Proofs.Session.Rules

/-!
# Looking for references

What a session does in a text follows the reading of the text: it evaluates the references in the
order in which they are read, and moves the position to where the reading ends.

* `Reference.Finder` is what looking for a reference does where none starts, where one stands, and
  where one is opened but never closed; `Reference.Finds` says that a host looks for references in
  this way;
* `Reference.Body.spell` and `Reference.Body.attempt` evaluate what is in a body: the one spells a
  name, the other one comes to the end of the text without a name;
* `Reference.Finds.runFrom_readName_of_closed` and its companions: names are read by these;
* `Resolver.finder` is how sessions look for references, as `Resolver.finds_hostWith` says.
-/

namespace Interpolation

namespace Reference

/-! ## Finders -/

/-- What looking for a reference does. -/
structure Finder where
  /-- Where no reference is opened. -/
  step : Eval Unit
  /-- Where a reference with a body stands. -/
  value : Body → Eval Value
  /-- Where a reference is opened but never closed. -/
  retry : Body → Eval Unit

/-- A host looks for references in this way. The position is moved behind a reference, and stays
where it is if there is none. -/
structure Finds (host : Host) (x : Finder) : Prop where
  plain : ∀ {input : Text} {pos : Nat}, (∀ u, input.from? pos ≠ some ('$' :: '{' :: u)) →
    (host.nextReference input).runFrom pos = x.step >>= fun _ => pure (none, pos)
  closed : ∀ {input u r : Text} {pos : Nat} {b : Body}, input.from? pos = some ('$' :: '{' :: u) →
    Reads u b (some r) → (host.nextReference input).runFrom pos =
      x.value b >>= fun v => pure (some v, pos + b.text.byteLength)
  unclosed : ∀ {input u : Text} {pos : Nat} {b : Body}, input.from? pos = some ('$' :: '{' :: u) →
    Reads u b none → (host.nextReference input).runFrom pos =
      x.retry b >>= fun _ => pure (none, pos)

namespace Body

/-- Spells the name that a closed body stands for: characters are copied, references are replaced
by their values. -/
def spell (x : Finder) : Body → Eval Text
  | nil => pure []
  | char c rest => do
    x.step
    let name ← rest.spell x
    pure (c :: name)
  | reference inner rest => do
    let v ← x.value inner
    let name ← rest.spell x
    pure (v.render ++ name)

/-- What looking for a reference does in front of a character and what follows it in a body. -/
def look (x : Finder) : Char → Body → Eval Unit
  | '$', char '{' rest => x.retry rest
  | _, _ => x.step

/-- Goes through a body that the end of the text breaks off. -/
def attempt (x : Finder) : Body → Eval Unit
  | nil => pure ()
  | char c rest => do
    look x c rest
    rest.attempt x
  | reference inner rest => do
    let _ ← x.value inner
    rest.attempt x

/-- Characters that stand for themselves spell themselves. -/
theorem spell_ofText {x : Finder} (hx : x.step = pure ()) (t : Text) :
    (ofText t).spell x = pure t := by
  induction t with
  | nil => rfl
  | cons c cs ih => rw [ofText, spell, hx, pure_bind, ih, pure_bind]

/-- Bodies in a row spell the names of both. -/
theorem spell_append (x : Finder) (b b' : Body) : (b.append b').spell x =
    b.spell x >>= fun t => b'.spell x >>= fun t' => pure (t ++ t') := by
  induction b with
  | nil => simp [append, spell]
  | char c rest ih => simp only [append, spell, ih, bind_assoc, pure_bind, List.cons_append]
  | reference inner rest _ ih => simp only [append, spell, ih, bind_assoc, pure_bind,
      List.append_assoc]

theorem look_eq_step {x : Finder} {c : Char} {b : Body}
    (h : ∀ rest, c = '$' → b = char '{' rest → False) : look x c b = x.step := by
  unfold look
  split
  · exact absurd rfl fun hb => h _ rfl hb
  · rfl

theorem look_eq_step_of_reads {x : Finder} {c : Char} {u : Text} {b : Body} {o : Option Text}
    (h : Reads u b o) (hopening : ¬(c = '$' ∧ u.head? = some '{')) : look x c b = x.step := by
  refine look_eq_step fun rest hc hb => hopening ⟨hc, ?_⟩
  rw [h.eq_source, hb]
  rfl

end Body

namespace Finds

variable {host : Host} {x : Finder} {input u r : Text} {pos : Nat} {b : Body}

/-- Where another character than an opening sign stands. -/
theorem runFrom_nextReference_of_char (h : Finds host x) {c : Char}
    (hpos : input.from? pos = some (c :: u)) (hopening : ¬(c = '$' ∧ u.head? = some '{')) :
    (host.nextReference input).runFrom pos = x.step >>= fun _ => pure (none, pos) := by
  refine h.plain fun v hv => ?_
  rw [hpos] at hv
  obtain ⟨rfl, rfl⟩ := List.cons.inj (Option.some.inj hv)
  exact hopening ⟨rfl, rfl⟩

/-! ## Reading on in a name -/

variable {c : Char} {fuel : Nat} {name : Text}

theorem charAt?_of_from? (hpos : input.from? pos = some (c :: u)) : input.charAt? pos = some c := by
  rw [Text.charAt?, hpos]
  rfl

/-- Where no reference stands a character is copied. -/
theorem runFrom_readNameFrom_of_none {e : Eval Unit} (hpos : input.from? pos = some (c :: u))
    (hclose : c ≠ '}')
    (hnext : (host.nextReference input).runFrom pos = e >>= fun _ => pure (none, pos)) :
    (readNameFrom host input (fuel + 1) name).runFrom pos = e >>= fun _ =>
      (readNameFrom host input fuel (name ++ [c])).runFrom (pos + c.utf8Size) := by
  rw [readNameFrom, Scan.runFrom_position_bind, charAt?_of_from? hpos]
  dsimp only
  rw [if_neg hclose, Scan.runFrom_bind, hnext, bind_assoc]
  refine bind_congr fun _ => ?_
  rw [pure_bind, Scan.runFrom_position_bind, charAt?_of_from? hpos]
  rfl

/-- Where a reference stands its value is rendered. -/
theorem runFrom_readNameFrom_of_some {e : Eval Value} {stop : Nat}
    (hpos : input.from? pos = some (c :: u)) (hclose : c ≠ '}')
    (hnext : (host.nextReference input).runFrom pos = e >>= fun v => pure (some v, stop)) :
    (readNameFrom host input (fuel + 1) name).runFrom pos = e >>= fun v =>
      (readNameFrom host input fuel (name ++ v.render)).runFrom stop := by
  rw [readNameFrom, Scan.runFrom_position_bind, charAt?_of_from? hpos]
  dsimp only
  rw [if_neg hclose, Scan.runFrom_bind, hnext, bind_assoc]
  rfl

/-- How a body is read behind a part of a name: to the closing brace, with a name, or to the end of
the text, without one. -/
def readBody (x : Finder) (name : Text) (pos : Nat) (b : Body) :
    Option Text → Eval (Option Text × Nat)
  | some _ => b.spell x >>= fun n => pure (some (name ++ n), pos + (b.source.byteLength + 1))
  | none => b.attempt x >>= fun _ => pure (none, pos + b.source.byteLength)

theorem readBody_char {o : Option Text} (hread : Reads u b o)
    (hopening : ¬(c = '$' ∧ u.head? = some '{')) :
    readBody x name pos (.char c b) o =
      x.step >>= fun _ => readBody x (name ++ [c]) (pos + c.utf8Size) b o := by
  cases o with
  | none =>
    simp only [readBody, Body.attempt, Body.look_eq_step_of_reads hread hopening, Body.source, bind_assoc,
      Text.byteLength_cons, Nat.add_assoc]
  | some r =>
    simp only [readBody, Body.spell, Body.source, bind_assoc, pure_bind, List.append_assoc,
      List.singleton_append, Text.byteLength_cons, Nat.add_assoc]

theorem readBody_reference {i : Body} (o : Option Text) :
    readBody x name pos (.reference i b) o =
      x.value i >>= fun v => readBody x (name ++ v.render) (pos + i.text.byteLength) b o := by
  have hsource : (Body.reference i b).source = i.text ++ b.source := by
    simp [Body.source, Body.text]
  cases o with
  | none =>
    simp only [readBody, Body.attempt, hsource, bind_assoc, Text.byteLength_append, Nat.add_assoc]
  | some r =>
    simp only [readBody, Body.spell, hsource, bind_assoc, pure_bind, List.append_assoc,
      Text.byteLength_append, Nat.add_assoc]

theorem readBody_unclosed {i : Body} :
    readBody x name pos (.char '$' (.char '{' i)) none =
      x.retry i >>= fun _ => readBody x (name ++ ['$']) (pos + 1) (.char '{' i) none := by
  have hdollar : ('$' : Char).utf8Size = 1 := rfl
  rw [readBody, Body.attempt, bind_assoc]
  refine bind_congr fun _ => ?_
  rw [readBody, Body.source, Text.byteLength_cons, hdollar, Nat.add_assoc]

/-- A name is read on along the reading of the text. The fuel has to outlast the text that is
left. -/
theorem runFrom_readNameFrom (h : Finds host x) {o : Option Text} (hread : Reads u b o) :
    ∀ (fuel pos : Nat) (name : Text), input.from? pos = some u → u.length < fuel →
      (readNameFrom host input fuel name).runFrom pos = readBody x name pos b o := by
  induction hread with
  | ended =>
    intro fuel pos name hpos hfuel
    obtain ⟨fuel, rfl⟩ := Nat.exists_eq_add_one_of_ne_zero (Nat.ne_of_gt hfuel)
    have hend : input.charAt? pos = none := by
      rw [Text.charAt?, hpos]
      rfl
    rw [readNameFrom, Scan.runFrom_position_bind, hend]
    rfl
  | close r =>
    intro fuel pos name hpos hfuel
    obtain ⟨fuel, rfl⟩ := Nat.exists_eq_add_one_of_ne_zero (Nat.ne_of_gt (Nat.zero_lt_of_lt hfuel))
    rw [readNameFrom, Scan.runFrom_position_bind, charAt?_of_from? hpos, readBody, Body.spell,
      pure_bind, List.append_nil]
    rfl
  | @reference v r i b o hinner hrest ihi ih =>
    intro fuel pos name hpos hfuel
    obtain ⟨fuel, rfl⟩ := Nat.exists_eq_add_one_of_ne_zero (Nat.ne_of_gt (Nat.zero_lt_of_lt hfuel))
    have htext : '$' :: '{' :: v = i.text ++ r := by
      rw [hinner.eq_source_of_some]
      simp [Body.text]
    have hbehind : input.from? (pos + i.text.byteLength) = some r := Text.from?_add (htext ▸ hpos)
    have hlength : r.length < fuel := by
      have := hinner.length_lt
      simp only [List.length_cons] at hfuel
      omega
    rw [runFrom_readNameFrom_of_some hpos (by decide) (h.closed hpos hinner), readBody_reference]
    exact bind_congr fun w => ih fuel _ _ hbehind hlength
  | @unclosed v i b o hinner hrest ihi ih =>
    intro fuel pos name hpos hfuel
    obtain ⟨fuel, rfl⟩ := Nat.exists_eq_add_one_of_ne_zero (Nat.ne_of_gt (Nat.zero_lt_of_lt hfuel))
    obtain ⟨rfl, rfl⟩ := Reads.of_unclosed hinner hrest
    rw [runFrom_readNameFrom_of_none hpos (by decide) (h.unclosed hpos hinner), readBody_unclosed]
    exact bind_congr fun _ => ih fuel _ _ (Text.from?_succ hpos) (Nat.lt_of_succ_lt_succ hfuel)
  | @char c v b o hclose hopening hrest ih =>
    intro fuel pos name hpos hfuel
    obtain ⟨fuel, rfl⟩ := Nat.exists_eq_add_one_of_ne_zero (Nat.ne_of_gt (Nat.zero_lt_of_lt hfuel))
    rw [runFrom_readNameFrom_of_none hpos hclose (h.runFrom_nextReference_of_char hpos hopening),
      readBody_char hrest hopening]
    exact bind_congr fun _ => ih fuel _ _ (Text.from?_succ hpos) (Nat.lt_of_succ_lt_succ hfuel)

/-! ## Names -/

theorem from?_behind_opening (hpos : input.from? pos = some ('$' :: '{' :: u)) :
    input.from? (pos + 2) = some u :=
  Text.from?_add (u := ['$', '{']) hpos

theorem opens_opening (hu : u ≠ []) : opens ('$' :: '{' :: u) = true := by
  cases u with
  | nil => exact absurd rfl hu
  | cons c cs => rfl

theorem length_lt_of_from? (hpos : input.from? pos = some ('$' :: '{' :: u)) :
    u.length < input.byteLength + 1 := by
  obtain ⟨front, rfl, -⟩ := Text.exists_of_from? hpos
  have hlength := Text.length_le_byteLength ('$' :: '{' :: u)
  simp only [List.length_cons] at hlength
  rw [Text.byteLength_append]
  omega

/-- Where nothing is opened there is no name. -/
theorem runFrom_readName_of_plain (host : Host)
    (hplain : ∀ u, input.from? pos ≠ some ('$' :: '{' :: u)) :
    (readName host input).runFrom pos = pure (none, pos) := by
  have hopens : ((input.from? pos).map opens).getD false = false := by
    cases hf : input.from? pos with
    | none => rfl
    | some t =>
      show opens t = false
      unfold opens
      split
      · exact absurd hf (hplain _)
      · rfl
  rw [readName, Scan.runFrom_position_bind, hopens]
  rfl

/-- The name of a reference is what its body spells. -/
theorem runFrom_readName_of_closed (h : Finds host x)
    (hpos : input.from? pos = some ('$' :: '{' :: u)) (hread : Reads u b (some r)) :
    (readName host input).runFrom pos =
      b.spell x >>= fun name => pure (some name, pos + b.text.byteLength) := by
  have hu : u ≠ [] := by
    rw [hread.eq_source_of_some]
    simp
  have hstop : ∀ n, pos + 2 + (n + 1) = pos + (1 + (1 + (n + 1))) := by omega
  have hsize : ('$' : Char).utf8Size = 1 ∧ ('{' : Char).utf8Size = 1 ∧ ('}' : Char).utf8Size = 1 :=
    ⟨rfl, rfl, rfl⟩
  rw [readName, Scan.runFrom_position_bind, hpos, Option.map_some, Option.getD_some,
    opens_opening hu]
  simp only [if_true, Scan.runFrom_moveTo_bind]
  rw [Scan.runFrom_bind, h.runFrom_readNameFrom hread _ _ _ (from?_behind_opening hpos)
    (length_lt_of_from? hpos), readBody, bind_assoc]
  refine bind_congr fun n => ?_
  rw [pure_bind, hstop]
  simp only [Body.text, Text.byteLength_cons, Text.byteLength_append, Text.byteLength_nil, hsize]
  rfl

/-- What is opened but never closed is gone through, and the position comes back. -/
theorem runFrom_readName_of_unclosed (h : Finds host x)
    (hpos : input.from? pos = some ('$' :: '{' :: u)) (hread : Reads u b none) :
    (readName host input).runFrom pos = b.attempt x >>= fun _ => pure (none, pos) := by
  rw [readName, Scan.runFrom_position_bind, hpos, Option.map_some, Option.getD_some]
  cases u with
  | nil =>
    obtain ⟨rfl, -⟩ := hread.unique .ended
    rfl
  | cons c cs =>
    rw [opens_opening (List.cons_ne_nil c cs)]
    simp only [if_true, Scan.runFrom_moveTo_bind]
    rw [Scan.runFrom_bind, h.runFrom_readNameFrom hread _ _ _ (from?_behind_opening hpos)
      (length_lt_of_from? hpos), readBody, bind_assoc]
    rfl

end Finds

/-- The finder that gives up at once. -/
def Finder.exhausted (beyond : Option Error) : Finder where
  step := Eval.giveUp beyond
  value _ := Eval.giveUp beyond
  retry _ := Eval.giveUp beyond

end Reference

namespace Resolver

open Reference

variable (r : Resolver) (beyond : Option Error)

/-- How a session looks for references when the references inside a name are looked for by another
finder: the value of a reference is that of the property with the spelt name, or else its own
text. -/
def finderOver (host : Host) (x : Finder) : Finder where
  step := pure ()
  value b := do
    let name ← b.spell x
    let v ← r.propertyValue host name
    pure (v.getD (.text b.text))
  retry b := b.attempt x

/-- How a session looks for references down to a depth. -/
def finder : Nat → Finder
  | 0 => .exhausted beyond
  | depth + 1 => r.finderOver (r.hostWith beyond depth) (finder depth)

variable {r beyond} {host : Host} {x : Finder} {input u v : Text} {pos : Nat} {b : Body}

/-- The value of the reference that stands at the position. -/
theorem runFrom_nextReference_of_closed (h : Finds host x)
    (hpos : input.from? pos = some ('$' :: '{' :: u)) (hread : Reads u b (some v)) :
    (r.nextReference host input).runFrom pos =
      (r.finderOver host x).value b >>= fun w => pure (some w, pos + b.text.byteLength) := by
  have htext : '$' :: '{' :: u = b.text ++ v := by
    rw [hread.eq_source_of_some]
    simp [Body.text]
  have hbetween : input.between pos (pos + b.text.byteLength) = b.text :=
    Text.between_add (htext ▸ hpos)
  rw [nextReference, Scan.runFrom_position_bind, Scan.runFrom_bind,
    h.runFrom_readName_of_closed hpos hread, finderOver]
  simp only [bind_assoc, pure_bind]
  refine bind_congr fun name => ?_
  rw [Scan.runFrom_bind, Scan.runFrom_ofEval, bind_assoc]
  refine bind_congr fun w => ?_
  rw [pure_bind]
  cases w with
  | some w => rfl
  | none =>
    show (pure (some (.text (input.between pos (pos + b.text.byteLength))), _) :
      Eval (Option Value × Nat)) = _
    rw [hbetween]
    rfl

/-- Sessions look for references by their finders. -/
theorem finds_over (h : Finds host x) (host' : Host)
    (hnext : ∀ input pos, (host'.nextReference input).runFrom pos =
      (r.nextReference host input).runFrom pos) : Finds host' (r.finderOver host x) where
  plain := by
    intro input pos hplain
    rw [hnext, nextReference, Scan.runFrom_position_bind, Scan.runFrom_bind,
      Finds.runFrom_readName_of_plain host hplain]
    rfl
  closed hpos hread := by
    rw [hnext, runFrom_nextReference_of_closed h hpos hread]
  unclosed := by
    intro input u pos b hpos hread
    rw [hnext, nextReference, Scan.runFrom_position_bind, Scan.runFrom_bind,
      h.runFrom_readName_of_unclosed hpos hread, bind_assoc]
    rfl

theorem finds_hostWith (depth : Nat) : Finds (r.hostWith beyond depth) (r.finder beyond depth) := by
  induction depth with
  | zero =>
    have hbind : ∀ {α β : Type} (f : α → Eval β), Eval.giveUp beyond >>= f = Eval.giveUp beyond := by
      intro α β f
      funext s
      cases beyond <;> rfl
    have hgiveUp : ∀ input pos, ((r.hostWith beyond 0).nextReference input).runFrom pos =
        Eval.giveUp beyond := by
      intro input pos
      exact (Scan.runFrom_ofEval pos (Eval.giveUp beyond)).trans (hbind _)
    exact ⟨fun _ => (hgiveUp _ _).trans (hbind _).symm, fun _ _ => (hgiveUp _ _).trans (hbind _).symm,
      fun _ _ => (hgiveUp _ _).trans (hbind _).symm⟩
  | succ depth ih => exact finds_over ih _ fun _ _ => rfl

/-- A reference to a name that spells itself has the value of the property, or stands for itself. -/
theorem value_ofText (r : Resolver) (depth : Nat) (name : Text) :
    (r.finder none (depth + 2)).value (.ofText name) =
      r.propertyValue (r.host (depth + 1)) name >>= fun v =>
        pure (v.getD (.text (Body.ofText name).text)) := by
  have hspell : (Body.ofText name).spell (r.finder none (depth + 1)) = pure name :=
    Body.spell_ofText rfl name
  rw [finder, finderOver]
  dsimp only
  rw [hspell, pure_bind]
  rfl

end Resolver

end Interpolation
