import Interpolation.Proofs.Reference.Finding

/-!
# What is found in a text

Sessions find references where the grammar says that they stand, whatever the values of properties
are.

* `Reference.Agrees`: what is found at a position, and where the position is left, agrees with the
  text;
* `Resolver.references_found`: sessions read names and references in this way.
-/

namespace Interpolation

namespace Reference

variable {α : Type} {input : Text} {pos stop : Nat} {found : Option α} {s t : State}

/-- What is found at a position, and where the position is left, agrees with the text. -/
structure Agrees (input : Text) (pos : Nat) (found : Option α) (stop : Nat)
    (named : Body → α → Prop) : Prop where
  /-- Something is found exactly where a reference stands. -/
  isSome_iff : found.isSome ↔ ∃ b, StandsAt input pos b
  /-- The position is the end of the reference. -/
  behind : ∀ b, StandsAt input pos b → stop = pos + b.text.byteLength
  /-- Without a reference the position stays. -/
  stays : (¬∃ b, StandsAt input pos b) → stop = pos
  /-- What is found is that which the reference names. -/
  named : ∀ b a, StandsAt input pos b → found = some a → named b a

theorem StandsAt.unique {b b' : Body} (h : StandsAt input pos b) (h' : StandsAt input pos b') :
    b = b' := by
  obtain ⟨u, r, hpos, hread⟩ := h
  obtain ⟨u', r', hpos', hread'⟩ := h'
  rw [hpos] at hpos'
  obtain rfl : u = u' := by simpa using hpos'
  exact (hread.unique hread').1

theorem Agrees.nothing {named : Body → α → Prop} (h : ¬∃ b, StandsAt input pos b) :
    Agrees input pos none pos named :=
  ⟨⟨nofun, fun hb => absurd hb h⟩, fun b hb => absurd ⟨b, hb⟩ h, fun _ => rfl, nofun⟩

/-- An evaluation that goes by the text finds what agrees with it. -/
theorem Agrees.of_run {e : Eval (Option α × Nat)} {value : Body → Eval α}
    (hplain : (∀ u, input.from? pos ≠ some ('$' :: '{' :: u)) →
      ∃ w : Eval Unit, e = w >>= fun _ => pure (none, pos))
    (hclosed : ∀ u r b, input.from? pos = some ('$' :: '{' :: u) → Reads u b (some r) →
      e = value b >>= fun a => pure (some a, pos + b.text.byteLength))
    (hunclosed : ∀ u b, input.from? pos = some ('$' :: '{' :: u) → Reads u b none →
      ∃ w : Eval Unit, e = w >>= fun _ => pure (none, pos))
    (he : e s = some (.ok (found, stop), t)) :
    Agrees input pos found stop fun b a => value b s = some (.ok a, t) := by
  have hnothing : (∃ w : Eval Unit, e = w >>= fun _ => pure (none, pos)) →
      found = none ∧ stop = pos := by
    rintro ⟨w, rfl⟩
    rcases Eval.run_bind_eq_some.1 he with ⟨_, u, -, hu⟩ | ⟨_, -, hx⟩
    · obtain ⟨hfound, -⟩ := Eval.ok_inj hu
      obtain ⟨rfl, rfl⟩ := Prod.mk.inj hfound
      exact ⟨rfl, rfl⟩
    · cases hx
  by_cases hopen : ∃ u, input.from? pos = some ('$' :: '{' :: u)
  · obtain ⟨u, hpos⟩ := hopen
    obtain ⟨b, o, hread⟩ := exists_reads u
    cases o with
    | none =>
      obtain ⟨rfl, rfl⟩ := hnothing (hunclosed u b hpos hread)
      refine .nothing ?_
      rintro ⟨b', u', r, hpos', hread'⟩
      rw [hpos] at hpos'
      obtain rfl : u = u' := by simpa using hpos'
      exact absurd (hread.unique hread').2 (by simp)
    | some r =>
      have hstands : StandsAt input pos b := ⟨u, r, hpos, hread⟩
      rw [hclosed u r b hpos hread] at he
      rcases Eval.run_bind_eq_some.1 he with ⟨a, t', ha, ht⟩ | ⟨_, -, hx⟩
      · obtain ⟨hfound, rfl⟩ := Eval.ok_inj ht
        obtain ⟨rfl, rfl⟩ := Prod.mk.inj hfound
        refine ⟨⟨fun _ => ⟨b, hstands⟩, fun _ => rfl⟩, ?_, fun h => absurd ⟨b, hstands⟩ h, ?_⟩
        · intro b' hb'
          rw [hstands.unique hb']
        · intro b' a' hb' ha'
          rw [← hstands.unique hb', ← Option.some.inj ha']
          exact ha
      · cases hx
  · have hplain' : ∀ u, input.from? pos ≠ some ('$' :: '{' :: u) := fun u hu => hopen ⟨u, hu⟩
    obtain ⟨rfl, rfl⟩ := hnothing (hplain hplain')
    refine .nothing ?_
    rintro ⟨b, u, r, hpos, -⟩
    exact hplain' u hpos

end Reference

namespace Resolver

open Reference

/-- When a name or a reference is read without an error, something is found exactly where a
reference stands, and the position is left at its end, or where it was if there is none. The name
is what the body of the reference spells, the value that of the property with this name. -/
theorem references_found (r : Resolver) (beyond : Option Error) (depth : Nat) (input : Text)
    (pos : Nat) (s t : State) :
    (∀ found stop, (readName (r.hostWith beyond depth) input).runFrom pos s =
        some (.ok (found, stop), t) →
      Agrees input pos found stop fun b name =>
        b.spell (r.finder beyond depth) s = some (.ok name, t)) ∧
    ∀ found stop, (r.nextReference (r.hostWith beyond depth) input).runFrom pos s =
        some (.ok (found, stop), t) →
      Agrees input pos found stop fun b v =>
        (r.finder beyond (depth + 1)).value b s = some (.ok v, t) := by
  have hfinds : ∀ depth, Finds (r.hostWith beyond depth) (r.finder beyond depth) := finds_hostWith
  constructor
  · intro found stop h
    exact .of_run (fun hplain => ⟨pure (), Finds.runFrom_readName_of_plain _ hplain⟩)
      (fun u r b hpos hread => (hfinds depth).runFrom_readName_of_closed hpos hread)
      (fun u b hpos hread => ⟨_, (hfinds depth).runFrom_readName_of_unclosed hpos hread⟩) h
  · intro found stop h
    exact .of_run (fun hplain => ⟨_, (hfinds (depth + 1)).plain hplain⟩)
      (fun u r b hpos hread => (hfinds (depth + 1)).closed hpos hread)
      (fun u b hpos hread => ⟨_, (hfinds (depth + 1)).unclosed hpos hread⟩) h

/-- Behind a character of two bytes, a reference in the name of another one: braces and an opening
sign in a value do not end a reference and do not begin one. -/
theorem references_found_braces :
    let s := Store.standard (TextMap.insert ∅ ['b'] "x\x7d$\x7b".toList)
    let r := s.resolver
    let input := "é$\x7ba$\x7bb\x7d\x7d$\x7b".toList
    (((readName (r.host 9) input).runFrom 2 (s.state .empty)).map (·.1) =
      some (.ok (some "ax\x7d$\x7b".toList, 10))) ∧
    ∃ t, (r.nextReference (r.host 9) input).runFrom 2 (s.state .empty) =
        some (.ok (some (.text "${a${b}}".toList), 10), t) ∧
      Agrees input 2 (some (.text "${a${b}}".toList)) 10 fun b v =>
        (r.finder none 10).value b (s.state .empty) = some (.ok v, t) := by
  intro s r input
  have hrun : ((r.nextReference (r.host 9) input).runFrom 2 (s.state .empty)).map (·.1) =
      some (.ok (some (.text "${a${b}}".toList), 10)) := by decide +kernel
  obtain ⟨⟨outcome, t⟩, ht, rfl⟩ := Option.map_eq_some_iff.1 hrun
  exact ⟨by decide +kernel, t, ht,
    (references_found r none 9 input 2 (s.state .empty) t).2 _ _ ht⟩

end Resolver

end Interpolation
