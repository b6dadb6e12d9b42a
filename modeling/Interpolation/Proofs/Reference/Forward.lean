import Interpolation.Proofs.Evaluation.Rules
import Interpolation.Proofs.Reference.Grammar
import Mathlib.Logic.Relation

/-!
# Names that any host may help to read

Whoever reads a name shares the position with the host, which may leave it anywhere: beyond the end of the
text, inside a character, or further on without an answer.

* `Reference.MovesForward` is all that is asked of the host, where it is called at a character;
* `Reference.Round` is one round of reading a name, and `Reference.Exit` what the last one may end with: the
  text is read, and the host is called, only where a character stands;
* `Reference.round_or_exit`: there is a next round, which begins further on, or an exit, and so
  `Reference.exists_exit`: a name is read by rounds and an exit, with fuel to spare;
* `Reference.readName_safe`: the position that a name leaves is that behind a closing brace, and without a
  name the position is back where it was.
-/

namespace Interpolation.Reference

variable {host : Host} {input name : Text} {pos stop fuel : Nat} {s t : State} {c : Char}

/-! ## Rounds -/

/-- A host that is called where a character stands comes to an end. It leaves the position no further back,
and further on if it answers something. -/
def MovesForward (host : Host) (input : Text) : Prop :=
  ∀ pos c s, input.charAt? pos = some c → ∃ outcome stop t,
    host.nextReference input pos s = some ((outcome, stop), t) ∧ pos ≤ stop ∧
      ∀ v, outcome = .ok (some v) → pos < stop

/-- How far a name has been read. -/
structure Progress where
  name : Text
  pos : Nat
  state : State

/-- One round of reading a name. -/
inductive Round (host : Host) (input : Text) : Progress → Progress → Prop where
  /-- The host answers something. -/
  | reference {name : Text} {pos stop : Nat} {s t : State} {c : Char} {v : Value}
    (hc : input.charAt? pos = some c) (hclose : c ≠ '}')
    (hnext : host.nextReference input pos s = some ((.ok (some v), stop), t)) :
    Round host input ⟨name, pos, s⟩ ⟨name ++ v.render, stop, t⟩
  /-- It does not, and the character is copied that stands where it has left the position. -/
  | char {name : Text} {pos stop : Nat} {s t : State} {c d : Char}
    (hc : input.charAt? pos = some c) (hclose : c ≠ '}')
    (hnext : host.nextReference input pos s = some ((.ok none, stop), t))
    (hd : input.charAt? stop = some d) :
    Round host input ⟨name, pos, s⟩ ⟨name ++ [d], stop + d.utf8Size, t⟩

/-- How reading a name ends. -/
inductive Exit (host : Host) (input : Text) :
    Progress → Except Error (Option Text) × Nat → State → Prop where
  /-- At a closing brace. -/
  | closed {name : Text} {pos : Nat} {s : State} (hc : input.charAt? pos = some '}') :
    Exit host input ⟨name, pos, s⟩ (.ok (some name), pos + 1) s
  /-- Where no character stands. -/
  | ended {name : Text} {pos : Nat} {s : State} (hc : input.charAt? pos = none) :
    Exit host input ⟨name, pos, s⟩ (.ok none, pos) s
  /-- With an error of the host. -/
  | failed {name : Text} {pos stop : Nat} {s t : State} {c : Char} {e : Error}
    (hc : input.charAt? pos = some c) (hclose : c ≠ '}')
    (hnext : host.nextReference input pos s = some ((.error e, stop), t)) :
    Exit host input ⟨name, pos, s⟩ (.error e, stop) t
  /-- Where the host, without an answer, leaves a position at which no character stands. -/
  | strayed {name : Text} {pos stop : Nat} {s t : State} {c : Char}
    (hc : input.charAt? pos = some c) (hclose : c ≠ '}')
    (hnext : host.nextReference input pos s = some ((.ok none, stop), t))
    (hd : input.charAt? stop = none) :
    Exit host input ⟨name, pos, s⟩ (.ok none, stop) t

/-- What a round makes of what the host has done. -/
theorem readNameFrom_of_char (hc : input.charAt? pos = some c) (hclose : c ≠ '}') :
    readNameFrom host input (fuel + 1) name pos s =
      (host.nextReference input pos s).bind (Scan.goOn fun
        | some v => readNameFrom host input fuel (name ++ v.render)
        | none => fun stop t =>
          match input.charAt? stop with
          | none => some ((.ok none, stop), t)
          | some d => readNameFrom host input fuel (name ++ [d]) (stop + d.utf8Size) t) := by
  rw [readNameFrom, Scan.run_bind, Scan.position, Option.bind_some, Scan.goOn, hc]
  dsimp only
  rw [if_neg hclose, Scan.run_bind]
  congr 2
  funext found stop t
  cases found with
  | some v => rfl
  | none =>
    dsimp only
    rw [Scan.run_bind, Scan.position, Option.bind_some, Scan.goOn]
    cases input.charAt? stop <;> rfl

/-- A name is read on by one more round, which begins inside the text and leads further on, or reading
ends. -/
theorem round_or_exit (h : MovesForward host input) (x : Progress) :
    (∃ y, Round host input x y ∧ x.pos < y.pos ∧ x.pos < input.byteLength ∧ ∀ fuel,
      readNameFrom host input (fuel + 1) x.name x.pos x.state =
        readNameFrom host input fuel y.name y.pos y.state) ∨
    ∃ o t, Exit host input x o t ∧ ∀ fuel,
      readNameFrom host input (fuel + 1) x.name x.pos x.state = some (o, t) := by
  obtain ⟨name, pos, s⟩ := x
  cases hc : input.charAt? pos with
  | none =>
    refine .inr ⟨_, _, .ended hc, fun fuel => ?_⟩
    rw [readNameFrom, Scan.run_bind, Scan.position, Option.bind_some, Scan.goOn, hc]
    rfl
  | some c =>
    by_cases hclose : c = '}'
    · subst hclose
      refine .inr ⟨_, _, .closed hc, fun fuel => ?_⟩
      rw [readNameFrom, Scan.run_bind, Scan.position, Option.bind_some, Scan.goOn, hc]
      rfl
    · have hinside : pos < input.byteLength :=
        Nat.lt_of_lt_of_le (Nat.lt_add_of_pos_right (Char.utf8Size_pos c)) (Text.le_of_charAt? hc)
      obtain ⟨outcome, stop, t, hnext, hle, hlt⟩ := h pos c s hc
      have hrun (fuel : Nat) : readNameFrom host input (fuel + 1) name pos s = _ :=
        readNameFrom_of_char hc hclose
      simp only [hnext, Option.bind_some, Scan.goOn] at hrun
      rcases outcome with e | _ | v
      · exact .inr ⟨_, _, .failed hc hclose hnext, hrun⟩
      · cases hd : input.charAt? stop with
        | none =>
          refine .inr ⟨_, _, .strayed hc hclose hnext hd, fun fuel => ?_⟩
          rw [hrun]
          simp only [hd]
        | some d =>
          refine .inl ⟨_, .char hc hclose hnext hd, ?_, hinside, fun fuel => ?_⟩
          · exact Nat.lt_of_le_of_lt hle (Nat.lt_add_of_pos_right (Char.utf8Size_pos d))
          · rw [hrun]
            simp only [hd]
      · exact .inl ⟨_, .reference hc hclose hnext, hlt v rfl, hinside, hrun⟩

/-- A name is read by rounds and an exit. The fuel has to outlast the bytes that are left; every round
needs one of them at least. -/
theorem exists_exit (h : MovesForward host input) : ∀ (fuel : Nat) (x : Progress), 0 < fuel →
    input.byteLength < x.pos + fuel → ∃ y o t, Relation.ReflTransGen (Round host input) x y ∧
      x.pos ≤ y.pos ∧ Exit host input y o t ∧
      readNameFrom host input fuel x.name x.pos x.state = some (o, t) := by
  intro fuel
  induction fuel with
  | zero => exact fun _ hpos => absurd hpos (Nat.lt_irrefl 0)
  | succ fuel ih =>
    intro x _ hfuel
    rcases round_or_exit h x with ⟨y, hround, hlt, hinside, hrun⟩ | ⟨o, t, hexit, hrun⟩
    · obtain ⟨z, o, t, hrounds, hle, hexit, hrest⟩ := ih y (by omega) (by omega)
      exact ⟨z, o, t, .head hround hrounds, by omega, hexit, (hrun fuel).trans hrest⟩
    · exact ⟨x, o, t, .refl, Nat.le_refl _, hexit, hrun fuel⟩

/-! ## Names -/

/-- Where a reference can begin, an opening sign stands, and something behind it. -/
theorem exists_of_opens (h : ((input.from? pos).map opens).getD false = true) :
    ∃ front c rest, input = front ++ '$' :: '{' :: c :: rest ∧ pos = front.byteLength := by
  cases hfrom : input.from? pos with
  | none => simp [hfrom] at h
  | some u =>
    obtain ⟨front, rfl, hpos⟩ := Text.exists_of_from? hfrom
    rw [hfrom, Option.map_some, Option.getD_some] at h
    unfold opens at h
    split at h
    · exact ⟨front, _, _, rfl, hpos⟩
    · cases h

/-- The opening sign takes two bytes. -/
theorem add_two_le_of_opens (h : ((input.from? pos).map opens).getD false = true) :
    pos + 2 ≤ input.byteLength := by
  obtain ⟨front, c, rest, rfl, rfl⟩ := exists_of_opens h
  have hdollar : ('$' : Char).utf8Size = 1 := rfl
  have hbrace : ('{' : Char).utf8Size = 1 := rfl
  simp only [Text.byteLength_append, Text.byteLength_cons, hdollar, hbrace]
  omega

/-- Where nothing is opened the host is not asked. -/
theorem readName_of_not_opens (host : Host) (h : ((input.from? pos).map opens).getD false = false) (s : State) :
    readName host input pos s = some ((.ok none, pos), s) := by
  rw [readName, Scan.run_bind, Scan.position, Option.bind_some, Scan.goOn, h]
  rfl

/-- Behind an opening sign the name is read; without one the position is moved back. -/
theorem readName_of_opens (host : Host) (h : ((input.from? pos).map opens).getD false = true) (s : State) :
    readName host input pos s =
      (readNameFrom host input (input.byteLength + 1) [] (pos + 2) s).bind (Scan.goOn fun
        | some name => pure (some name)
        | none => fun _ t => some ((.ok none, pos), t)) := by
  rw [readName, Scan.run_bind, Scan.position, Option.bind_some, Scan.goOn, h, if_pos rfl, Scan.run_bind,
    Scan.moveTo, Option.bind_some, Scan.goOn, Scan.run_bind]
  refine congrArg _ (congrArg Scan.goOn (funext fun found => ?_))
  cases found <;> rfl

/-- Where reading has ended at a closing brace, the position is that behind it. -/
theorem Exit.of_name {x : Progress} (h : Exit host input x (.ok (some name), stop) t) :
    x.pos < stop ∧ ∃ front rest, input = front ++ '}' :: rest ∧ stop = (front ++ ['}']).byteLength := by
  cases h with
  | closed hc =>
    obtain ⟨front, rest, hinput, hpos⟩ := Text.charAt?_eq_some_iff.1 hc
    refine ⟨Nat.lt_succ_self _, front, rest, hinput, ?_⟩
    rw [Text.byteLength_append, ← hpos]
    rfl

/-- With a host that moves forward, a name is read from any position, possibly none of the text, in the end.
If there is a name, the position is left further on, on the boundary of a character, behind a closing brace.
If there is none, the position is left where it was. If a reference can begin there, the name is read by
rounds, so that the text is read and the host is called only where a character stands; else neither happens. -/
theorem readName_safe (h : MovesForward host input) (start : Nat) (s : State) :
    ∃ outcome stop t, readName host input start s = some ((outcome, stop), t) ∧
      (∀ name, outcome = .ok (some name) → start < stop ∧ stop ≤ input.byteLength ∧
        ∃ front rest, input = front ++ '}' :: rest ∧ stop = (front ++ ['}']).byteLength) ∧
      (outcome = .ok none → stop = start) ∧
      if ((input.from? start).map opens).getD false then
        ∃ x stop', Relation.ReflTransGen (Round host input) ⟨[], start + 2, s⟩ x ∧
          Exit host input x (outcome, stop') t ∧ (outcome ≠ .ok none → stop = stop')
      else outcome = .ok none ∧ t = s := by
  cases hopens : ((input.from? start).map opens).getD false with
  | false =>
    exact ⟨_, _, _, readName_of_not_opens host hopens s, nofun, fun _ => rfl, rfl, rfl⟩
  | true =>
    have hinside := add_two_le_of_opens hopens
    obtain ⟨x, ⟨outcome, stop⟩, t, hrounds, hle, hexit, hrun⟩ :=
      exists_exit h (input.byteLength + 1) ⟨[], start + 2, s⟩ (Nat.succ_pos _) (by simp only; omega)
    have hname := readName_of_opens host hopens s
    rw [hrun, Option.bind_some] at hname
    rcases outcome with e | _ | name
    · exact ⟨_, _, _, hname, nofun, nofun, x, stop, hrounds, hexit, fun _ => rfl⟩
    · exact ⟨_, _, _, hname, nofun, fun _ => rfl, x, stop, hrounds, hexit, fun hne => absurd rfl hne⟩
    · refine ⟨_, _, _, hname, fun _ _ => ?_, nofun, x, stop, hrounds, hexit, fun _ => rfl⟩
      obtain ⟨hlt, front, rest, hinput, hstop⟩ := hexit.of_name
      refine ⟨?_, ?_, front, rest, hinput, hstop⟩
      · simp only at hle
        omega
      · rw [hstop, hinput]
        simp

/-- A host that answers an at sign and passes over the byte behind it, too, whatever that belongs to. -/
def overshooting : Host :=
  { Host.plain with
    nextReference := fun input => do
      if input.charAt? (← Scan.position) = some '@' then do
        Scan.advance 2
        pure (some (.text ['x']))
      else pure none }

theorem movesForward_overshooting (input : Text) : MovesForward overshooting input := by
  intro pos c s _
  have hrun : overshooting.nextReference input pos s =
      some (if input.charAt? pos = some '@' then ((.ok (some (.text ['x'])), pos + 2), s)
        else ((.ok none, pos), s)) := by
    show (if input.charAt? pos = some '@' then _ else _ : Scan (Option Value)) pos s = _
    split <;> rfl
  rw [hrun]
  split
  · exact ⟨_, _, _, rfl, by omega, fun _ _ => by omega⟩
  · exact ⟨_, _, _, rfl, Nat.le_refl _, nofun⟩

/-- A byte behind an at sign may be a character of its own, or the first one of two. -/
theorem readName_safe_overshooting :
    MovesForward overshooting "${a@-b}".toList ∧ MovesForward overshooting "${@é}".toList ∧
      (∃ stop t, readName overshooting "${a@-b}".toList 0 .empty = some ((.ok (some "axb".toList), stop), t) ∧
        0 < stop ∧ stop ≤ Text.byteLength "${a@-b}".toList) ∧
      ∃ t, readName overshooting "${@é}".toList 0 .empty = some ((.ok none, 0), t) := by
  have hforward := movesForward_overshooting "${a@-b}".toList
  have hforward' := movesForward_overshooting "${@é}".toList
  obtain ⟨outcome, stop, t, hrun, hname, -, -⟩ := readName_safe hforward 0 .empty
  obtain ⟨outcome', stop', t', hrun', -, hnone, -⟩ := readName_safe hforward' 0 .empty
  have houtcome : (readName overshooting "${a@-b}".toList 0 .empty).map (·.1.1) =
      some (.ok (some "axb".toList)) := by decide +kernel
  have houtcome' : (readName overshooting "${@é}".toList 0 .empty).map (·.1.1) = some (.ok none) := by
    decide +kernel
  rw [hrun] at houtcome
  rw [hrun'] at houtcome'
  obtain rfl : outcome = .ok (some "axb".toList) := Option.some.inj houtcome
  obtain rfl : outcome' = .ok none := Option.some.inj houtcome'
  obtain ⟨hlt, hle, -⟩ := hname _ rfl
  obtain rfl : stop' = 0 := hnone rfl
  exact ⟨hforward, hforward', ⟨stop, t, hrun, hlt, hle⟩, t', hrun'⟩

end Interpolation.Reference
