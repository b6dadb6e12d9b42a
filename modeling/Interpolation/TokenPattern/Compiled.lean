import Interpolation.TokenPattern

/-!
# Patterns that are compiled once

A strategy keeps the compiled form of its pattern. It is read from the written form when it is first
needed, and given up when the written form is replaced.

* `CompiledPattern` is the written form, once it is set, and what has been compiled;
* `CompiledPattern.setSource` replaces the written form;
* `CompiledPattern.compile` gives the pattern itself and `CompiledPattern.groups?` the groups of a token,
  each with what is kept afterwards.
-/

namespace Interpolation

/-- The written form of a pattern for whole tokens, once it is set, and its compiled form, once it has
been needed. -/
structure CompiledPattern where
  source : Option Text := none
  compiled : Option Pattern := none
  deriving DecidableEq, Repr

namespace CompiledPattern

/-- A written form of which nothing has been compiled. -/
def ofSource (source : Text) : CompiledPattern := ⟨some source, none⟩

/-- Replaces the written form. The compiled form of the old one is given up. -/
def setSource (p : CompiledPattern) (source : Text) : CompiledPattern :=
  { p with source := some source, compiled := none }

/-- The pattern for whole tokens. It is compiled only if it has not been; what cannot be compiled is not
kept. -/
def compile (p : CompiledPattern) : Except Error Pattern × CompiledPattern :=
  match p.compiled with
  | some q => (.ok q, p)
  | none =>
    match p.source with
    | none => (.error (.configuration .patternUnset), p)
    | some source =>
      match Pattern.read (TokenPattern.anchored source) with
      | .ok q => (.ok q, { p with compiled := some q })
      | .error fault => (.error (.pattern fault), p)

/-- Matches a whole token. For the reserved token nothing is compiled. -/
def groups? (p : CompiledPattern) (token : Text) : Except Error (Option Groups) × CompiledPattern :=
  if token = engineProperty then (.ok none, p)
  else
    let (q, p) := p.compile
    (q.map fun q => q.captures? token, p)

end CompiledPattern

end Interpolation
