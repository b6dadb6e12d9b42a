import Interpolation.Pattern.Reader.Basic

/-!
# The written form of patterns: classes in brackets

A class in brackets lists characters, ranges and other classes, and may combine lists by `&&`,
`--` and `~~`, which apply from the left.

* `Listed` is what has been read of a list;
* `readClass` reads a class behind its opening bracket.
-/

namespace Interpolation.Pattern

/-- The classes that are written `[:name:]` inside brackets. -/
def namedClass? : String → Option CharClass
  | "alnum" => some (.ofList [.range '0' '9', .range 'A' 'Z', .range 'a' 'z'])
  | "alpha" => some (.ofList [.range 'A' 'Z', .range 'a' 'z'])
  | "ascii" => some (.range (Char.ofNat 0) (Char.ofNat 127))
  | "blank" => some (.ofList [.one '\t', .one ' '])
  | "cntrl" => some (.ofList [.range (Char.ofNat 0) (Char.ofNat 31), .one (Char.ofNat 127)])
  | "digit" => some (.range '0' '9')
  | "graph" => some (.range '!' '~')
  | "lower" => some (.range 'a' 'z')
  | "print" => some (.range ' ' '~')
  | "punct" => some (.ofList [.range '!' '/', .range ':' '@', .range '[' (Char.ofNat 96),
      .range (Char.ofNat 123) '~'])
  | "space" => some (.ofList [.range '\t' '\r', .one ' '])
  | "upper" => some (.range 'A' 'Z')
  | "word" => some CharClass.asciiWord
  | "xdigit" => some (.ofList [.range '0' '9', .range 'A' 'F', .range 'a' 'f'])
  | _ => none

/-- A class and, if asked, its complement. -/
def complementIf (f : Flags) (negated : Bool) (a : CharClass) : CharClass :=
  if negated then .compl (f.closeCase a) else f.closeCase a

/-- Reads a named class behind `[`, if there is one. -/
def readNamedClass? (f : Flags) : Text → Option (CharClass × Text)
  | ':' :: cs =>
    let (negated, cs) := match cs with
      | '^' :: rest => (true, rest)
      | _ => (false, cs)
    match cs.dropWhile (· != ':') with
    | ':' :: ']' :: rest =>
      (namedClass? (String.ofList (cs.takeWhile (· != ':')))).map fun a =>
        (complementIf f negated a, rest)
    | _ => none
  | _ => none

/-- How two lists of a class are combined. -/
inductive ClassOp where
  | intersection
  | difference
  | symmetricDifference

/-- Combines two lists of a class. -/
def ClassOp.apply (f : Flags) : ClassOp → CharClass → CharClass → CharClass
  | .intersection, a, b => .inter (f.closeCase a) (f.closeCase b)
  | .difference, a, b => .diff (f.closeCase a) (f.closeCase b)
  | .symmetricDifference, a, b => .symmDiff (f.closeCase a) (f.closeCase b)

/-- What has been read of a list of a class. -/
structure Listed where
  /-- The characters of the items. -/
  set : CharClass := .none
  /-- How deep the items nest. -/
  depths : List Nat := []

/-- Adds an item to a list. -/
def Listed.add (l : Listed) (a : Nested CharClass) : Listed :=
  ⟨.union l.set a.value, a.depth :: l.depths⟩

/-- A list as a class. -/
def Listed.nested (l : Listed) : Nested CharClass :=
  ⟨l.set, sideBySide l.depths⟩

/-- A list of a class together with what an operator has put in front of it. -/
def combine (f : Flags) : Option (ClassOp × Nested CharClass) → Nested CharClass → Nested CharClass
  | none, a => a
  | some (op, left), a => ⟨op.apply f left.value a.value, max left.depth a.depth + 1⟩

/-- Reads a character or an escape sequence of a class. -/
def readClassItem (f : Flags) : Text → Except Fault (Escaped × Text)
  | [] => .error .unclosedClass
  | '\\' :: cs => readEscape f cs
  | c :: cs => .ok (.char c, cs)

/-- The character that an end of a range has to be. -/
def Escaped.char? (f : Flags) : Escaped → Except Fault Char
  | .char c => if !f.unicode && c.toNat ≥ 128 then .error .notText else .ok c
  | _ => .error .badClass

/-- The class that an item stands for; no condition on a place is one. -/
def Escaped.class? (f : Flags) : Escaped → Except Fault CharClass
  | .set a => .ok a
  | item => (item.char? f).map .one

/-- Reads a character, an escape sequence or a range. A hyphen in front of the closing bracket or
of another hyphen makes no range. -/
def readClassRange (f : Flags) (t : Text) : Except Fault (CharClass × Text) := do
  let (first, rest) ← readClassItem f t
  match f.skip rest with
  | [] => .error .unclosedClass
  | '-' :: cs =>
    match f.skip cs with
    | [] => .error .unclosedClass
    | c :: ds =>
      if c = ']' ∨ c = '-' then do
        let a ← first.class? f
        .ok (a, '-' :: cs)
      else do
        let (last, rest) ← readClassItem f (c :: ds)
        let lo ← first.char? f
        let hi ← last.char? f
        if lo ≤ hi then .ok (.range lo hi, rest) else .error .badClass
  | rest => do
    let a ← first.class? f
    .ok (a, rest)

/-- Passes over the hyphens at the beginning of a class, and counts them. -/
def readHyphens (f : Flags) : Nat → Text → Nat × Text
  | 0, t => (0, t)
  | fuel + 1, t =>
    match t with
    | '-' :: cs =>
      let (n, rest) := readHyphens f fuel (f.skip cs)
      (n + 1, rest)
    | _ => (0, t)

/-- Reads the beginning of a class: the sign of a complement, then hyphens or else a closing
bracket that stand for themselves. -/
def readClassStart (f : Flags) (t : Text) : Bool × Listed × Text :=
  let t := f.skip t
  let (negated, t) := match t with
    | '^' :: cs => (true, f.skip cs)
    | _ => (false, t)
  match readHyphens f t.length t with
  | (n + 1, rest) => (negated, ⟨.one '-', List.replicate (n + 1) 0⟩, rest)
  | (0, ']' :: rest) => (negated, ⟨.one ']', [0]⟩, f.skip rest)
  | (0, rest) => (negated, {}, rest)

/-- Reads the rest of a class, up to its closing bracket: `left` is what an operator has put in
front of the list being read, `items` is what has been read of that list. The fuel bounds the
number of parts. -/
def readClassRest (f : Flags) : Nat → Bool → Option (ClassOp × Nested CharClass) → Listed → Text →
    Except Fault (Nested CharClass × Text)
  | 0, _, _, _, _ => .error .unclosedClass
  | fuel + 1, negated, left, items, t =>
    match f.skip t with
    | [] => .error .unclosedClass
    | ']' :: cs =>
      if negated && !f.unicode then .error .notText
      else .ok ((combine f left items.nested).within (complementIf f negated), cs)
    | '[' :: cs =>
      match readNamedClass? f cs with
      | some (a, rest) => readClassRest f fuel negated left (items.add (.leaf a)) rest
      | none => do
        let (inner, start, rest) := readClassStart f cs
        let (a, rest) ← readClassRest f fuel inner none start rest
        readClassRest f fuel negated left (items.add a) rest
    | '&' :: '&' :: cs =>
      readClassRest f fuel negated (some (.intersection, combine f left items.nested)) {} cs
    | '-' :: '-' :: cs =>
      readClassRest f fuel negated (some (.difference, combine f left items.nested)) {} cs
    | '~' :: '~' :: cs =>
      readClassRest f fuel negated (some (.symmetricDifference, combine f left items.nested)) {} cs
    | cs => do
      let (a, rest) ← readClassRange f cs
      readClassRest f fuel negated left (items.add (.leaf a)) rest

/-- Reads a class behind its opening bracket. -/
def readClass (f : Flags) (t : Text) : Except Fault (Nested CharClass × Text) :=
  let (negated, start, rest) := readClassStart f t
  readClassRest f (t.length + 1) negated none start rest

end Interpolation.Pattern
