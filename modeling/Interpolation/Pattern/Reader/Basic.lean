import Interpolation.Pattern
import Interpolation.Pattern.Property

/-!
# The written form of patterns: faults, flags, small parts

* `Fault` says why a text is not the written form of a pattern;
* `Nested` is something that has been read, with how deep its parts nest;
* `Flags` are the settings that a pattern can change for the rest of a group;
* `Flags.skip` passes over the blanks and comments that the verbose setting allows;
* `readNumber`, `readEscape` and `readRepetition` read the small parts. Each gives what it has
  read and the text behind it.
-/

namespace Interpolation.Pattern

/-- Why a text is not the written form of a pattern. -/
inductive Fault where
  | unclosedGroup
  | unopenedGroup
  | nothingToRepeat
  | badRepetition
  | badEscape
  | unclosedClass
  | badClass
  | badGroupName
  | badFlags
  | lookAround
  | unknownProperty
  /-- Something that could match a part of a character. -/
  | notText
  | tooDeep
  deriving DecidableEq, Repr

/-- The wording of a fault. -/
def Fault.message : Fault → String
  | .unclosedGroup => "unclosed group"
  | .unopenedGroup => "unopened group"
  | .nothingToRepeat => "repetition operator missing expression"
  | .badRepetition => "invalid repetition count"
  | .badEscape => "invalid escape sequence"
  | .unclosedClass => "unclosed character class"
  | .badClass => "invalid character class"
  | .badGroupName => "invalid capture group name"
  | .badFlags => "invalid flags"
  | .lookAround => "look-around is not supported"
  | .unknownProperty => "unknown character property"
  | .notText => "pattern can match a part of a character"
  | .tooDeep => "pattern nests too deeply"

/-- Something that has been read, and how deep it nests. Repetitions, groups, sequences,
alternatives and classes in brackets nest what they hold. -/
structure Nested (α : Type) where
  value : α
  depth : Nat
  deriving DecidableEq, Repr

namespace Nested

variable {α β : Type}

/-- What holds no other parts. -/
def leaf (a : α) : Nested α := ⟨a, 0⟩

/-- Turns what has been read into something that nests no deeper. -/
def map (f : α → β) (a : Nested α) : Nested β := ⟨f a.value, a.depth⟩

/-- Puts something around what has been read. -/
def within (f : α → β) (a : Nested α) : Nested β := ⟨f a.value, a.depth + 1⟩

end Nested

/-- How deep parts nest that stand side by side. One part alone is not held by anything. -/
def sideBySide (depths : List Nat) : Nat :=
  depths.foldr max 0 + if 1 < depths.length then 1 else 0

/-- The settings that a pattern can change from within. -/
structure Flags where
  /-- Letters stand for all their cases. -/
  anyCase : Bool := false
  /-- `^` and `$` hold at every line. -/
  lines : Bool := false
  /-- `.` accepts line feeds. -/
  dotAll : Bool := false
  /-- Repetitions are reluctant unless marked. -/
  swapped : Bool := false
  /-- Blanks and comments in the pattern mean nothing. -/
  verbose : Bool := false
  /-- Lines may end in a carriage return. -/
  anyLineEnd : Bool := false
  /-- Classes hold characters of all scripts. -/
  unicode : Bool := true
  deriving DecidableEq, Repr

namespace Flags

/-- Passes over blanks and comments; a comment runs from `#` to the end of the line. -/
private def skipVerbose (comment : Bool) : Text → Text
  | [] => []
  | c :: cs =>
    if comment then skipVerbose (c != '\n') cs
    else if Unicode.isBlank c then skipVerbose false cs
    else if c = '#' then skipVerbose true cs
    else c :: cs

/-- Passes over what means nothing under the settings. -/
def skip (f : Flags) (t : Text) : Text :=
  if f.verbose then skipVerbose false t else t

/-- Reads characters of a kind, and passes over what means nothing behind each of them. The fuel
bounds their number. -/
def readWhile (f : Flags) (kind : Char → Bool) : Nat → Text → Text × Text
  | 0, t => ([], t)
  | fuel + 1, t =>
    match t with
    | [] => ([], [])
    | c :: cs =>
      if kind c then
        let (u, rest) := f.readWhile kind fuel (f.skip cs)
        (c :: u, rest)
      else ([], c :: cs)

/-- The class of the characters that a written character stands for. -/
def classOf (f : Flags) (c : Char) : CharClass :=
  if !f.anyCase then .one c
  else if f.unicode then .anyCase (.one c)
  else .union (.one c.toLower) (.one c.toUpper)

/-- A class, with all cases of its characters if the settings ask for it. -/
def closeCase (f : Flags) (a : CharClass) : CharClass :=
  if !f.anyCase then a
  else if f.unicode then .anyCase a
  else .inter (.anyCase a) (.range (Char.ofNat 0) (Char.ofNat 127))

/-- The characters of words. -/
def wordClass (f : Flags) : CharClass :=
  if f.unicode then .word else CharClass.asciiWord

/-- What `.` accepts. -/
def dotClass (f : Flags) : CharClass :=
  if f.dotAll then .any
  else if f.anyLineEnd then .compl (.union (.one '\r') (.one '\n'))
  else CharClass.notNewline

/-- What `^` asks for. -/
def startAnchor (f : Flags) : Anchor :=
  if !f.lines then .textStart else if f.anyLineEnd then .anyLineStart else .lineStart

/-- What `$` asks for. -/
def endAnchor (f : Flags) : Anchor :=
  if !f.lines then .textEnd else if f.anyLineEnd then .anyLineEnd else .lineEnd

/-- Switches a setting by its letter. -/
def switch? (f : Flags) (on : Bool) : Char → Option Flags
  | 'i' => some { f with anyCase := on }
  | 'm' => some { f with lines := on }
  | 's' => some { f with dotAll := on }
  | 'U' => some { f with swapped := on }
  | 'x' => some { f with verbose := on }
  | 'R' => some { f with anyLineEnd := on }
  | 'u' => some { f with unicode := on }
  | _ => none

end Flags

/-- The characters that mean something of their own in a pattern. -/
def isMeta (c : Char) : Bool :=
  ['\\', '.', '+', '*', '?', '(', ')', '|', '[', ']', '{', '}', '^', '$', '#', '&', '-', '~'].elem c

/-- Whether a backslash in front of a character makes it stand for itself: ASCII characters other
than letters, digits and angle brackets. -/
def isEscapable (c : Char) : Bool :=
  isMeta c || (c.toNat < 128 && !c.isAlphanum && c != '<' && c != '>')

/-- A text as a pattern that matches it and nothing else. -/
def quote (t : Text) : Text :=
  t.flatMap fun c => if isMeta c then ['\\', c] else [c]

/-- What an escape sequence stands for. -/
inductive Escaped where
  | char (c : Char)
  | set (a : CharClass)
  | anchor (a : Anchor)

/-- The value of a hexadecimal digit. -/
def hexDigit? (c : Char) : Option Nat :=
  if c.isDigit then some (c.toNat - 48)
  else if 'a' ≤ c ∧ c ≤ 'f' then some (c.toNat - 87)
  else if 'A' ≤ c ∧ c ≤ 'F' then some (c.toNat - 55)
  else none

/-- The character with a number, if there is one. -/
def charOf? (n : Nat) : Option Char :=
  if n.isValidChar then some (Char.ofNat n) else none

/-- Reads a number of hexadecimal digits. -/
def readHex (f : Flags) : Nat → Nat → Text → Except Fault (Nat × Text)
  | 0, n, t => .ok (n, t)
  | k + 1, n, t =>
    match t with
    | [] => .error .badEscape
    | c :: cs =>
      match hexDigit? c with
      | some d => readHex f k (16 * n + d) (f.skip cs)
      | none => .error .badEscape

/-- Reads hexadecimal digits up to a closing brace. The fuel bounds the number of characters. -/
def readHexBraced (f : Flags) : Nat → Option Nat → Text → Except Fault (Nat × Text)
  | 0, _, _ => .error .badEscape
  | fuel + 1, n, t =>
    match t with
    | [] => .error .badEscape
    | '}' :: cs =>
      match n with
      | some n => .ok (n, f.skip cs)
      | none => .error .badEscape
    | c :: cs =>
      match hexDigit? c with
      | some d => readHexBraced f fuel (some (16 * n.getD 0 + d)) (f.skip cs)
      | none => .error .badEscape

/-- Reads the number of a character behind `\\x`, `\\u` or `\\U`, which take two, four and eight
digits unless braces hold them. -/
def readCodePoint (f : Flags) (digits : Nat) (t : Text) : Except Fault (Char × Text) := do
  let (n, rest) ← match f.skip t with
    | '{' :: cs => readHexBraced f (cs.length + 1) none (f.skip cs)
    | cs => readHex f digits 0 cs
  match charOf? n with
  | some c => if !f.unicode && n ≥ 128 then .error .notText else .ok (c, rest)
  | none => .error .badEscape

/-- Whether a character of a name counts when properties are looked up. -/
def isPropertyChar (c : Char) : Bool :=
  c.toNat < 128 && c != ' ' && c != '_' && c != '-'

/-- The part of a name that counts when properties are looked up. A name may begin with `is`. -/
def propertyKey (t : Text) : String :=
  let part (t : Text) : Text := (t.filter isPropertyChar).map Char.toLower
  match t with
  | i :: s :: rest =>
    if i.toLower = 'i' ∧ s.toLower = 's' ∧ part rest != ['c'] then String.ofList (part rest)
    else String.ofList (part t)
  | _ => String.ofList (part t)

/-- The class of a written property: one name, or a name and a value. A sign of inequality asks for
the characters with any other value. -/
def writtenProperty? (t : Text) : Option CharClass :=
  let (negated, cut) := match Text.splitOnce? ['!', '='] t with
    | some parts => (true, some parts)
    | none => (false, (Text.splitOnce? [':'] t).or (Text.splitOnce? ['='] t))
  match cut with
  | none => Property.named? (propertyKey t)
  | some (property, value) =>
    (Property.valued? (propertyKey property) (propertyKey value)).map fun a =>
      if negated then .compl a else a

/-- Reads the class behind `\\p`: one letter or a name in braces. -/
def readProperty (f : Flags) (t : Text) : Except Fault (CharClass × Text) :=
  let found (name rest : Text) : Except Fault (CharClass × Text) :=
    if !f.unicode then .error .notText
    else match writtenProperty? name with
      | some set => .ok (set, rest)
      | none => .error .unknownProperty
  match f.skip t with
  | [] => .error .badEscape
  | '{' :: cs =>
    match f.readWhile (· != '}') cs.length (f.skip cs) with
    | (_, []) => .error .badEscape
    | (name, _ :: rest) => found name rest
  | c :: cs => if c = '\\' then .error .badEscape else found [c] cs

/-- The characters of the names of boundaries. -/
def isBoundaryChar (c : Char) : Bool := c.isAlpha || c = '-'

/-- Reads the name in braces behind `\\b`, if there is one: what is no name is left for a
repetition. -/
def readBoundaryName (f : Flags) (t : Text) : Except Fault (Option Text × Text) :=
  match t with
  | '{' :: cs =>
    match f.skip cs with
    | [] => .error .badEscape
    | c :: cs =>
      if !isBoundaryChar c then .ok (none, t)
      else
        match f.readWhile isBoundaryChar (cs.length + 1) (c :: cs) with
        | (name, '}' :: rest) => .ok (some name, rest)
        | _ => .error .badEscape
  | _ => .ok (none, t)

/-- Reads what follows a backslash. -/
def readEscape (f : Flags) : Text → Except Fault (Escaped × Text)
  | [] => .error .badEscape
  | c :: cs =>
    let set (a : CharClass) : Except Fault (Escaped × Text) := .ok (.set a, cs)
    let complement (a : CharClass) : Except Fault (Escaped × Text) :=
      if f.unicode then .ok (.set (.compl a), cs) else .error .notText
    let digits := if f.unicode then CharClass.digit else .range '0' '9'
    let blanks := if f.unicode then CharClass.blank else .inter .blank (.range '\t' ' ')
    let anchor (a : Anchor) (rest : Text) : Except Fault (Escaped × Text) := .ok (.anchor a, rest)
    let code (digits : Nat) : Except Fault (Escaped × Text) := do
      let (c, rest) ← readCodePoint f digits cs
      .ok (.char c, rest)
    let char (c : Char) : Except Fault (Escaped × Text) := .ok (.char c, cs)
    let letters := f.wordClass
    match c with
    | 'x' => code 2
    | 'u' => code 4
    | 'U' => code 8
    | 'p' => do
      let (a, rest) ← readProperty f cs
      .ok (.set (f.closeCase a), rest)
    | 'P' => do
      let (a, rest) ← readProperty f cs
      .ok (.set (.compl (f.closeCase a)), rest)
    | 'd' => set digits
    | 'D' => complement digits
    | 's' => set blanks
    | 'S' => complement blanks
    | 'w' => set letters
    | 'W' => complement letters
    | 'a' => char (Char.ofNat 7)
    | 'f' => char (Char.ofNat 12)
    | 't' => char '\t'
    | 'n' => char '\n'
    | 'r' => char '\r'
    | 'v' => char (Char.ofNat 11)
    | 'A' => anchor .textStart cs
    | 'z' => anchor .textEnd cs
    | 'B' => anchor (.noWordBoundary letters) cs
    | '<' => anchor (.wordStart letters) cs
    | '>' => anchor (.wordEnd letters) cs
    | 'b' => do
      let (name, rest) ← readBoundaryName f cs
      match name.map String.ofList with
      | none => anchor (.wordBoundary letters) rest
      | some "start" => anchor (.wordStart letters) rest
      | some "end" => anchor (.wordEnd letters) rest
      | some "start-half" => anchor (.noWordBefore letters) rest
      | some "end-half" => anchor (.noWordAfter letters) rest
      | some _ => .error .badEscape
    | c => if isEscapable c then char c else .error .badEscape

/-- The greatest number in a counted repetition. -/
def maxCount : Nat := 4294967295

/-- Reads a number in a counted repetition; blanks around it mean nothing. -/
def readNumber (f : Flags) (t : Text) : Option Nat × Text :=
  let (digits, rest) := f.readWhile Char.isDigit t.length (t.dropWhile Unicode.isBlank)
  (if digits.isEmpty || Text.digitsValue digits > maxCount then none
    else some (Text.digitsValue digits), rest.dropWhile Unicode.isBlank)

/-- How often something is repeated. -/
inductive Count where
  | exactly (n : Nat)
  | atLeast (n : Nat)
  | between (least most : Nat)

/-- Reads a counted repetition behind its opening brace. -/
def readCount (f : Flags) (t : Text) : Except Fault (Count × Text) :=
  match readNumber f (f.skip t) with
  | (none, _) => .error .badRepetition
  | (some n, '}' :: rest) => .ok (.exactly n, rest)
  | (some n, ',' :: rest) =>
    match f.skip rest with
    | '}' :: rest => .ok (.atLeast n, rest)
    | rest =>
      match readNumber f rest with
      | (some m, '}' :: rest) => if n ≤ m then .ok (.between n m, rest) else .error .badRepetition
      | _ => .error .badRepetition
  | _ => .error .badRepetition

/-- A pattern repeated as often as a count says. -/
def repeated (greed : Greed) (p : Pattern) : Count → Pattern
  | .exactly 0 => .empty
  | .exactly n => p.times n
  | .atLeast 0 => p.star greed
  | .atLeast 1 => .plus greed p
  | .atLeast (n + 1) => .seq (p.times n) (.plus greed p)
  | .between 0 m => p.upTo greed m
  | .between n m => if n = m then p.times n else .seq (p.times n) (p.upTo greed (m - n))

end Interpolation.Pattern
