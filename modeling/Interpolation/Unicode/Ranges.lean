/-!
# Tables of code points

A property of characters is a list of ranges of code points, and a case mapping is a list of
ranges that move together. Both are written as text, in hexadecimal, and read once.

* `Ranges.ofHex` reads `41-5A AA` as the ranges 0x41 to 0x5A and 0xAA alone;
* `Shifts.ofHex` reads `41-5A>61` as "0x41 to 0x5A go to 0x61 and on", and `100-12E/>101` as the
  same for every second code point of the range.
-/

namespace Interpolation.Unicode

/-- The value of a hexadecimal digit written in upper case. -/
def hexValue (c : Char) : Nat :=
  if c.isDigit then c.toNat - 48 else c.toNat - 55

/-- Ranges of code points, both ends included. -/
structure Ranges where
  /-- The first and the last code point of each range. -/
  bounds : List (Nat × Nat)
  deriving DecidableEq, Repr

namespace Ranges

/-- Whether a code point lies in one of the ranges. -/
def contains (r : Ranges) (n : Nat) : Bool :=
  r.bounds.any fun (lo, hi) => lo ≤ n && n ≤ hi

/-- Reads the words of a table: `first` is the first code point of the range being read once
its hyphen has passed, `n` the number being read. -/
private def readWords (first : Option Nat) (n : Nat) : List Char → List (Nat × Nat)
  | [] => [(first.getD n, n)]
  | ' ' :: cs => (first.getD n, n) :: readWords none 0 cs
  | '-' :: cs => readWords (some n) 0 cs
  | c :: cs => readWords first (16 * n + hexValue c) cs

/-- The ranges that the lines of a table in hexadecimal list. -/
def ofHex (lines : List String) : Ranges :=
  ⟨lines.flatMap fun line => readWords none 0 line.toList⟩

end Ranges

/-- A run of code points that a case mapping moves by one distance. -/
structure Shift where
  first : Nat
  last : Nat
  /-- Only every second code point of the run is moved. -/
  alternate : Bool
  /-- What the first code point goes to. -/
  target : Nat

/-- What the run makes of a code point, if it holds it. -/
def Shift.image? (s : Shift) (n : Nat) : Option Nat :=
  if s.first ≤ n && n ≤ s.last && (!s.alternate || (n - s.first) % 2 = 0) then
    some (s.target + (n - s.first))
  else none

/-- The code points that the run takes to `n`: at most one. -/
def Shift.sources (s : Shift) (n : Nat) : List Nat :=
  if s.target ≤ n && n - s.target ≤ s.last - s.first
      && (!s.alternate || (n - s.target) % 2 = 0) then
    [s.first + (n - s.target)]
  else []

/-- A case mapping: what lies in no run is its own image. -/
structure Shifts where
  runs : List Shift

namespace Shifts

/-- The image of a code point. -/
def apply (m : Shifts) (n : Nat) : Nat :=
  (m.runs.findSome? (·.image? n)).getD n

/-- The code points other than itself that the mapping takes to `n`. -/
def sources (m : Shifts) (n : Nat) : List Nat :=
  m.runs.flatMap (·.sources n)

private def readRuns (first last : Option Nat) (alternate : Bool) (n : Nat) :
    List Char → List Shift
  | [] => [⟨first.getD n, last.getD (first.getD n), alternate, n⟩]
  | ' ' :: cs =>
    ⟨first.getD n, last.getD (first.getD n), alternate, n⟩ :: readRuns none none false 0 cs
  | '-' :: cs => readRuns (some n) none alternate 0 cs
  | '/' :: cs => readRuns first (some n) true 0 cs
  | '>' :: cs =>
    if alternate then readRuns first last alternate 0 cs
    else match first with
      | none => readRuns (some n) none alternate 0 cs
      | some _ => readRuns first (some n) alternate 0 cs
  | c :: cs => readRuns first last alternate (16 * n + hexValue c) cs

/-- The mapping that the lines of a table in hexadecimal list. -/
def ofHex (lines : List String) : Shifts :=
  ⟨lines.flatMap fun line => readRuns none none false 0 line.toList⟩

end Shifts

end Interpolation.Unicode
