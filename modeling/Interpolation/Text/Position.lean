import Interpolation.Text

/-!
# Positions in a text

A position counts the bytes of the UTF-8 form that come before it, so not every number is a
position of a text: some lie inside a character, some beyond the end.

* `Text.byteLength` is the position of the end;
* `Text.from?` is the text from a position on, if the position is one;
* `Text.charAt?` is the character at a position;
* `Text.between` is the text from one position up to another.
-/

namespace Interpolation.Text

/-- The number of bytes of a text. -/
def byteLength : Text → Nat
  | [] => 0
  | c :: cs => c.utf8Size + byteLength cs

/-- The text from a position on. There is none beyond the end and inside a character. -/
def from? : Text → Nat → Option Text
  | t, 0 => some t
  | [], _ + 1 => none
  | c :: cs, n + 1 => if c.utf8Size ≤ n + 1 then from? cs (n + 1 - c.utf8Size) else none

/-- The character at a position. There is none at the end, beyond it and inside a character. -/
def charAt? (t : Text) (pos : Nat) : Option Char :=
  (t.from? pos).bind List.head?

/-- The first characters of a text, as many as fit into a number of bytes. -/
def takeBytes : Text → Nat → Text
  | [], _ => []
  | c :: cs, n => if c.utf8Size ≤ n then c :: takeBytes cs (n - c.utf8Size) else []

/-- The text from one position up to another. -/
def between (t : Text) (start stop : Nat) : Text :=
  ((t.from? start).getD []).takeBytes (stop - start)

@[simp] theorem byteLength_nil : byteLength [] = 0 := rfl

@[simp] theorem byteLength_cons (c : Char) (cs : Text) :
    byteLength (c :: cs) = c.utf8Size + byteLength cs := rfl

@[simp] theorem byteLength_append (t u : Text) :
    byteLength (t ++ u) = byteLength t + byteLength u := by
  induction t with
  | nil => simp
  | cons c cs ih => simp [ih, Nat.add_assoc]

@[simp] theorem from?_zero (t : Text) : t.from? 0 = some t := by
  cases t <;> rfl

/-- The end of what stands in front is a position, and the rest stands there. -/
@[simp] theorem from?_append (t u : Text) : from? (t ++ u) (byteLength t) = some u := by
  induction t with
  | nil => simp
  | cons c cs ih =>
    obtain ⟨n, hn⟩ := Nat.exists_eq_add_of_lt (Char.utf8Size_pos c)
    have h : byteLength (c :: cs) = n + byteLength cs + 1 := by rw [byteLength_cons]; omega
    rw [h, List.cons_append, from?, if_pos (by omega)]
    rw [show n + byteLength cs + 1 - c.utf8Size = byteLength cs by omega, ih]

end Interpolation.Text
