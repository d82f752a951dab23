/-!
# Byte positions in a text

Every offset of the library counts the bytes of the UTF-8 form of a text.  A position is a
*boundary* when a character starts there or the text ends there; cutting at any other
position is refused.

## Main definitions

* `Span` — a start and an end offset.
* `byteLength t` — the number of bytes of `t`.
* `dropBytes? n t`, `takeBytes? n t` — the text after, and before, the boundary `n`.
* `slice? s t` — the text between the two boundaries of `s`.
* `offsetOf? line column t` — the boundary at a line and a column, both counted from one.
-/

namespace SqlAnalysis.Text

/-- A start and an end offset, in bytes.  Nothing is promised about their order: spans that
come from outside may be reversed or lie past the end of the text. -/
structure Span where
  /-- First byte. -/
  start : Nat
  /-- One past the last byte. -/
  stop : Nat
  deriving DecidableEq, Repr, Inhabited

/-- The span moved right by `n` bytes. -/
def Span.shift (s : Span) (n : Nat) : Span :=
  ⟨s.start + n, s.stop + n⟩

/-- The number of bytes of the UTF-8 form of `t`. -/
def byteLength : List Char → Nat
  | [] => 0
  | c :: t => c.utf8Size + byteLength t

@[simp] theorem byteLength_nil : byteLength [] = 0 := rfl

@[simp] theorem byteLength_cons (c : Char) (t : List Char) :
    byteLength (c :: t) = c.utf8Size + byteLength t := rfl

@[simp] theorem byteLength_append (a b : List Char) :
    byteLength (a ++ b) = byteLength a + byteLength b := by
  induction a with
  | nil => simp
  | cons c a ih => simp [ih, Nat.add_assoc]

/-- What follows the first `n` bytes of a text, if `n` is one of its boundaries. -/
def dropBytes? : Nat → List Char → Option (List Char)
  | 0, t => some t
  | _ + 1, [] => none
  | n + 1, c :: t => if c.utf8Size ≤ n + 1 then dropBytes? (n + 1 - c.utf8Size) t else none

/-- The first `n` bytes of a text, if `n` is one of its boundaries. -/
def takeBytes? : Nat → List Char → Option (List Char)
  | 0, _ => some []
  | _ + 1, [] => none
  | n + 1, c :: t =>
    if c.utf8Size ≤ n + 1 then (takeBytes? (n + 1 - c.utf8Size) t).map (c :: ·) else none

/-- The text between the two ends of a span, if both are boundaries and in order. -/
def slice? (s : Span) (t : List Char) : Option (List Char) :=
  if s.start ≤ s.stop then (dropBytes? s.start t).bind (takeBytes? (s.stop - s.start)) else none

/-- The boundary at a line and a column, both counted from one.  Lines end at `'\n'`, columns
count characters, and the column one past the last character of a line is the end of that
line. -/
def offsetOf? : (line column : Nat) → List Char → Option Nat
  | 0, _, _ => none
  | _, 0, _ => none
  | 1, 1, _ => some 0
  | _, _, [] => none
  | 1, column + 2, c :: t =>
    if c = '\n' then none else (offsetOf? 1 (column + 1) t).map (· + c.utf8Size)
  | line + 2, column + 1, c :: t =>
    if c = '\n' then (offsetOf? (line + 1) (column + 1) t).map (· + c.utf8Size)
    else (offsetOf? (line + 2) (column + 1) t).map (· + c.utf8Size)

end SqlAnalysis.Text
