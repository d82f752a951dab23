import SqlAnalysis.Unicode.WordTable

/-!
# Character classes

The three classes of characters that the word grammar and the search patterns are built
from.  A digit is a word character by definition; that blanks are no word characters is a
fact of the tables.

## Main definitions

* `inRanges rs n` — one of the closed ranges `rs` contains `n`.
* `isDigit`, `isWordChar`, `isBlank` — decimal digits, word characters, white space.
* `isNumeric` — decimal digits and other numbers.
* `isAsciiDigit`, `isAsciiLetter` — the same notions restricted to ASCII.
-/

namespace SqlAnalysis.Unicode

/-- One of the closed ranges `rs` contains `n`. -/
def inRanges (rs : List (Nat × Nat)) (n : Nat) : Bool :=
  rs.any fun r => r.1 ≤ n && n ≤ r.2

/-- A decimal digit of any script. -/
def isDigit (c : Char) : Bool :=
  inRanges digitRanges c.toNat

/-- A number of any script: a decimal digit, a fraction, a raised number and the like. -/
def isNumeric (c : Char) : Bool :=
  isDigit c || inRanges numberRanges c.toNat

/-- A letter, mark, digit, connector or joiner: the characters that names are made of. -/
def isWordChar (c : Char) : Bool :=
  isDigit c || inRanges wordRanges c.toNat

/-- White space. -/
def isBlank (c : Char) : Bool :=
  inRanges blankRanges c.toNat

/-- One of the digits `0` to `9`. -/
def isAsciiDigit (c : Char) : Bool :=
  '0' ≤ c && c ≤ '9'

/-- One of the letters `a` to `z` and `A` to `Z`. -/
def isAsciiLetter (c : Char) : Bool :=
  ('a' ≤ c && c ≤ 'z') || ('A' ≤ c && c ≤ 'Z')

theorem isWordChar_of_isDigit {c : Char} (h : isDigit c) : isWordChar c := by
  simp [isWordChar, h]

theorem isDigit_of_isAsciiDigit {c : Char} (h : isAsciiDigit c) : isDigit c := by
  rw [isAsciiDigit, Bool.and_eq_true, decide_eq_true_eq, decide_eq_true_eq] at h
  have hmem : (48, 57) ∈ digitRanges := by decide +kernel
  refine List.any_eq_true.mpr ⟨(48, 57), hmem, ?_⟩
  rw [Bool.and_eq_true, decide_eq_true_eq, decide_eq_true_eq]
  exact ⟨h.1, h.2⟩

theorem isWordChar_of_isAsciiDigit {c : Char} (h : isAsciiDigit c) : isWordChar c :=
  isWordChar_of_isDigit (isDigit_of_isAsciiDigit h)

end SqlAnalysis.Unicode
