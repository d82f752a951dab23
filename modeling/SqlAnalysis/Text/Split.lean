import SqlAnalysis.Unicode.CharClass

/-!
# Cutting texts

Trimming, cutting at a character, and reading unsigned numbers: what the readers of labels,
settings and arguments share.

## Main definitions

* `trimMatching p t`, `trim t` — `t` without the characters at its ends that satisfy `p`, and
  without the blanks there.
* `cutFirst? c t`, `cutLast? c t` — the two sides of the first, and last, `c` in `t`.
* `splitAt c t` — the pieces of `t` between all occurrences of `c`.
* `numberLimit` — the least number that does not fit into 64 bits.
* `decimal? t` — the number written by `t`, below that limit.
-/

namespace SqlAnalysis.Text

open Unicode

/-- `t` without the characters at its end that satisfy `p`. -/
def trimEndMatching (p : Char → Bool) (t : List Char) : List Char :=
  (t.reverse.dropWhile p).reverse

/-- `t` without the characters at both ends that satisfy `p`. -/
def trimMatching (p : Char → Bool) (t : List Char) : List Char :=
  trimEndMatching p (t.dropWhile p)

/-- `t` without the blanks at its ends. -/
def trim (t : List Char) : List Char :=
  trimMatching isBlank t

/-- What stands before and after the first `c` in a text. -/
def cutFirst? (c : Char) : List Char → Option (List Char × List Char)
  | [] => none
  | d :: t => if d = c then some ([], t) else (cutFirst? c t).map fun (a, b) => (d :: a, b)

/-- What stands before and after the last `c` in a text. -/
def cutLast? (c : Char) (t : List Char) : Option (List Char × List Char) :=
  (cutFirst? c t.reverse).map fun (a, b) => (b.reverse, a.reverse)

/-- The pieces of a text between the occurrences of `c`; there is always at least one. -/
def splitAt (c : Char) : List Char → List (List Char)
  | [] => [[]]
  | d :: t =>
    match splitAt c t with
    | [] => [[d]]
    | p :: ps => if d = c then [] :: p :: ps else (d :: p) :: ps

/-- The least number that does not fit into 64 bits, the 64th power of two. -/
def numberLimit : Nat :=
  18446744073709551616

/-- The number written by decimal digits, after those that make up `acc`. -/
def digits? (acc : Nat) : List Char → Option Nat
  | [] => some acc
  | c :: t => if isAsciiDigit c then digits? (10 * acc + (c.toNat - '0'.toNat)) t else none

/-- The number written by an optional `+` and at least one decimal digit, if it fits into 64
bits. -/
def decimal? (t : List Char) : Option Nat :=
  let digits := match t with
    | '+' :: r => r
    | r => r
  if digits.isEmpty then none else (digits? 0 digits).filter (· < numberLimit)

end SqlAnalysis.Text
