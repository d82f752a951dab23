/-!
# Edit distance

The number of single-character insertions, deletions and replacements that turn one text into
another, computed row by row: row `i` holds the distances of the first `i` characters of one
text to all prefixes of the other.

## Main definitions

* `editDistance a b` — the distance between `a` and `b`.
* `nextRow` — one step of the computation.
-/

namespace SqlAnalysis.Text

/-- The rest of a row, right of an entry `left`.  `above` holds the entries of the row before,
from the one above `left` on, and `b` the characters the columns stand for. -/
def nextEntries (a : Char) : (left : Nat) → (above : List Nat) → (b : List Char) → List Nat
  | left, diagonal :: up :: above, c :: b =>
    let entry := min (min left up + 1) (diagonal + if a = c then 0 else 1)
    entry :: nextEntries a entry (up :: above) b
  | _, _, _ => []

/-- The row after `row` when the character `a` is added to the first text. -/
def nextRow (b : List Char) (row : List Nat) (a : Char) : List Nat :=
  match row with
  | [] => []
  | first :: _ => (first + 1) :: nextEntries a (first + 1) row b

/-- The least number of insertions, deletions and replacements of one character that turn `a`
into `b`. -/
def editDistance (a b : List Char) : Nat :=
  (a.foldl (nextRow b) (List.range (b.length + 1))).getLastD 0

end SqlAnalysis.Text
