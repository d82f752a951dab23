import SqlAnalysis.Text.EditDistance
import SqlAnalysis.Unicode.Case

/-!
# Suggestions for a misspelled word

The candidate closest to a word, where distance is the edit distance of the lower-case forms.
Of equally close candidates the first is taken, and the search ends early at a candidate of
distance zero.

## Main definitions

* `suggest word candidates` — the first closest candidate.
* `correction word candidates` — the same, unless it is the word itself up to ASCII case.
-/

namespace SqlAnalysis

open Text Unicode

/-- The edit distance of the lower-case forms of two words. -/
def wordDistance (a b : String) : Nat :=
  editDistance (lower a.toList) (lower b.toList)

/-- The closest of `best`, which is at the distance given beside it, and the candidates.  Only a
strictly closer candidate replaces the best one so far. -/
def suggestFrom (word : String) : Option (Nat × String) → List String → Option String
  | best, [] => best.map (·.2)
  | best, c :: cs =>
    let d := wordDistance word c
    if d = 0 then some c
    else if best.all (d < ·.1) then suggestFrom word (some (d, c)) cs
    else suggestFrom word best cs

/-- The first of the candidates closest to `word`; none only when there are no candidates. -/
def suggest (word : String) (candidates : List String) : Option String :=
  suggestFrom word none candidates

/-- The suggestion for `word`, unless it differs from the word at most in ASCII case. -/
def correction (word : String) (candidates : List String) : Option String :=
  (suggest word candidates).filter fun c => !eqIgnoreAsciiCase c.toList word.toList

end SqlAnalysis
