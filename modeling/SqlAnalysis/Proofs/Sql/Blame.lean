import SqlAnalysis.Proofs.Text.Slice
import SqlAnalysis.Sql.Blame

/-!
# Where the blamed token stands

Whatever places the lexemes claim to have, and whatever the message says, the token that is
blamed for a rejected query is a piece of the query that ends at the reported position.

## Main definitions

* `SyntaxProblem.Fits query p` — the token named by `p` ends at its position.

## Main results

* `exists_slice_tokenSpan` — the text of the token to blame can always be cut out.
* `fits_syntaxProblem` — **the problem of a rejected query fits the query.**
-/

namespace SqlAnalysis

open Text

/-- The token that a problem names stands in the query and ends at the position of the
problem.  A problem without a named token only has to be at a boundary. -/
def SyntaxProblem.Fits (query : List Char) (p : SyntaxProblem) : Prop :=
  ∀ stop, p.position = some stop → ∃ start, (⟨start, stop⟩ : Span).Cuts p.near.toList query

/-- At a boundary nothing can always be cut out. -/
theorem SyntaxProblem.fits_of_isBoundary {query : List Char} {n : Nat}
    (hn : IsBoundary n query) : SyntaxProblem.Fits query ⟨"", some n⟩ := by
  intro stop hstop
  cases hstop
  obtain ⟨a, b, rfl, rfl⟩ := hn
  exact ⟨byteLength a, a, b, by simp, by simp, by simp⟩

namespace Sql

/-- The text of the token to blame can always be cut out, wherever the token claims to end. -/
theorem exists_slice_tokenSpan {query : List Char} {start : Nat} (hstart : IsBoundary start query)
    (x : Lexeme) : ∃ w, slice? (tokenSpan query start x) query = some w := by
  suffices h : IsBoundary (tokenSpan query start x).stop query ∧
      start ≤ (tokenSpan query start x).stop by
    obtain ⟨w, hw⟩ := exists_cuts_of_isBoundary hstart h.1 h.2
    exact ⟨w, slice?_eq_some_iff.mpr hw⟩
  unfold tokenSpan
  cases hstop : (offsetOf? x.stop.line x.stop.column query).filter (start < ·) with
  | none => exact ⟨isBoundary_length query, hstart.le⟩
  | some stop =>
    obtain ⟨hoffset, hlt⟩ := Option.filter_eq_some_iff.mp hstop
    exact ⟨isBoundary_of_offsetOf? hoffset, Nat.le_of_lt (by simpa using hlt)⟩

theorem fits_problemAtEnd (query : List Char) : problemAtEnd.Fits query := by
  intro stop hstop
  cases hstop

/-- Wherever a query was rejected, the problem fits it. -/
theorem fits_problemAt (query : List Char) (lexemes : Except String (List Lexeme))
    (l : Location) : (problemAt query lexemes l).Fits query := by
  unfold problemAt
  cases hplace : offsetOf? l.line l.column query with
  | none => exact fits_problemAtEnd query
  | some start =>
    have hstart := isBoundary_of_offsetOf? hplace
    cases lexemes with
    | error _ => exact SyntaxProblem.fits_of_isBoundary hstart
    | ok xs =>
      dsimp only
      split
      · exact SyntaxProblem.fits_of_isBoundary hstart
      · rename_i x _
        split
        · exact fits_problemAtEnd query
        · obtain ⟨w, hw⟩ := exists_slice_tokenSpan hstart x
          intro stop hstop
          cases hstop
          refine ⟨start, ?_⟩
          rw [hw, Option.getD_some, String.toList_ofList]
          exact slice?_eq_some_iff.mp hw

/-- **The problem of a rejected query fits the query**, whatever the lexemes and the message
are. -/
theorem fits_syntaxProblem (query : String) (lexemes : Except String (List Lexeme))
    (message : String) : (syntaxProblem query lexemes message).Fits query.toList := by
  unfold syntaxProblem
  cases lastLocation? message.toList with
  | none => exact fits_problemAtEnd query.toList
  | some l => exact fits_problemAt query.toList lexemes l

end Sql

end SqlAnalysis
