import SqlAnalysis.Sql.Lexer
import SqlAnalysis.Text.Bytes

/-!
# Where the statements of a query stand

The parser counts the statements of a query but does not say where they are.  Cutting the
query at its semicolons gives the places, as long as every piece that holds anything besides
white space and comments is one statement.  A statement with semicolons inside it breaks that
rule; then every statement gets the whole query.

## Main definitions

* `filledPieces?` — the pieces between semicolons that hold a token.
* `statementRanges` — one range for every statement.
-/

namespace SqlAnalysis.Sql

open Text

/-- The pieces of a query between semicolons, as far as they hold a token, from the offset
`start` on.  `filled` says that a token has been met in the current piece.  Nothing when a
semicolon has no offset. -/
def filledPieces? (query : List Char) (start : Nat) (filled : Bool) :
    List Lexeme → Option (List Span)
  | [] => some (if filled then [⟨start, byteLength query⟩] else [])
  | x :: xs =>
    match x.token with
    | .symbol ";" => do
      let stop ← offsetOf? x.start.line x.start.column query
      let rest ← filledPieces? query (stop + 1) false xs
      return if filled then ⟨start, stop⟩ :: rest else rest
    | .blank _ | .endMark => filledPieces? query start filled xs
    | _ => filledPieces? query start true xs

/-- One range for each of `count` statements of a query with these lexemes. -/
def statementRanges (query : List Char) (lexemes : List Lexeme) (count : Nat) : List Span :=
  match filledPieces? query 0 false lexemes with
  | some spans =>
    if spans.length = count then spans
    else List.replicate count ⟨0, byteLength query⟩
  | none => List.replicate count ⟨0, byteLength query⟩

end SqlAnalysis.Sql
