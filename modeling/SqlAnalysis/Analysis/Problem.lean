import SqlAnalysis.ValueType
import SqlAnalysis.Text.Bytes

/-!
# Problems of a query

The analysis of a query reports at most one problem.  The first four kinds concern its text
alone; the others need a schema and always point at a part of the query.

## Main definitions

* `Problem` — what is wrong with a query.
* `Problem.code`, `Problem.message`, `Problem.span?` — how it is reported.
* `Problem.isSyntax` — the problem does not depend on any schema.
-/

namespace SqlAnalysis

open Text

/-- What is wrong with a query.  Spans and positions are byte offsets into its text. -/
inductive Problem
  /-- The query is blank. -/
  | emptyQuery
  /-- The query is rejected and no word can be blamed. -/
  | syntaxError (position : Nat)
  /-- The query is rejected at a keyword. -/
  | reservedKeyword (keyword : String) (span : Span)
  /-- The query is rejected at a word that is no keyword. -/
  | unknownToken (word : String) (span : Span)
  /-- The schema has no such table. -/
  | unknownTable (table : String) (span : Span)
  /-- The table has no such column. -/
  | unknownColumn (column table : String) (span : Span)
  /-- A literal does not fit the column it is compared with or inserted into. -/
  | typeMismatch (expected received : ValueType) (span : Span)
  /-- A row has not as many values as columns are listed. -/
  | countMismatch (columns values : Nat) (span : Span)
  deriving DecidableEq, Repr, Inhabited

namespace Problem

/-- The name of the kind of problem. -/
def kindName : Problem → String
  | emptyQuery => "EmptyQuery"
  | syntaxError _ => "SyntaxError"
  | reservedKeyword _ _ => "SyntaxErrorReservedKeyword"
  | unknownToken _ _ => "SyntaxErrorUnknownToken"
  | unknownTable _ _ => "UnknownTable"
  | unknownColumn _ _ _ => "UnknownColumn"
  | typeMismatch _ _ _ => "ColumnTypeMismatch"
  | countMismatch _ _ _ => "ColumnCountMismatch"

/-- The stable number of the kind of problem. -/
def code : Problem → Nat
  | emptyQuery => 1001
  | syntaxError _ => 1002
  | reservedKeyword _ _ => 1003
  | unknownToken _ _ => 1004
  | unknownTable _ _ => 1005
  | unknownColumn _ _ _ => 1006
  | typeMismatch _ _ _ => 1007
  | countMismatch _ _ _ => 1008

/-- The part of the query that is to blame, if there is one. -/
def span? : Problem → Option Span
  | emptyQuery | syntaxError _ => none
  | reservedKeyword _ s | unknownToken _ s | unknownTable _ s | unknownColumn _ _ s
  | typeMismatch _ _ s | countMismatch _ _ s => some s

/-- The problem concerns the text of the query alone. -/
def isSyntax : Problem → Bool
  | emptyQuery | syntaxError _ | reservedKeyword _ _ | unknownToken _ _ => true
  | _ => false

/-- Where a problem is, for its message. -/
def spanText (s : Span) : String :=
  " at " ++ toString s.start ++ ".." ++ toString s.stop

/-- The problem in one line, with its place. -/
def message : Problem → String
  | emptyQuery => "Empty query"
  | syntaxError position => "Syntax error at offset " ++ toString position
  | reservedKeyword keyword s => "Reserved keyword '" ++ keyword ++ "'" ++ spanText s
  | unknownToken word s => "Unidentified word '" ++ word ++ "'" ++ spanText s
  | unknownTable table s => "Unknown table '" ++ table ++ "'" ++ spanText s
  | unknownColumn column table s =>
    "Unknown column '" ++ column ++ "' in table '" ++ table ++ "'" ++ spanText s
  | typeMismatch expected received s =>
    "Type " ++ received.label ++ " is not assignable to type " ++ expected.label ++ spanText s
  | countMismatch columns values s =>
    toString columns ++ " columns but " ++ toString values ++ " values" ++ spanText s

/-- The problem moved right by `n` bytes. -/
def shift (n : Nat) : Problem → Problem
  | emptyQuery => emptyQuery
  | syntaxError position => syntaxError (position + n)
  | reservedKeyword keyword s => reservedKeyword keyword (s.shift n)
  | unknownToken word s => unknownToken word (s.shift n)
  | unknownTable table s => unknownTable table (s.shift n)
  | unknownColumn column table s => unknownColumn column table (s.shift n)
  | typeMismatch expected received s => typeMismatch expected received (s.shift n)
  | countMismatch columns values s => countMismatch columns values (s.shift n)

end Problem

end SqlAnalysis
