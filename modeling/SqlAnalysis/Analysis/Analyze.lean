import SqlAnalysis.Analysis.Check
import SqlAnalysis.Keyword
import SqlAnalysis.Text.Split

/-!
# Analysing a query

A blank query is empty; a query that is rejected has a syntax problem, whatever the schema;
and a query that has a parse is checked against the schema, if there is one.  Without a parse
nothing is wrong.

## Main definitions

* `classify` — the problem of a query that is rejected.
* `analyzeParse` — the problem of a query with a given parse.
* `analyze` — the problem of a query.
-/

namespace SqlAnalysis

open Text

/-- The word to blame for a rejected query, with its end.  Without a named token it is the word
that touches the position. -/
def blamedWord? (query : String) (problem : SyntaxProblem) : Option (String × Nat) := do
  let position ← problem.position
  if problem.near.isEmpty then (locate position query).map fun w => (w.text, w.stop)
  else some (problem.near, position)

/-- The problem of a query that is rejected: at a keyword, at another word, or at a place where
there is no word. -/
def classify (query : String) (problem : SyntaxProblem) : Problem :=
  match blamedWord? query problem with
  | none => .syntaxError (problem.position.getD (byteLength query.toList))
  | some (word, stop) =>
    let span : Span := ⟨stop - byteLength word.toList, stop⟩
    if isKeyword word then .reservedKeyword word span else .unknownToken word span

/-- The query holds nothing but blanks. -/
def isBlankQuery (query : String) : Bool :=
  query.toList.all Unicode.isBlank

/-- The problem of a query with the given parse, if there is one. -/
def analyzeParse (query : String) (schema : Option Schema) : Option Parse → Option Problem
  | none => none
  | some (.rejected problem) => some (classify query problem)
  | some (.parsed statements) => schema.bind fun s => checkStatements query s statements

/-- The problem of a query, if there is one.  `parse` is not looked at when the query is
blank. -/
def analyze (query : String) (schema : Option Schema) (parse : Option Parse) : Option Problem :=
  if isBlankQuery query then some .emptyQuery else analyzeParse query schema parse

end SqlAnalysis
