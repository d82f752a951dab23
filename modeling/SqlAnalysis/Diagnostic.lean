import SqlAnalysis.Analysis.Analyze
import SqlAnalysis.Suggestion
import SqlAnalysis.Json.Basic

/-!
# Diagnostics

A problem in the words of its reader: a message with, where a name or a word is not known, the
name that may have been meant, and the part of the query to underline.

## Main definitions

* `Diagnostic` — what is shown to the reader.
* `Diagnostic.ofProblem` — the diagnostic of a problem.
* `diagnose` — the diagnostics of a query, at most one.
-/

namespace SqlAnalysis

open Text

/-- How bad a diagnostic is. -/
inductive Severity
  /-- The query cannot work. -/
  | error
  /-- The query does not fit the known schema. -/
  | warning
  deriving DecidableEq, Repr, Inhabited

/-- The name of a severity. -/
def Severity.label : Severity → String
  | error => "error"
  | warning => "warning"

/-- A problem as it is shown to the reader. -/
structure Diagnostic where
  /-- How bad it is. -/
  severity : Severity
  /-- What is wrong, in a sentence. -/
  message : String
  /-- The byte offset to underline from; `-1` is the delimiter in front of an empty query. -/
  start : Int
  /-- The number of bytes to underline. -/
  length : Nat
  /-- The number of the kind of problem. -/
  code : Nat
  deriving DecidableEq, Repr, Inhabited

/-- The question whether a correction was meant. -/
def didYouMean : Option String → String
  | some c => " Did you mean '" ++ c ++ "'?"
  | none => ""

/-- The names that a word could have been meant as: keywords for a word that is not understood,
tables for a table, the columns of its table for a column. -/
def Problem.pool (schema : Option Schema) : Problem → List String
  | .unknownToken _ _ => keywords
  | .unknownTable _ _ => (schema.map Schema.tableNames).getD []
  | .unknownColumn _ table _ =>
    ((schema.bind (·.table? table)).map Schema.Table.columnNames).getD []
  | _ => []

namespace Diagnostic

/-- The severity of a problem: what depends on the schema alone is a warning. -/
def severityOf : Problem → Severity
  | .unknownTable _ _ | .unknownColumn _ _ _ | .typeMismatch _ _ _ => .warning
  | _ => .error

/-- The message of a problem. -/
def messageOf (schema : Option Schema) (database : Option String) (p : Problem) : String :=
  match p with
  | .emptyQuery => "Empty MySQL query."
  | .syntaxError _ => "MySQL Syntax Error."
  | .reservedKeyword keyword _ =>
    "MySQL Syntax Error. The problem is near the word '" ++ keyword ++ "', which is a "
      ++ "reserved keyword. Are you missing a semicolon? Did you forget to backtick "
      ++ "a column name?"
  | .unknownToken word _ =>
    "MySQL Syntax Error. Unidentified word '" ++ word ++ "'."
      ++ didYouMean (correction word (p.pool schema))
  | .unknownTable table _ =>
    let place := match database with
      | some d => " in database '" ++ d ++ "'"
      | none => ""
    "Table '" ++ table ++ "' does not exist" ++ place ++ "."
      ++ didYouMean (correction table (p.pool schema))
  | .unknownColumn column table _ =>
    "Column '" ++ column ++ "' does not exist in table '" ++ table ++ "'."
      ++ didYouMean (correction column (p.pool schema))
  | .typeMismatch expected received _ =>
    "Type " ++ received.label ++ " is not assignable to type " ++ expected.label
  | .countMismatch _ _ _ => "Column count does not match row count."

/-- An offset as a signed number of 64 bits: from half of the limit on it counts as
negative. -/
def signedOffset (n : Nat) : Int :=
  Int.bmod n numberLimit

/-- The part of the query to underline: the span of the problem, the whole query when it has
none, and the delimiters around an empty query. -/
def underline (query : String) (p : Problem) : Int × Nat :=
  match p, p.span? with
  | .emptyQuery, _ => (-1, 2)
  | _, some s => (signedOffset s.start, s.stop - s.start)
  | _, none => (0, byteLength query.toList)

/-- The diagnostic of a problem of a query. -/
def ofProblem (schema : Option Schema) (database : Option String) (query : String)
    (p : Problem) : Diagnostic :=
  let (start, length) := underline query p
  ⟨severityOf p, messageOf schema database p, start, length, p.code⟩

/-- The JSON value that a diagnostic is written as. -/
def toJson (d : Diagnostic) : Json :=
  .record [("severity", .text d.severity.label), ("message", .text d.message),
    ("start", .int d.start), ("length", .nat d.length), ("code", .nat d.code)]

/-- The line that a diagnostic is printed as. -/
def line (d : Diagnostic) : String :=
  d.severity.label ++ " [" ++ toString d.code ++ "] " ++ toString d.start ++ "+"
    ++ toString d.length ++ ": " ++ d.message

end Diagnostic

/-- The diagnostics of a query with the given parse: none, or the one of its problem. -/
def diagnose (query : String) (schema : Option Schema) (database : Option String)
    (parse : Option Parse) : List Diagnostic :=
  ((analyze query schema parse).map (Diagnostic.ofProblem schema database query)).toList

end SqlAnalysis
