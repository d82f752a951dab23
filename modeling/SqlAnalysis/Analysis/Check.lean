import SqlAnalysis.Analysis.LiteralSearch
import SqlAnalysis.Analysis.Problem
import SqlAnalysis.Schema.Basic

/-!
# Checking statements against a schema

Statements are checked in order, and in each statement first the shape of an insertion and
then the tables with their columns.  Names and literals are searched for only in the text of
the statement they belong to, and what is not found there is not reported.

## Main definitions

* `Source` — the text of one statement and where it starts.
* `checkColumn`, `checkTable`, `checkStatement` — the first problem of each.
* `checkStatements` — the first problem of a query.
-/

namespace SqlAnalysis

open Text Unicode

/-- The text of one statement and its offset in the query. -/
structure Source where
  /-- The text. -/
  text : String
  /-- The offset of its first byte. -/
  offset : Nat
  deriving DecidableEq, Repr

namespace Source

/-- The source of the part of a query that `range` describes, or the whole query when that is
no part of it. -/
def ofRange (query : String) (range : Span) : Source :=
  match slice? range query.toList with
  | some t => ⟨String.ofList t, range.start⟩
  | none => ⟨query, 0⟩

/-- The first whole word equal to `target`, as a span of the query. -/
def wholeWord (s : Source) (target : String) : Option Span :=
  (firstWholeWord s.text target).map (·.shift s.offset)

/-- The first whole word equal to `target` up to ASCII case, as a span of the query. -/
def wholeWordIgnoreCase (s : Source) (target : String) : Option Span :=
  (firstWholeWordIgnoreCase s.text target).map (·.shift s.offset)

/-- The literal of a column, as a span of the query. -/
def literal (s : Source) (column : ColumnUse) (received : ValueType) : Option Span :=
  (locateLiteral s.text column received).map (·.shift s.offset)

end Source

/-- The problem of an insertion whose first row has not as many values as columns are listed;
it is reported at the word `VALUES`. -/
def checkArity (source : Source) (arity : Option RowArity) : Option Problem := do
  let a ← arity
  if a.agrees then none
  else (source.wholeWordIgnoreCase "VALUES").map (.countMismatch a.columns a.values)

/-- The problem of one column of a table: it does not exist, or its literal does not fit. -/
def checkColumn (source : Source) (table : Schema.Table) (column : ColumnUse) :
    Option Problem :=
  match table.column? column.name with
  | none => (source.wholeWord column.name).map (.unknownColumn column.name table.name)
  | some declared => do
    let received ← column.valueType
    if declared.valueType.accepts received declared.optional then none
    else (source.literal column received).map (.typeMismatch declared.valueType received)

/-- The table that is always there and has no columns of its own. -/
def isDual (name : String) : Bool :=
  eqIgnoreAsciiCase name.toList ['d', 'u', 'a', 'l']

/-- The first problem of a table: it does not exist, or one of its columns has a problem. -/
def checkTable (source : Source) (schema : Schema) (table : TableUse) : Option Problem :=
  if isDual table.name then none
  else
    match schema.table? table.name with
    | none => (source.wholeWord table.name).map (.unknownTable table.name)
    | some declared => table.columns.findSome? (checkColumn source declared)

/-- The first problem of a statement; definitions are not checked. -/
def checkStatement (query : String) (schema : Schema) (statement : Statement) :
    Option Problem :=
  if statement.kind = .ddl then none
  else
    let source := Source.ofRange query statement.range
    (checkArity source statement.rowArity).or
      (statement.tables.findSome? (checkTable source schema))

/-- The first problem of the statements of a query. -/
def checkStatements (query : String) (schema : Schema) (statements : List Statement) :
    Option Problem :=
  statements.findSome? (checkStatement query schema)

end SqlAnalysis
