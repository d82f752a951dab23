import SqlAnalysis.Schema.Basic
import SqlAnalysis.Statement.Basic
import SqlAnalysis.Keyword
import SqlAnalysis.Json.Basic

/-!
# Completion

What can be written next in a query: the tables of the schema, the columns of the tables that
the query uses already, and the keywords, in this order.

## Main definitions

* `Completion` — one entry.
* `completions` — all entries for a query.
-/

namespace SqlAnalysis

open Unicode

/-- One entry of a completion list. -/
inductive Completion
  /-- A keyword. -/
  | keyword (name : String)
  /-- A table of the schema. -/
  | table (name : String)
  /-- A column of a table that the query uses. -/
  | column (table name : String) (valueType : ValueType)
  deriving DecidableEq, Repr, Inhabited

namespace Completion

/-- The text that is inserted. -/
def name : Completion → String
  | keyword n => n
  | table n => n
  | column _ n _ => n

/-- The entry as it is shown; columns with their table. -/
def display : Completion → String
  | keyword n => n
  | table n => n
  | column t n _ => t ++ "." ++ n

/-- The key that entries are ordered by; keywords in lower case. -/
def sortText : Completion → String
  | keyword n => String.ofList (lower n.toList)
  | table n => n
  | column _ n _ => n

/-- The JSON value that an entry is written as. -/
def toJson (c : Completion) : Json :=
  let own : List (String × Json) := match c with
    | keyword n => [("kind", .text "keyword"), ("name", .text n)]
    | table n => [("kind", .text "table"), ("name", .text n)]
    | column t n type =>
      [("kind", .text "column"), ("table", .text t), ("name", .text n),
       ("tsType", .text type.label)]
  .record (own ++ [("sortText", .text c.sortText)])

end Completion

/-- The elements of a list that are not among those before them, `seen` included. -/
def firstMentions (seen : List String) : List String → List String
  | [] => []
  | n :: ns => if n ∈ seen then firstMentions seen ns else n :: firstMentions (n :: seen) ns

/-- The tables of the schema that a parse uses, in order of first mention. -/
def referencedTables (schema : Schema) (parse : Parse) : List Schema.Table :=
  (firstMentions [] (parse.tables.map (·.name))).filterMap schema.table?

/-- The entries for the columns of a table. -/
def columnCompletions (t : Schema.Table) : List Completion :=
  t.columns.map fun c => .column t.name c.name c.valueType

/-- All entries for a query with the given schema and parse. -/
def completions (schema : Option Schema) (parse : Option Parse) : List Completion :=
  let tables := (schema.map Schema.tableNames).getD []
  let columns := match schema, parse with
    | some s, some p => (referencedTables s p).flatMap columnCompletions
    | _, _ => []
  tables.map .table ++ columns ++ keywords.map .keyword

end SqlAnalysis
