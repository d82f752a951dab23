import SqlAnalysis.ValueType
import SqlAnalysis.Text.Bytes

/-!
# Parsed statements

What the analysis needs to know of a query: the tables that each statement uses, the columns
attached to them, and the literal that each column is compared with or inserted as.  Any
source of such parses will do; the analysis relies only on the types of this module.

## Main definitions

* `Statement` — one statement of a query.
* `TableUse`, `ColumnUse` — the tables and columns that it mentions.
* `Parse` — the statements of a query, or the place where it stops making sense.
* `Fault` — why there is no parse at all.
* `Frontend` — a source of parses.
-/

namespace SqlAnalysis

open Text

namespace Statement

/-- What a statement does. -/
inductive Kind
  | select | insert | update | delete
  /-- Defines or removes tables and the like. -/
  | ddl
  /-- Lists tables or columns. -/
  | showing
  | use
  /-- Anything else. -/
  | other
  deriving DecidableEq, Repr, Inhabited

/-- The name of a kind. -/
def Kind.label : Kind → String
  | select => "Select"
  | insert => "Insert"
  | update => "Update"
  | delete => "Delete"
  | ddl => "Ddl"
  | showing => "Show"
  | use => "Use"
  | other => "Other"

/-- Where a column is mentioned. -/
inductive Context
  /-- In an expression. -/
  | expression
  /-- In the column list of an insertion. -/
  | list
  deriving DecidableEq, Repr, Inhabited

/-- The name of a context. -/
def Context.label : Context → String
  | expression => "expression"
  | list => "list"

end Statement

/-- A column that a statement mentions. -/
structure ColumnUse where
  /-- The name of the column. -/
  name : String
  /-- Where it is mentioned. -/
  context : Statement.Context
  /-- The comparison operator, as it is written out. -/
  operator : Option String
  /-- The text of the literal it is compared with or inserted as. -/
  value : Option String
  /-- The type of that literal. -/
  valueType : Option ValueType
  deriving DecidableEq, Repr, Inhabited

/-- A column that is only mentioned. -/
def ColumnUse.reference (name : String) : ColumnUse :=
  ⟨name, .expression, none, none, none⟩

/-- The column has a literal. -/
def ColumnUse.hasValue (c : ColumnUse) : Bool :=
  c.valueType.isSome

/-- A table that a statement uses. -/
structure TableUse where
  /-- The name of the table, without the names that qualify it. -/
  name : String
  /-- The name that the statement gives it. -/
  aliasName : Option String
  /-- The columns attached to it. -/
  columns : List ColumnUse
  deriving DecidableEq, Repr, Inhabited

namespace TableUse

/-- A qualifier names this table: it is the alias, or the name when there is no alias. -/
def answersTo (t : TableUse) (qualifier : String) : Bool :=
  match t.aliasName with
  | some a => a == qualifier
  | none => t.name == qualifier

/-- The first column with this name. -/
def column? (t : TableUse) (name : String) : Option ColumnUse :=
  t.columns.find? (·.name == name)

end TableUse

/-- The lengths of the column list of an insertion and of its first row. -/
structure RowArity where
  /-- Number of listed columns. -/
  columns : Nat
  /-- Number of values in the first row. -/
  values : Nat
  deriving DecidableEq, Repr, Inhabited

/-- The two lengths agree. -/
def RowArity.agrees (a : RowArity) : Bool :=
  a.columns == a.values

/-- One statement of a query. -/
structure Statement where
  /-- What it does. -/
  kind : Statement.Kind
  /-- Where it stands in the query. -/
  range : Span
  /-- The tables it uses. -/
  tables : List TableUse
  /-- The shape of an insertion with a column list and at least one row. -/
  rowArity : Option RowArity
  deriving DecidableEq, Repr, Inhabited

/-- Where a query stops making sense. -/
structure SyntaxProblem where
  /-- The text of the offending token; empty when there is none to name. -/
  near : String
  /-- The end of that token, or the offset the problem was found at; none at the end of the
  query. -/
  position : Option Nat
  deriving DecidableEq, Repr, Inhabited

/-- The outcome of parsing a query. -/
inductive Parse
  /-- The query is a sequence of statements. -/
  | parsed (statements : List Statement)
  /-- The query is rejected. -/
  | rejected (problem : SyntaxProblem)
  deriving DecidableEq, Repr, Inhabited

namespace Parse

/-- The statements of a query; a rejected query has none. -/
def statements : Parse → List Statement
  | parsed ss => ss
  | rejected _ => []

/-- The tables of all statements, in order. -/
def tables (p : Parse) : List TableUse :=
  p.statements.flatMap (·.tables)

end Parse

/-- Why there is no parse of a query.  A fault says nothing about the query being wrong. -/
inductive Fault
  /-- The parser gave up in the middle of its work. -/
  | panicked (message : String)
  /-- The query is nested too deeply. -/
  | recursionLimit
  /-- The query has `length` bytes and only `limit` are accepted. -/
  | tooLarge (length limit : Nat)
  deriving DecidableEq, Repr, Inhabited

/-- The text of a fault. -/
def Fault.message : Fault → String
  | panicked m => "Parser panicked: " ++ m
  | recursionLimit => "Parser recursion limit exceeded"
  | tooLarge length limit =>
    "Query of " ++ toString length ++ " bytes exceeds the " ++ toString limit ++ " byte limit"

/-- A source of parses. -/
abbrev Frontend := String → Except Fault Parse

end SqlAnalysis
