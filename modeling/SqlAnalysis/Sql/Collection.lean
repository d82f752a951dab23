import SqlAnalysis.Sql.Literal

/-!
# Collecting the tables and columns of a statement

The visits of a statement are read for five things: the named tables it reads from, every
other table name, the names that queries give to queries of their own, the columns referred
to, and the columns compared with a literal; the first insertion into a named table counts
besides.  From these the tables are put together: columns go to the table that their qualifier
names, or to the only table of the statement.

## Main definitions

* `factors`, `relations`, `queryNames`, `references`, `comparisons`, `insertion?` — what is
  read off the visits.
* `Collection.tables` — the tables, without columns.
* `collect` — the statement as the analysis sees it.
-/

namespace SqlAnalysis.Sql

open Text

/-! ### Reading the visits -/

/-- A column together with the name that qualifies it. -/
structure Reference where
  /-- The name in front of the column. -/
  qualifier : Option String
  /-- The column. -/
  column : String
  deriving DecidableEq, Repr, Inhabited

/-- The column that an expression is.  Of several qualifying names the last one counts. -/
def Expr.reference? : Expr → Option Reference
  | .column path =>
    match path.reverse with
    | [] => none
    | [name] => some ⟨none, name.text⟩
    | name :: qualifier :: _ => some ⟨some qualifier.text, name.text⟩
  | _ => none

/-- A column that is compared with a literal. -/
structure LiteralComparison where
  /-- The column, on the left. -/
  reference : Reference
  /-- The operator. -/
  operator : Comparison
  /-- The literal, on the right. -/
  literal : Literal
  deriving DecidableEq, Repr, Inhabited

/-- The comparison of a column with a literal that an expression is. -/
def Expr.literalComparison? : Expr → Option LiteralComparison
  | .comparison op left right => do
    let reference ← left.reference?
    let literal ← right.literal?
    return ⟨reference, op, literal⟩
  | _ => none

/-- An insertion into a named table. -/
structure Insertion where
  /-- The name of the table. -/
  table : String
  /-- The column list. -/
  columns : List String
  /-- The literals of the first row, if the rows are written down. -/
  values : Option (List (Option Literal))
  deriving DecidableEq, Repr, Inhabited

/-- The insertion into a named table that a part is. -/
def Part.insertion? : Part → Option Insertion
  | .insertion target columns firstRow =>
    (baseName? target).map fun table => ⟨table, columns, firstRow.map (·.map Expr.literal?)⟩
  | _ => none

/-- The first insertion into a named table. -/
def insertion? (visits : List Part) : Option Insertion :=
  visits.findSome? Part.insertion?

/-- The named tables to read from, without columns. -/
def factors (visits : List Part) : List TableUse :=
  visits.filterMap fun
    | .factor name aliasName => (baseName? name).map fun n => ⟨n, aliasName, []⟩
    | _ => none

/-- The table names in the order in which they are met.  The target of the first insertion is
one of them; `inserted` says that it has been met. -/
def relationsFrom : (inserted : Bool) → List Part → List String
  | _, [] => []
  | inserted, .relation name :: vs => (baseName? name).toList ++ relationsFrom inserted vs
  | false, v :: vs =>
    match v.insertion? with
    | some i => i.table :: relationsFrom true vs
    | none => relationsFrom false vs
  | true, _ :: vs => relationsFrom true vs

/-- The table names in the order in which they are met. -/
def relations (visits : List Part) : List String :=
  relationsFrom false visits

/-- The names that queries give to queries of their own. -/
def queryNames (visits : List Part) : List String :=
  visits.flatMap fun
    | .query names => names
    | _ => []

/-- The columns referred to. -/
def references (visits : List Part) : List Reference :=
  visits.filterMap fun
    | .expr e => e.reference?
    | _ => none

/-- The columns compared with a literal. -/
def comparisons (visits : List Part) : List LiteralComparison :=
  visits.filterMap fun
    | .expr e => e.literalComparison?
    | _ => none

/-! ### Putting the tables together -/

namespace Collection

/-- A table name is already accounted for: it is the name or the alias of a table. -/
def mentions (tables : List TableUse) (name : String) : Bool :=
  tables.any fun t => t.name == name || t.aliasName == some name

/-- The tables with one more name, unless it names a query or is accounted for. -/
def addRelation (names : List String) (tables : List TableUse) (name : String) : List TableUse :=
  if names.contains name || mentions tables name then tables else tables ++ [⟨name, none, []⟩]

/-- The tables of a statement, without columns: those it reads from, then the other table
names, each once. -/
def tables (visits : List Part) : List TableUse :=
  let names := queryNames visits
  (relations visits).foldl (addRelation names)
    ((factors visits).filter fun t => !names.contains t.name)

/-- The list with the first element that satisfies `p` changed by `f`. -/
def changeFirst {α : Type} (p : α → Bool) (f : α → α) : List α → List α
  | [] => []
  | a :: as => if p a then f a :: as else a :: changeFirst p f as

/-- The tables with the one that a qualifier names changed by `f`.  A column without qualifier
belongs to the only table; if there are several, to none. -/
def changeOwner (qualifier : Option String) (f : TableUse → TableUse) (tables : List TableUse) :
    List TableUse :=
  match qualifier with
  | some q => changeFirst (·.answersTo q) f tables
  | none =>
    match tables with
    | [t] => [f t]
    | ts => ts

/-- The table with a column that is referred to. -/
def addReference (column : String) (t : TableUse) : TableUse :=
  if (t.column? column).isSome then t
  else { t with columns := t.columns ++ [ColumnUse.reference column] }

/-- The table with a column in place of the one of the same name, or behind the others. -/
def putColumn (t : TableUse) (c : ColumnUse) : TableUse :=
  if (t.column? c.name).isSome then
    { t with columns := changeFirst (·.name == c.name) (fun _ => c) t.columns }
  else { t with columns := t.columns ++ [c] }

/-- A column of the column list of an insertion, with the literal at its place. -/
def listedColumn (name : String) (value : Option Literal) : ColumnUse :=
  ⟨name, .list, none, value.map (·.text), value.map (·.valueType)⟩

/-- The listed columns of an insertion, with the literals of its first row if the row is as
long as the list. -/
def listedColumns (i : Insertion) : List ColumnUse :=
  match i.values.filter fun vs => vs.length == i.columns.length with
  | some vs => List.zipWith listedColumn i.columns vs
  | none => i.columns.map (listedColumn · none)

/-- The tables with the column list of an insertion at its target. -/
def addInsertion (tables : List TableUse) (i : Insertion) : List TableUse :=
  changeFirst (·.name == i.table) (fun t => (listedColumns i).foldl putColumn t) tables

/-- The table with a literal at the first column of the name that has none yet. -/
def addComparison (c : LiteralComparison) (t : TableUse) : TableUse :=
  { t with
    columns := changeFirst (fun col => col.name == c.reference.column && !col.hasValue)
      (fun col =>
        ⟨col.name, .expression, some c.operator.symbol, some c.literal.text,
          some c.literal.valueType⟩)
      t.columns }

/-- The order of names: character by character. -/
def nameLE (a b : String) : Bool :=
  !(decide (b < a))

/-- The shape of an insertion with a column list and a first row. -/
def rowArity? (i : Insertion) : Option RowArity :=
  match i.values with
  | some vs => if i.columns.isEmpty then none else some ⟨i.columns.length, vs.length⟩
  | none => none

/-- The tables with their columns, in the order in which they are met. -/
def filledTables (visits : List Part) : List TableUse :=
  let referred := (references visits).foldl
    (fun ts r => changeOwner r.qualifier (addReference r.column) ts) (tables visits)
  let inserted := match insertion? visits with
    | some i => addInsertion referred i
    | none => referred
  (comparisons visits).foldl
    (fun ts c => changeOwner c.reference.qualifier (addComparison c) ts) inserted

/-- The table with its columns in the order of their names. -/
def sortColumns (t : TableUse) : TableUse :=
  { t with columns := t.columns.mergeSort fun a b => nameLE a.name b.name }

end Collection

/-- The statement of a kind at a place of the query, put together from its visits.  Tables and
columns are in the order of their names. -/
def collect (kind : Statement.Kind) (range : Span) (visits : List Part) : Statement :=
  ⟨kind, range,
    ((Collection.filledTables visits).mergeSort fun a b => Collection.nameLE a.name b.name).map
      Collection.sortColumns,
    (insertion? visits).bind Collection.rowArity?⟩

/-- The statement that an outline describes. -/
def Outline.statement (o : Outline) (range : Span) : Statement :=
  collect o.kind range (visitsAll o.parts)

end SqlAnalysis.Sql
