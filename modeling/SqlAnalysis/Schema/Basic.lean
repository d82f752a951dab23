import SqlAnalysis.ColumnType
import Std.Data.HashMap

/-!
# Schemas

The catalog that queries are checked against: tables with their columns, in declaration order.
Names are looked up exactly.  When a name is declared twice the first declaration answers,
through an index from names to positions that is filled once.

## Main definitions

* `Schema.Column`, `Schema.Table` — what a schema declares.
* `Schema.ofTables`, `Schema.table?` — the catalog and its lookup.
* `Schema.Table.column?` — the lookup of a column.
-/

namespace SqlAnalysis

namespace Schema

/-- A column as declared in the schema. -/
structure Column where
  /-- The name of the column. -/
  name : String
  /-- The declared type, as the schema writes it. -/
  sqlType : String
  /-- The type its values are expected to have. -/
  valueType : ValueType
  /-- The column takes missing values too. -/
  optional : Bool
  deriving DecidableEq, Repr, Inhabited

/-- A column whose value type follows from its declared type. -/
def Column.ofSqlType (name sqlType : String) (optional : Bool) : Column :=
  ⟨name, sqlType, valueTypeOfLabel sqlType, optional⟩

/-- A table as declared in the schema. -/
structure Table where
  /-- The name of the table. -/
  name : String
  /-- Its columns, in declaration order. -/
  columns : List Column
  deriving DecidableEq, Repr, Inhabited

/-- The first column with exactly this name. -/
def Table.column? (t : Table) (name : String) : Option Column :=
  t.columns.find? (·.name == name)

/-- The names of the columns, in declaration order. -/
def Table.columnNames (t : Table) : List String :=
  t.columns.map (·.name)

/-- Adds the tables that stand at the positions from `i` on to an index; a name that is there
already keeps its position. -/
def indexFrom (i : Nat) (index : Std.HashMap String Nat) : List Table → Std.HashMap String Nat
  | [] => index
  | t :: ts => indexFrom (i + 1) (index.insertIfNew t.name i) ts

end Schema

/-- All known tables, with an index from names to positions. -/
structure Schema where
  /-- The tables in declaration order, duplicates included. -/
  tables : List Schema.Table
  /-- The first position of each name. -/
  index : Std.HashMap String Nat
  /-- The index is the one that the tables are found by. -/
  index_eq : index = Schema.indexFrom 0 ∅ tables

namespace Schema

/-- The schema that declares the given tables. -/
def ofTables (tables : List Table) : Schema :=
  ⟨tables, indexFrom 0 ∅ tables, rfl⟩

instance : Inhabited Schema := ⟨ofTables []⟩

/-- The first table with exactly this name. -/
def table? (s : Schema) (name : String) : Option Table :=
  s.index[name]?.bind fun i => s.tables[i]?

/-- The names of the tables in declaration order, duplicates included. -/
def tableNames (s : Schema) : List String :=
  s.tables.map (·.name)

@[simp] theorem tables_ofTables (ts : List Table) : (ofTables ts).tables = ts := rfl

end Schema

end SqlAnalysis
