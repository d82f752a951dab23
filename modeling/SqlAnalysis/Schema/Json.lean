import SqlAnalysis.Schema.Basic
import SqlAnalysis.Json.Reader

/-!
# Schemas as JSON

A schema file holds an array of tables.  Tables and columns are objects, in which unknown
members are ignored and known ones may stand only once, or arrays that list their fields in
order.  The columns of a table may be left out, and so may a column's declared type, value
type and optional flag; a missing or null value type follows from the declared type.

## Main definitions

* `Schema.LoadError` — why a schema cannot be loaded.
* `Schema.readTables?` — the tables that a JSON value describes.
* `Schema.loadText` — the tables that a schema file describes.
* `Schema.writeTables` — the JSON value that a list of tables is written as.
-/

namespace SqlAnalysis

namespace Schema

/-- Why a schema cannot be loaded. -/
inductive LoadError
  /-- There is no such file. -/
  | missingFile
  /-- The text is no JSON, or JSON of another shape. -/
  | malformed
  /-- A table with the given number of columns has an empty name. -/
  | namelessTable (columns : Nat)
  /-- The source of the schema refuses to give one. -/
  | unavailable
  deriving DecidableEq, Repr, Inhabited

/-- The text of an error that is the schema's own fault. -/
def LoadError.message : LoadError → String
  | missingFile => "I/O error"
  | malformed => "JSON error"
  | namelessTable columns =>
    "Schema error: table with " ++ toString columns ++ " columns has no name"
  | unavailable => "Schema error: unavailable"

/-! ### Reading -/

/-- The value of a member that may stand at most once; `none` when it stands twice, or when
some key cannot be read. -/
def member? (members : List (Option String × Json)) (key : String) : Option (Option Json) :=
  match members.filter (·.1 == some key) with
  | [] => some none
  | [(_, v)] => some (some v)
  | _ => none

/-- Every key of an object can be read. -/
def keysReadable (members : List (Option String × Json)) : Bool :=
  members.all (·.1.isSome)

/-- A string. -/
def readText? : Json → Option String
  | .string s => s
  | _ => none

/-- A truth value. -/
def readBool? : Json → Option Bool
  | .bool b => some b
  | _ => none

/-- A value type: its label, or an object whose only member is the label with a null value.
Unknown labels stand for `any`. -/
def readValueType? : Json → Option ValueType
  | .string s => s.map ValueType.ofExactLabel
  | .object [(k, .null)] => k.map ValueType.ofExactLabel
  | _ => none

/-- A value type that may be null. -/
def readOptionalValueType? : Json → Option (Option ValueType)
  | .null => some none
  | v => (readValueType? v).map some

/-- The column with these fields; without a value type, that of the declared type. -/
def columnOfFields (name sqlType : String) (valueType : Option ValueType) (optional : Bool) :
    Column :=
  ⟨name, sqlType, valueType.getD (valueTypeOfLabel sqlType), optional⟩

/-- The column that a JSON value describes. -/
def readColumn? : Json → Option Column
  | .object ms => do
    guard (keysReadable ms)
    let name ← (← member? ms "name").bind readText?
    let sqlType ← ((← member? ms "sqlType").map readText?).getD (some "")
    let valueType ← ((← member? ms "tsType").map readOptionalValueType?).getD (some none)
    let optional ← ((← member? ms "optional").map readBool?).getD (some false)
    some (columnOfFields name sqlType valueType optional)
  | .array [name, sqlType, valueType] => do
    some (columnOfFields (← readText? name) (← readText? sqlType)
      (← readOptionalValueType? valueType) false)
  | .array [name, sqlType, valueType, optional] => do
    some (columnOfFields (← readText? name) (← readText? sqlType)
      (← readOptionalValueType? valueType) (← readBool? optional))
  | _ => none

/-- The columns that a JSON array describes. -/
def readColumns? : Json → Option (List Column)
  | .array items => items.mapM readColumn?
  | _ => none

/-- The table that a JSON value describes. -/
def readTable? : Json → Option Table
  | .object ms => do
    guard (keysReadable ms)
    let name ← (← member? ms "name").bind readText?
    let columns ← ((← member? ms "columns").map readColumns?).getD (some [])
    some ⟨name, columns⟩
  | .array [name] => do some ⟨← readText? name, []⟩
  | .array [name, columns] => do some ⟨← readText? name, ← readColumns? columns⟩
  | _ => none

/-- The tables that a JSON array describes. -/
def readTables? : Json → Option (List Table)
  | .array items => items.mapM readTable?
  | _ => none

/-- The tables themselves, unless one of them has an empty name. -/
def checkNames (tables : List Table) : Except LoadError (List Table) :=
  match tables.find? (·.name.isEmpty) with
  | some t => .error (.namelessTable t.columns.length)
  | none => .ok tables

/-- The tables that a JSON value describes, every one with a name. -/
def loadJson (v : Json) : Except LoadError (List Table) :=
  match readTables? v with
  | some tables => checkNames tables
  | none => .error .malformed

/-- The tables that a schema file describes; `none` stands for a file that does not exist. -/
def loadText : Option String → Except LoadError (List Table)
  | none => .error .missingFile
  | some s =>
    match Json.parse? s with
    | some v => loadJson v
    | none => .error .malformed

/-! ### Writing -/

/-- The JSON value that a column is written as. -/
def writeColumn (c : Column) : Json :=
  .record [("name", .text c.name), ("sqlType", .text c.sqlType),
    ("tsType", .text c.valueType.label), ("optional", .bool c.optional)]

/-- The JSON value that a table is written as. -/
def writeTable (t : Table) : Json :=
  .record [("name", .text t.name), ("columns", .array (t.columns.map writeColumn))]

/-- The JSON value that a list of tables is written as. -/
def writeTables (ts : List Table) : Json :=
  .array (ts.map writeTable)

end Schema

end SqlAnalysis
