import SqlAnalysis.Text.Split
import SqlAnalysis.Unicode.Case

/-!
# Value types

The type of a literal in a query, and the type that values of a column are expected to have.

## Main definitions

* `ValueType` — the seven types.
* `ValueType.label`, `ValueType.ofLabel`, `ValueType.ofExactLabel` — their names.
* `ValueType.accepts` — whether a value of one type may be stored as another.
-/

namespace SqlAnalysis

open Text Unicode

/-- The type of a literal or of a column's values. -/
inductive ValueType
  /-- Text. -/
  | string
  /-- A number of any width. -/
  | number
  /-- A truth value. -/
  | boolean
  /-- A date, with or without a time. -/
  | date
  /-- The missing value. -/
  | null
  /-- A structured document. -/
  | object
  /-- Unknown; as the type of a column it accepts everything. -/
  | any
  deriving DecidableEq, Repr, Inhabited

namespace ValueType

/-- The name of a type. -/
def label : ValueType → String
  | string => "string"
  | number => "number"
  | boolean => "boolean"
  | date => "date"
  | null => "null"
  | object => "object"
  | any => "any"

/-- Every type that a label can name. -/
def named : List ValueType :=
  [string, number, boolean, date, null, object]

/-- The type with exactly this label; every other label stands for `any`. -/
def ofExactLabel (l : String) : ValueType :=
  (named.find? (·.label == l)).getD any

/-- The type with this label, blanks around it and ASCII case ignored. -/
def ofLabel (l : String) : ValueType :=
  ofExactLabel (String.ofList (asciiLower (trim l.toList)))

/-- A literal of type `received` may be stored in a column of this type.  Columns that are
`nullable` take the missing value too. -/
def accepts (expected received : ValueType) (nullable : Bool) : Bool :=
  expected == any || expected == received || (received == null && nullable)

end ValueType

end SqlAnalysis
