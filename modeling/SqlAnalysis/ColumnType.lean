import SqlAnalysis.ValueType

/-!
# Column types

The declared type of a column, as a schema writes it: `varchar(255)`, `INT UNSIGNED`,
`enum('a','b')`.  A label is read leniently.  Its first word decides the type, in any case;
of the parenthesised part the first entry is a width, or every entry is a member; what
follows is ignored.  A label that names no known type is kept as it is.

## Main definitions

* `ColumnType` — the parsed form of a label.
* `ColumnType.ofLabel`, `ColumnType.label` — reading and writing labels.
* `ColumnType.valueType` — the type that values of such a column have.
-/

namespace SqlAnalysis

open Text Unicode

namespace ColumnType

/-- Types that may be followed by a width. -/
inductive Sized
  | tinyInt | smallInt | mediumInt | int | integer | bigInt | decimal | numeric | char | varChar
  | bit | binary | varBinary
  deriving DecidableEq, Repr, Inhabited

/-- Types without parameters. -/
inductive Plain
  | float | double | year | tinyText | text | mediumText | longText | time | geometry | tinyBlob
  | blob | mediumBlob | longBlob | json | date | dateTime | timestamp
  deriving DecidableEq, Repr, Inhabited

/-- Types that list their members. -/
inductive Choice
  | enum | set
  deriving DecidableEq, Repr, Inhabited

/-- The name of a type with a width. -/
def Sized.name : Sized → String
  | tinyInt => "tinyint"
  | smallInt => "smallint"
  | mediumInt => "mediumint"
  | int => "int"
  | integer => "integer"
  | bigInt => "bigint"
  | decimal => "decimal"
  | numeric => "numeric"
  | char => "char"
  | varChar => "varchar"
  | bit => "bit"
  | binary => "binary"
  | varBinary => "varbinary"

/-- Every type with a width. -/
def Sized.all : List Sized :=
  [tinyInt, smallInt, mediumInt, int, integer, bigInt, decimal, numeric, char, varChar, bit,
   binary, varBinary]

/-- The values of a type with a width. -/
def Sized.valueType : Sized → ValueType
  | tinyInt => .boolean
  | smallInt | mediumInt | int | integer | bigInt | decimal | numeric => .number
  | char | varChar | bit | binary | varBinary => .string

/-- The name of a type without parameters. -/
def Plain.name : Plain → String
  | float => "float"
  | double => "double"
  | year => "year"
  | tinyText => "tinytext"
  | text => "text"
  | mediumText => "mediumtext"
  | longText => "longtext"
  | time => "time"
  | geometry => "geometry"
  | tinyBlob => "tinyblob"
  | blob => "blob"
  | mediumBlob => "mediumblob"
  | longBlob => "longblob"
  | json => "json"
  | date => "date"
  | dateTime => "datetime"
  | timestamp => "timestamp"

/-- Every type without parameters. -/
def Plain.all : List Plain :=
  [float, double, year, tinyText, text, mediumText, longText, time, geometry, tinyBlob, blob,
   mediumBlob, longBlob, json, date, dateTime, timestamp]

/-- The values of a type without parameters. -/
def Plain.valueType : Plain → ValueType
  | float | double | year => .number
  | tinyText | text | mediumText | longText | time | geometry | tinyBlob | blob | mediumBlob
  | longBlob => .string
  | json => .object
  | date | dateTime | timestamp => .date

/-- The name of a type with members. -/
def Choice.name : Choice → String
  | enum => "enum"
  | set => "set"

/-- Every type with members. -/
def Choice.all : List Choice :=
  [enum, set]

end ColumnType

/-- The declared type of a column. -/
inductive ColumnType
  /-- A type with an optional width. -/
  | sized (kind : ColumnType.Sized) (width : Option Nat)
  /-- A type without parameters. -/
  | plain (kind : ColumnType.Plain)
  /-- A type with a list of members. -/
  | choice (kind : ColumnType.Choice) (members : List String)
  /-- A label that names no known type, without the blanks around it. -/
  | other (label : String)
  deriving DecidableEq, Repr, Inhabited

namespace ColumnType

/-- The values that a column of this type holds. -/
def valueType : ColumnType → ValueType
  | sized kind _ => kind.valueType
  | plain kind => kind.valueType
  | choice _ _ => .string
  | other _ => .any

/-! ### Writing labels -/

/-- A label in normal form: lower case, the width without blanks, members between single
quotes and separated by commas. -/
def label : ColumnType → String
  | sized kind none => kind.name
  | sized kind (some width) => kind.name ++ "(" ++ toString width ++ ")"
  | plain kind => kind.name
  | choice kind members =>
    kind.name ++ "(" ++ ",".intercalate (members.map fun m => "'" ++ m ++ "'") ++ ")"
  | other l => l

/-! ### Reading labels -/

/-- The first word of a text, empty if there is none. -/
def firstWord (t : List Char) : List Char :=
  (t.dropWhile isBlank).takeWhile (!isBlank ·)

/-- The part of a label that names the type, and what its parentheses hold.  They reach from
the first opening to the last closing one, or to the end when none closes. -/
def parts (t : List Char) : List Char × List Char :=
  match cutFirst? '(' t with
  | none => (t, [])
  | some (base, rest) =>
    match cutLast? ')' rest with
    | some (args, _) => (base, args)
    | none => (base, rest)

/-- The width that the parentheses hold: their first entry, if it is a number. -/
def width? (args : List Char) : Option Nat :=
  (splitAt ',' args).head?.bind fun w => decimal? (trim w)

/-- The members that the parentheses hold: their entries without the blanks and quotes around
them, empty ones left out. -/
def members (args : List Char) : List String :=
  (splitAt ',' args).map (fun m => trimMatching (fun c => c = '\'' || c = '"') (trim m))
    |>.filter (!·.isEmpty)
    |>.map String.ofList

/-- The type that a label names. -/
def ofLabel (l : String) : ColumnType :=
  let t := trim l.toList
  let (base, args) := parts t
  let name := String.ofList (asciiLower (firstWord base))
  match Sized.all.find? (·.name == name) with
  | some kind => sized kind (width? args)
  | none =>
    match Plain.all.find? (·.name == name) with
    | some kind => plain kind
    | none =>
      match Choice.all.find? (·.name == name) with
      | some kind => choice kind (members args)
      | none => other (String.ofList t)

end ColumnType

/-- The type of the values of a column with this label. -/
def valueTypeOfLabel (l : String) : ValueType :=
  (ColumnType.ofLabel l).valueType

end SqlAnalysis
