import SqlAnalysis.Sql.Grammar.Value
import SqlAnalysis.Sql.Vocabulary

/-!
# Data types

A data type is a known name with its own arguments, or any other name, with words, numbers and
texts between brackets behind it.  Only three classes of types matter later: intervals, the
other known types, and names.  How a type is written out shows in one message, about a closing
angle bracket too many: two of them next to each other are a single token.

## Main definitions

* `literalText` — a text, or a word without a meaning of its own.
* `openType` — a data type, perhaps with a closing angle bracket too many.
* `dataType` — a data type.
-/

namespace SqlAnalysis.Sql.Grammar

/-- A text between quotes, or a word without a meaning of its own. -/
def literalText : Rule String := do
  let found ← next
  match found.map Item.token with
  | some (.text _ s) => return s
  | some (.word t quoted) =>
    if (Token.word t quoted).isPlainWord then return t else expected "literal string" found
  | _ => expected "literal string" found

namespace DataType

/-! ### Arguments -/

/-- An argument between brackets as it is written out. -/
def parenthesized (s : String) : String :=
  "(" ++ s ++ ")"

/-- What `rule` reads between brackets, if a bracket comes next, as it is written out. -/
def optional (rule : Rule String) : Rule String := do
  if ← symbol? "(" then
    let s ← rule
    symbol ")"
    return parenthesized s
  else return ""

/-- A number between brackets, if a bracket comes next. -/
def precision : Rule String :=
  optional unsigned

/-- A whole number with an optional sign. -/
def signed : Rule String := do
  let minus ← symbol? "-"
  unless minus do discard <| symbol? "+"
  let found ← peek
  match found.map Item.token with
  | some (.number t _) =>
    advance
    checkNumber (Text.numberLimit / 2) "i64" t found
    return if minus then "-" ++ t else t
  | _ => expectedHere "number"

/-- The number of digits and of decimals, if a bracket comes next. -/
def precisionAndScale : Rule String := optional do
  let digits ← unsigned
  if ← symbol? "," then return digits ++ "," ++ (← signed) else return digits

/-- Two numbers between brackets, if a bracket comes next. -/
def twoPrecisions : Rule Unit := do
  discard <| optional do
    let first ← unsigned
    if ← symbol? "," then unsigned else return first

/-- The length of a text, if a bracket comes next. -/
def characterLength : Rule String := optional do
  if ← keyword? "MAX" then return "MAX"
  let length ← unsigned
  match ← oneOf? ["CHARACTERS", "OCTETS"] with
  | some unit => return length ++ " " ++ unit
  | none => return length

/-- The length of a string of bytes, if a bracket comes next. -/
def binaryLength : Rule String := optional do
  if ← keyword? "MAX" then return "MAX" else unsigned

/-- The words `ks` as they are written out behind something, if they come next. -/
def suffix (ks : List String) : Rule String := do
  if ← keywords? ks then return " " ++ " ".intercalate ks else return ""

/-- The sign of a whole number type; only that of unsigned ones is written out. -/
def sign : Rule String := do
  let s ← suffix ["UNSIGNED"]
  if s.isEmpty then discard <| keyword? "SIGNED"
  return s

/-- Whether a time has a zone. -/
def timeZone : Rule String := do
  match ← oneOf? ["WITH", "WITHOUT"] with
  | some k =>
    keywords ["TIME", "ZONE"]
    return " " ++ k ++ " TIME ZONE"
  | none => return ""

/-- A text between single quotes; the quotes inside it are doubled. -/
def quoted (s : String) : String :=
  String.ofList (Ident.written ⟨s, some '\''⟩)

/-- A member of an enumeration, perhaps with its number. -/
def enumMember : Rule String := do
  let s ← literalText
  if ← symbol? "=" then return quoted s ++ " = " ++ (← number) else return quoted s

/-- The members of an enumeration. -/
def members : Rule String := do
  return parenthesized (", ".intercalate (← bracketed (commaSeparated enumMember)))

/-- A member of a set and whether another one follows. -/
def setMember? : Rule (String × Bool) := do
  let found ← next
  match found.map Item.token with
  | some (.text '\'' s) =>
    let found ← next
    match found.map Item.token with
    | some (.symbol ",") => return (quoted s, true)
    | some (.symbol ")") => return (quoted s, false)
    | _ => expected ", or \x7d" found
  | _ => expected "a string" found

/-- The members of a set. -/
def setMembers : Rule String := do
  symbol "("
  let before ← collect do
    let start ← get
    match ← setMember? with
    | (s, true) => return some s
    | (_, false) =>
      set start
      return none
  let (last, _) ← setMember?
  return parenthesized (", ".intercalate (before ++ [last]))

/-- The arguments of a type that is known by name only. -/
def modifiers : Rule String := do
  if ← symbol? "(" then
    let found ← collect do
      let found ← next
      match found.map Item.token with
      | some (.word ..) => return some (some (shown found))
      | some (.number s _) | some (.text '\'' s) => return some (some s)
      | some (.symbol ",") => return some none
      | some (.symbol ")") => return none
      | _ => expected "type modifiers" found
    match found.filterMap id with
    | [] => return ""
    | ms => return parenthesized (", ".intercalate ms)
  else return ""

/-- A number of digits, perhaps with the name of a time zone behind it. -/
def zonedPrecision : Rule String := bracketed do
  let digits ← unsigned
  if ← symbol? "," then return parenthesized (digits ++ ", '" ++ (← literalText) ++ "'")
  else return parenthesized digits

/-! ### Known types -/

/-- Whole number types whose sign may be written out behind them. -/
def wholeNumbers : List String :=
  ["TINYINT", "SMALLINT", "MEDIUMINT", "INT", "INTEGER", "BIGINT"]

/-- Whole number types that can only be unsigned. -/
def otherWholeNumbers : List String :=
  ["INT2", "INT4", "INT8"]

/-- Types with one optional number. -/
def withPrecision : List String :=
  ["CLOB", "BINARY", "BLOB", "BYTES", "DATETIME", "TIMESTAMPTZ", "TIMETZ", "STRING", "VARBIT"]

/-- Types with an optional length. -/
def withLength : List String :=
  ["VARCHAR", "NVARCHAR"]

/-- Decimal types. -/
def decimals : List String :=
  ["NUMERIC", "BIGNUMERIC", "BIGDECIMAL"]

/-- Decimal types that can be unsigned. -/
def unsignedDecimals : List String :=
  ["DECIMAL", "DEC", "FLOAT"]

/-- Types without arguments that are written out as they are named. -/
def plain : List String :=
  ["BOOLEAN", "BOOL", "FLOAT4", "FLOAT8", "FLOAT64", "UUID", "DATE", "JSON", "JSONB", "REGCLASS",
   "TEXT", "TINYTEXT", "MEDIUMTEXT", "LONGTEXT", "TINYBLOB", "MEDIUMBLOB", "LONGBLOB", "BYTEA",
   "TRIGGER", "INT64", "HUGEINT", "UHUGEINT", "UTINYINT", "USMALLINT", "UBIGINT",
   "TIMESTAMP_NTZ"]

/-- Types without arguments, with the way in which they are written out. -/
def renamed : List (String × String) :=
  [("FLOAT32", "Float32"), ("DATE32", "Date32"), ("INT16", "Int16"), ("INT32", "Int32"),
   ("INT128", "Int128"), ("INT256", "Int256"), ("UINT8", "UInt8"), ("UINT16", "UInt16"),
   ("UINT32", "UInt32"), ("UINT64", "UInt64"), ("UINT128", "UInt128"), ("UINT256", "UInt256")]

/-- What is written behind the name of a known type without types inside it; nothing if the type
is none of these. -/
def arguments? (k : String) : Option (Rule String) :=
  if wholeNumbers.contains k then some do return (← precision) ++ (← sign)
  else if otherWholeNumbers.contains k then
    some do return (← precision) ++ (← suffix ["UNSIGNED"])
  else if withPrecision.contains k then some precision
  else if withLength.contains k then some characterLength
  else if decimals.contains k then some precisionAndScale
  else if unsignedDecimals.contains k then
    some do return (← precisionAndScale) ++ (← suffix ["UNSIGNED"])
  else
    match k with
    | "REAL" => some (suffix ["UNSIGNED"])
    | "DOUBLE" => some do
      let precise ← suffix ["PRECISION"]
      let digits ← if precise.isEmpty then precisionAndScale else pure precise
      return digits ++ (← suffix ["UNSIGNED"])
    | "CHAR" | "CHARACTER" => some do
      if ← keyword? "VARYING" then return " VARYING" ++ (← characterLength)
      if ← keywords? ["LARGE", "OBJECT"] then return " LARGE OBJECT" ++ (← precision)
      characterLength
    | "VARBINARY" => some binaryLength
    | "BIT" => some do return (← suffix ["VARYING"]) ++ (← precision)
    | "TIMESTAMP" | "TIME" => some do return (← precision) ++ (← timeZone)
    | "FIXEDSTRING" => some (parenthesized <$> bracketed unsigned)
    | "DATETIME64" => some zonedPrecision
    | "ENUM" | "ENUM8" | "ENUM16" => some members
    | "SET" => some setMembers
    | "SIGNED" | "UNSIGNED" => some (suffix ["INTEGER"])
    | _ => none

/-- The name of a known type with arguments as it is written out. -/
def nameOf (k : String) : String :=
  match k with
  | "FIXEDSTRING" => "FixedString"
  | "DATETIME64" => "DateTime64"
  | _ => k

/-- A known type. -/
def known (written : String) : TypeOutline :=
  { kind := .builtIn, written }

/-- A type that is known by name only. -/
def named : Rule TypeOutline := do
  let path ← name
  let arguments ← modifiers
  let written := ".".intercalate (path.map fun i => String.ofList i.written)
  return { kind := .named, written := written ++ arguments }

/-- An array, behind that word, with the type of its elements. -/
def array (r : Rules) : Rule TypeOutline := do
  symbol "<"
  let inner ← r.openType
  let outer : TypeOutline := { inner with kind := .builtIn, written := "ARRAY<" ++ inner.written ++ ">" }
  if inner.surplus then return { outer with surplus := false }
  else if ← symbol? ">>" then return { outer with surplus := true }
  else
    symbol ">"
    return outer

/-- A table, behind that word, perhaps with its columns. -/
def table (r : Rules) : Rule TypeOutline := do
  if ← atSymbol "(" then
    let columns ← bracketed (commaSeparated r.column)
    return { known "TABLE" with parts := columns.flatten }
  else return known "TABLE"

end DataType

open DataType in
/-- A data type, perhaps with a closing angle bracket too many. -/
def openType (r : Rules) : Rule TypeOutline := do
  let found ← next
  let k := (found.map Item.keyword).getD ""
  match found.map Item.token with
  | some (.word ..) =>
    if plain.contains k then return known k
    else if let some written := renamed.lookup k then return known written
    else if let some arguments := arguments? k then return known (nameOf k ++ (← arguments))
    else if k = "INTERVAL" then return { kind := .interval, written := k }
    else if k = "ARRAY" then array r
    else if k = "TABLE" then table r
    else
      if k = "ANY" then
        if ← keyword? "TYPE" then return known "ANY TYPE"
      retreat
      named
  | _ => expected "a data type name" found

/-- A data type. -/
def dataType (r : Rules) : Rule TypeOutline := do
  let t ← openType r
  if t.surplus then
    reject ("unmatched > after parsing data type " ++ t.written ++ shown (← peek))
  return t

end SqlAnalysis.Sql.Grammar
