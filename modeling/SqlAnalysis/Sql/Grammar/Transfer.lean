import SqlAnalysis.Sql.Grammar.Table

/-!
# Statements that move rows

Rows go to files and come from them.  Options may stand between brackets, with commas, or
one after the other behind everything else; those are read as long as they fit.

## Main definitions

* `copying`, `unloading`, `exporting` — statements behind their first words.
-/

namespace SqlAnalysis.Sql.Grammar.Transfer

/-! ### Values of options -/

/-- A text of a single byte. -/
def literalChar : Rule Unit := do
  let s ← literalText
  unless s.utf8ByteSize = 1 do
    reject ("Expect a char, found " ++ Text.quoted s ++ placeOf (← lastRead))

/-- What `rule` reads, perhaps behind the word `AS`. -/
def perhapsAs (rule : Rule Unit) : Rule Unit := do
  discard <| keyword? "AS"
  rule

/-- A text between single quotes, if one comes next. -/
def perhapsText : Rule Unit := do
  if let some (.text '\'' _) := (← peek).map Item.token then discard literalText

/-- A size in bytes. -/
def size : Rule Unit := do
  discard numberValue
  discard <| oneOf? ["MB", "GB"]

/-- A role that has access to files. -/
def accessRole : Rule Unit := do
  unless ← keyword? "DEFAULT" do discard literalText

/-! ### Options -/

/-- An option among others between brackets. -/
def option : Rule Unit := do
  match ← oneOf? ["FORMAT", "FREEZE", "DELIMITER", "NULL", "HEADER", "QUOTE", "ESCAPE",
      "FORCE_QUOTE", "FORCE_NOT_NULL", "FORCE_NULL", "ENCODING"] with
  | some k =>
    match k with
    | "FORMAT" => discard ident
    | "FREEZE" | "HEADER" => discard <| oneOf? ["TRUE", "FALSE"]
    | "DELIMITER" | "QUOTE" | "ESCAPE" => literalChar
    | "NULL" | "ENCODING" => discard literalText
    | _ => discard <| columnList false false
  | none => expectedHere "option"

/-- An option about values that are separated by commas. -/
def separatedOption : Rule Unit := do
  match ← oneOf? ["HEADER", "QUOTE", "ESCAPE", "FORCE"] with
  | some "HEADER" => return ()
  | some "FORCE" =>
    if ← anyOf [keywords? ["NOT", "NULL"], keyword? "QUOTE"] then
      discard <| commaSeparated ident
    else expectedHere "csv option"
  | some _ => perhapsAs literalChar
  | none => expectedHere "csv option"

/-- Options without a value. -/
def plainOptions : List String :=
  ["ACCEPTANYDATE", "ADDQUOTES", "ALLOWOVERWRITE", "BINARY", "BLANKSASNULL", "BZIP2", "CLEANPATH",
   "EMPTYASNULL", "ESCAPE", "GZIP", "HEADER", "JSON", "PARQUET", "TRUNCATECOLUMNS", "ZSTD"]

/-- What is read behind the word for an option with a value; nothing if it is none. -/
def valueOf? (k : String) : Option (Rule Unit) :=
  match k with
  | "ACCEPTINVCHARS" | "DATEFORMAT" | "TIMEFORMAT" => some (perhapsAs perhapsText)
  | "CSV" => some (discard <| collect (attempt separatedOption))
  | "DELIMITER" => some (perhapsAs literalChar)
  | "ENCRYPTED" => some (discard <| keyword? "AUTO")
  | "EXTENSION" | "FIXEDWIDTH" => some (discard literalText)
  | "IAM_ROLE" => some accessRole
  | "IGNOREHEADER" => some (perhapsAs (discard unsigned))
  | "MANIFEST" => some (discard <| keyword? "VERBOSE")
  | "MAXFILESIZE" | "ROWGROUPSIZE" => some (perhapsAs size)
  | "NULL" | "REGION" => some (perhapsAs (discard literalText))
  | "PARALLEL" => some (discard <| oneOf? ["TRUE", "FALSE", "ON", "OFF"])
  | "PARTITION" => some do
    keyword "BY"
    discard <| columnList false false
    discard <| keyword? "INCLUDE"
  | _ => none

/-- An option behind everything else. -/
def trailingOption : Rule Unit := do
  if ← keyword? "FORMAT" then discard <| keyword? "AS"
  if (← oneOf? plainOptions).isSome then return ()
  let k := ((← peek).map Item.keyword).getD ""
  match valueOf? k with
  | some rule =>
    advance
    rule
  | none => expectedHere "option"

/-- Options behind everything else, as long as they fit. -/
def trailingOptions : Rule Unit :=
  discard <| collect (attempt trailingOption)

/-! ### Statements -/

/-- Rows that are written down in the text of the query, up to a backslash with a point. -/
def writtenRows : Rule Unit :=
  discard <| collect do
    if ← atEnd then return none
    if ← symbol? "\\" then
      if ← symbol? "." then return none
      advance
    else advance
    return some ()

/-- What is copied: the rows of a query, or those of a table.  The flag says that it is a
query. -/
def copied (r : Rules) : Rule (Bool × List Part) := do
  if ← symbol? "(" then
    let ps ← r.queryParts
    symbol ")"
    return (true, ps)
  else
    discard name
    discard <| columnList true false
    return (false, [])

/-- The place that rows are copied to or from; the flag says that they are in the text of the
query. -/
def place : Rule Bool := do
  if ← keyword? "STDIN" then return true
  unless ← keyword? "STDOUT" do
    discard <| keyword? "PROGRAM"
    discard literalText
  return false

/-- Rows are copied from or to a file, behind the word `COPY`. -/
def copying (r : Rules) : Rule (List Part) := do
  let (isQuery, parts) ← copied r
  match ← oneOf? ["FROM", "TO"] with
  | some "FROM" => if isQuery then reject "COPY ... FROM does not support query as a source"
  | some _ => pure ()
  | none => expectedHere "FROM or TO"
  let written ← place
  discard <| keyword? "WITH"
  if ← symbol? "(" then
    discard <| commaSeparated option
    symbol ")"
  trailingOptions
  if written then
    symbol ";"
    writtenRows
  return parts

/-- The rows of a query, which may be a text, go to a file, behind the word `UNLOAD`. -/
def unloading (r : Rules) : Rule (List Part) := do
  let parts ← bracketed do
    match (← peek).map Item.token with
    | some (.text '\'' _) =>
      discard literalText
      return []
    | _ => r.queryParts
  keyword "TO"
  discard ident
  if ← keyword? "IAM_ROLE" then accessRole
  let settings ← settingsAfter r "WITH"
  trailingOptions
  return parts ++ settings

/-- The rows of a query go to a file, behind the word `EXPORT`. -/
def exporting (r : Rules) : Rule (List Part) := do
  keyword "DATA"
  if ← keywords? ["WITH", "CONNECTION"] then discard name
  keyword "OPTIONS"
  let settings ← bracketed (commaSeparated (setting r))
  keyword "AS"
  return settings ++ (← r.queryParts)

end SqlAnalysis.Sql.Grammar.Transfer
