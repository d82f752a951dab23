import SqlAnalysis.Sql.Grammar.Query

/-!
# Definitions of tables

A table is defined by its columns and constraints between brackets, by options behind them, or
by a query.  The table that is created counts as used; tables that a key refers to or that are
copied do not.

## Main definitions

* `columnDefinition`, `tableConstraint?` — what the definition of a table is made of.
* `tableOption?` — an option of a table.
* `tableCreation` — the creation of a table.
-/

namespace SqlAnalysis.Sql.Grammar

/-! ### Columns -/

/-- What happens to rows when the row that they refer to goes. -/
def referentialAction : Rule Unit := do
  unless ← anyOf [keyword? "RESTRICT", keyword? "CASCADE", keywords? ["SET", "NULL"],
      keywords? ["NO", "ACTION"], keywords? ["SET", "DEFAULT"]] do
    expectedHere "one of RESTRICT, CASCADE, SET NULL, NO ACTION or SET DEFAULT"

/-- When a constraint is checked. -/
def characteristics : Rule Unit :=
  eachOnce
    [anyOf [keywords? ["NOT", "DEFERRABLE"], keyword? "DEFERRABLE"],
     clause "INITIALLY" do
       if (← oneOf? ["DEFERRED", "IMMEDIATE"]).isNone then
         expectedHere "one of DEFERRED or IMMEDIATE",
     anyOf [keyword? "ENFORCED", keywords? ["NOT", "ENFORCED"]]]

/-- The table that a key refers to, behind the word `REFERENCES`. -/
def foreignTable : Rule Unit := do
  discard name
  discard <| columnList true false
  let behind (event : String) : Rule Bool := do
    if ← keywords? ["ON", event] then
      referentialAction
      return true
    else return false
  eachOnce [behind "DELETE", behind "UPDATE"]
  characteristics

/-- A text as a comment. -/
def commentText : Rule Unit := do
  let found ← next
  match found.map Item.token with
  | some (.text '\'' _) => return ()
  | _ => expected "string literal" found

/-- How a computed column is kept. -/
def storage : Rule Unit :=
  discard <| oneOf? ["STORED", "VIRTUAL"]

/-- How a sequence of numbers goes on. -/
def sequenceOptions : Rule Unit := do
  discard <| clause "INCREMENT" do
    discard <| keyword? "BY"
    number
  for bound in ["MINVALUE", "MAXVALUE"] do
    unless ← clause bound number do discard <| keywords? ["NO", bound]
  discard <| clause "START" do
    discard <| keyword? "WITH"
    number
  discard <| clause "CACHE" number
  unless ← keywords? ["NO", "CYCLE"] do discard <| keyword? "CYCLE"

/-- How a column gets its values, behind the word `GENERATED`. -/
def generated (r : Rules) : Rule (Option (List Part)) := do
  if ← anyOf [keywords? ["ALWAYS", "AS", "IDENTITY"], keywords? ["BY", "DEFAULT", "AS", "IDENTITY"]]
  then
    if ← atSymbol "(" then bracketed sequenceOptions
    return some []
  if ← keywords? ["ALWAYS", "AS"] then
    if ← atSymbol "(" then
      let e ← bracketed (inColumn false r.part)
      storage
      return some e
    else return none
  return none

/-- The value of a column option.  Behind a bracket only one operand is read, in which `NOT NULL`
is an operator; without brackets it is the next option. -/
def optionValue (r : Rules) : Rule (List Part) := do
  if ← atSymbol "(" then return [.expr (← inColumn false (operand r))] else r.part

/-- An option of a column; nothing if none follows. -/
def columnOption? (r : Rules) : Rule (Option (List Part)) := inColumn true do
  if ← keywords? ["CHARACTER", "SET"] then
    discard name
    return some []
  if ← keyword? "COLLATE" then
    discard name
    return some []
  if ← keywords? ["NOT", "NULL"] then return some []
  if ← keyword? "COMMENT" then
    commentText
    return some []
  if ← keyword? "NULL" then return some []
  if ← keyword? "DEFAULT" then return some (← optionValue r)
  if ← anyOf [keywords? ["PRIMARY", "KEY"], keyword? "UNIQUE"] then
    characteristics
    return some []
  if ← keyword? "REFERENCES" then
    foreignTable
    return some []
  if ← keyword? "CHECK" then return some (← bracketed (inColumn false r.part))
  if ← keyword? "AUTO_INCREMENT" then return some []
  -- Four words of other systems are passed over, but no option of their own.
  for k in ["AUTOINCREMENT", "ASC", "DESC"] do discard <| keyword? k
  if ← keywords? ["ON", "UPDATE"] then return some (← optionValue r)
  if ← keyword? "GENERATED" then return ← generated r
  if ← keyword? "AS" then
    let e ← bracketed r.part
    storage
    return some e
  if ← keyword? "SRID" then return some (← optionValue r)
  discard <| keyword? "IDENTITY"
  return none

/-- The options of a column. -/
def columnOptions (r : Rules) : Rule (List Part) := do
  let options ← collect do
    if ← keyword? "CONSTRAINT" then
      discard ident
      match ← columnOption? r with
      | some ps => return some ps
      | none => expectedHere "constraint details after CONSTRAINT <name>"
    else columnOption? r
  return options.flatten

/-- A column with its type and its options. -/
def columnDefinition (r : Rules) : Rule (List Part) := do
  discard ident
  let type ← dataType r
  return type.parts ++ (← columnOptions r)

/-! ### Constraints -/

/-- The kind of an index, if the word `USING` comes next. -/
def indexKind : Rule Unit := do
  if ← keyword? "USING" then discard ident

/-- Options of an index. -/
def indexOptions : Rule Unit :=
  discard <| collect do
    if ← keyword? "USING" then
      discard ident
      return some ()
    else if ← keyword? "COMMENT" then
      discard literalText
      return some ()
    else return none

/-- The columns of an index: expressions, each with a class of operators and a direction. -/
def indexColumns (r : Rules) : Rule (List Part) := do
  unless ← atSymbol "(" do expectedHere "a list of columns in parentheses"
  let es ← bracketed <| commaSeparated do
    let e ← r.anyExpr
    unless ← atOneOf ["ASC", "DESC", "NULLS", "WITH"] do discard ident?
    discard <| oneOf? ["ASC", "DESC"]
    unless ← keywords? ["NULLS", "FIRST"] do discard <| keywords? ["NULLS", "LAST"]
    return e
  return es.map .expr

/-- The name, kind, columns and options of an index in the definition of a table. -/
def inlineIndex (r : Rules) : Rule (List Part) := do
  unless ← atKeyword "USING" do discard ident?
  indexKind
  let columns ← indexColumns r
  indexOptions
  return columns

/-- A constraint of a table; nothing if none follows. -/
def tableConstraint? (r : Rules) : Rule (Option (List Part)) := do
  let named ← keyword? "CONSTRAINT"
  if named then discard ident
  let found ← next
  match (found.map Item.keyword).getD "" with
  | "UNIQUE" =>
    discard <| oneOf? ["KEY", "INDEX"]
    if ← keyword? "NULLS" then
      discard <| keyword? "NOT"
      keyword "DISTINCT"
    discard ident?
    indexKind
    let columns ← indexColumns r
    indexOptions
    characteristics
    return some columns
  | "PRIMARY" =>
    keyword "KEY"
    discard ident?
    indexKind
    let columns ← indexColumns r
    indexOptions
    characteristics
    return some columns
  | "FOREIGN" =>
    keyword "KEY"
    discard ident?
    discard <| columnList false false
    keyword "REFERENCES"
    foreignTable
    return some []
  | "CHECK" =>
    let e ← bracketed r.part
    unless ← keyword? "ENFORCED" do discard <| keywords? ["NOT", "ENFORCED"]
    return some e
  | k =>
    if named then expected "PRIMARY, UNIQUE, FOREIGN, or CHECK" found
    else if k = "INDEX" || k = "KEY" then return some (← inlineIndex r)
    else if k = "FULLTEXT" || k = "SPATIAL" then
      discard <| oneOf? ["KEY", "INDEX"]
      discard ident?
      return some (← indexColumns r)
    else
      retreat
      return none

/-- A column or a constraint of a table; the flag says that it is a constraint. -/
def tableElement (r : Rules) : Rule (Bool × List Part) := do
  match ← tableConstraint? r with
  | some ps => return (true, ps)
  | none =>
    match (← peek).map Item.token with
    | some (.word ..) => return (false, ← columnDefinition r)
    | _ => expectedHere "column name or constraint definition"

/-- The columns and constraints of a table; none if no bracket comes next.  The parts of
constraints come behind those of all columns. -/
def tableElements (r : Rules) : Rule (List Part) := do
  unless ← symbol? "(" do return []
  if ← symbol? ")" then return []
  let first ← tableElement r
  let more ← collect do
    if ← symbol? "," then return some (← tableElement r)
    else if ← symbol? ")" then return none
    else expectedHere "',' or ')' after column definition"
  let (constraints, columns) := (first :: more).partition (·.1)
  return (columns ++ constraints).flatMap (·.2)

/-! ### Tables -/

/-- A setting: a word with a value. -/
def setting (r : Rules) : Rule Part := do
  discard ident
  symbol "="
  return .expr (← r.anyExpr)

/-- Settings between brackets behind a keyword; none if the keyword does not come next. -/
def settingsAfter (r : Rules) (k : String) : Rule (List Part) :=
  partsAfter [k] do
    symbol "("
    let settings ← commaSeparatedUntil ")" (setting r)
    symbol ")"
    return settings

/-- Settings between brackets, at least one, behind keywords; none if the keywords do not come
next. -/
def someSettingsAfter (r : Rules) (ks : List String) : Rule (List Part) :=
  partsAfter ks (bracketed (commaSeparated (setting r)))

/-! ### Files behind tables -/

/-- The marks that set apart what a row of a file holds. -/
def rowMarks : List (List String) :=
  [["COLLECTION", "ITEMS", "TERMINATED", "BY"], ["MAP", "KEYS", "TERMINATED", "BY"],
   ["LINES", "TERMINATED", "BY"], ["NULL", "DEFINED", "AS"]]

/-- How a row is written to a file, behind the word `ROW`.  The first word of a mark that is not
complete counts as read. -/
def rowFormat : Rule Unit := do
  keyword "FORMAT"
  if ← keyword? "SERDE" then
    discard literalText
    return ()
  discard <| keyword? "DELIMITED"
  discard <| collect do
    if ← keywords? ["FIELDS", "TERMINATED", "BY"] then
      discard ident
      if ← keywords? ["ESCAPED", "BY"] then discard ident
      return some ()
    else if ← anyOf (rowMarks.map keywords?) then
      discard ident
      return some ()
    else
      discard <| oneOf? ["FIELDS", "COLLECTION", "MAP", "LINES", "NULL"]
      return none

/-- What is said about the files behind a table: settings of the format of rows, and how files
are read and written. -/
structure FileOutline where
  /-- The settings. -/
  settings : List Part
  /-- How files are read and written. -/
  formats : List Part

/-- One statement about the files behind a table, added to those before; nothing if none
follows.  A later one replaces an earlier one of its kind. -/
def fileClause? (r : Rules) (before : FileOutline) : Rule (Option FileOutline) := do
  match ← oneOf? ["ROW", "STORED", "LOCATION"] with
  | some "ROW" =>
    rowFormat
    return some before
  | some "STORED" =>
    keyword "AS"
    if ← keyword? "INPUTFORMAT" then
      let input ← r.part
      keyword "OUTPUTFORMAT"
      return some { before with formats := input ++ (← r.part) }
    else
      fileFormat
      return some { before with formats := [] }
  | some _ =>
    discard literalText
    return some before
  | none =>
    let settings ← someSettingsAfter r ["WITH", "SERDEPROPERTIES"]
    if settings.isEmpty then return none else return some { before with settings }

/-- What is said about the files behind a table, as long as there is more, or `fuel` is left. -/
def fileClauses (r : Rules) : (fuel : Nat) → FileOutline → Rule FileOutline
  | 0, found => return found
  | fuel + 1, found => do
    match ← fileClause? r found with
    | some more => fileClauses r fuel more
    | none => return found

/-- The columns by which the files of a table are divided, and what is said about the files. -/
def files (r : Rules) : Rule (List Part) := do
  let columns ← partsAfter ["PARTITIONED", "BY"] do
    return (← bracketed (commaSeparated (columnDefinition r))).flatten
  let found ← fileClauses r ((← read).items.size + 1) ⟨[], []⟩
  return columns ++ found.settings ++ found.formats

/-! ### Options of tables -/

/-- The words that a table option with a single value may consist of. -/
def optionWords : List (List String) :=
  [["DEFAULT", "CHARSET"], ["CHARSET"], ["DEFAULT", "CHARACTER", "SET"], ["CHARACTER", "SET"],
   ["DEFAULT", "COLLATE"], ["COLLATE"], ["DATA", "DIRECTORY"], ["INDEX", "DIRECTORY"],
   ["KEY_BLOCK_SIZE"], ["ROW_FORMAT"], ["PACK_KEYS"], ["STATS_AUTO_RECALC"],
   ["STATS_PERSISTENT"], ["STATS_SAMPLE_PAGES"], ["DELAY_KEY_WRITE"], ["COMPRESSION"],
   ["ENCRYPTION"], ["MAX_ROWS"], ["MIN_ROWS"], ["AUTOEXTEND_SIZE"], ["AVG_ROW_LENGTH"],
   ["CHECKSUM"], ["CONNECTION"], ["ENGINE_ATTRIBUTE"], ["PASSWORD"],
   ["SECONDARY_ENGINE_ATTRIBUTE"], ["INSERT_METHOD"], ["AUTO_INCREMENT"]]

/-- Where a table space is kept, behind the word `STORAGE`.  The word for it may be quoted. -/
def storageMedium : Rule Unit := do
  discard <| symbol? "="
  let found ← next
  match found.map Item.token with
  | some (.word t _) =>
    unless ["DISK", "MEMORY"].contains (keywordForm t) do
      expected "Storage type (DISK or MEMORY)" found
  | _ => expected "Token::Word" found

/-- An option of a table; nothing if none follows.  A bare word as its value is read as a
column. -/
def tableOption? : Rule (Option (List Part)) := do
  if ← keywords? ["START", "TRANSACTION"] then return some []
  if ← keyword? "COMMENT" then
    discard <| symbol? "="
    let found ← next
    match found.map Item.token with
    | some (.text '\'' _) => return some []
    | _ => reject ("Expected: Token::SingleQuotedString, found: " ++ shown found)
  if ← keyword? "ENGINE" then
    discard <| symbol? "="
    let found ← next
    match found.map Item.token with
    | some (.word ..) =>
      if ← atSymbol "(" then discard identList
      return some []
    | _ => expected "Token::Word" found
  if ← keyword? "TABLESPACE" then
    discard <| symbol? "="
    let found ← next
    match found.map Item.token with
    | some (.word ..) | some (.text '\'' _) =>
      if ← keyword? "STORAGE" then storageMedium
      return some []
    | _ => expected "Token::Word" found
  if ← keyword? "UNION" then
    discard <| symbol? "="
    let found ← next
    unless found.map Item.token == some (.symbol "(") do expected "Token::LParen" found
    discard <| commaSeparatedUntil ")" ident
    symbol ")"
    return some []
  unless ← anyOf (optionWords.map keywords?) do return none
  discard <| symbol? "="
  match ← attempt value with
  | some _ => return some []
  | none => return some [.expr (.column [← ident])]

/-- Options of a table, perhaps with commas between them. -/
def tableOptions : Rule (List Part) := do
  let options ← collect do
    match ← tableOption? with
    | some ps =>
      discard <| symbol? ","
      return some ps
    | none => return none
  return options.flatten

/-- The tables that a table inherits from, and its options.  Of settings and properties the
latter count; other options can only stand where there are neither. -/
def tableConfiguration (r : Rules) : Rule (List Part) := do
  if ← keyword? "INHERITS" then
    unless ← atSymbol "(" do expectedHere "a list of columns in parentheses"
    discard <| bracketed (commaSeparated name)
  let settings ← settingsAfter r "WITH"
  let properties ← settingsAfter r "TBLPROPERTIES"
  if !properties.isEmpty then return properties
  else if !settings.isEmpty then return settings
  else tableOptions

/-- What happens to the rows of a table at the end of a transaction. -/
def onCommit : Rule Unit := do
  if ← keywords? ["ON", "COMMIT"] then
    unless ← anyOf [keywords? ["DELETE", "ROWS"], keywords? ["PRESERVE", "ROWS"], keyword? "DROP"] do
      reject ("Expecting DELETE ROWS, PRESERVE ROWS or DROP" ++ shown (← peek))

/-- The server on which a statement takes effect. -/
def onCluster : Rule Unit := do
  if ← keywords? ["ON", "CLUSTER"] then discard ident

/-- The condition that a thing does not exist yet. -/
def unlessExists : Rule Unit :=
  discard <| keywords? ["IF", "NOT", "EXISTS"]

/-- The condition that a thing exists. -/
def ifExists : Rule Unit :=
  discard <| keywords? ["IF", "EXISTS"]

/-- The creation of a table, behind the word `TABLE`. -/
def tableCreation (r : Rules) : Rule Outline := do
  unlessExists
  let target ← name
  onCluster
  if (← oneOf? ["LIKE", "ILIKE"]).isSome then discard name
  if ← keyword? "CLONE" then discard <| asFarAsPossible name
  let elements ← tableElements r
  discard <| keywords? ["WITHOUT", "ROWID"]
  let files ← files r
  let options ← tableConfiguration r
  let order ←
    if ← keywords? ["ORDER", "BY"] then
      if ← symbol? "(" then do
        let es ← commaSeparatedUntil ")" r.anyExpr
        symbol ")"
        pure (es.map Part.expr)
      else r.part
    else pure []
  onCommit
  discard <| keyword? "STRICT"
  let source ←
    if ← keyword? "AS" then r.queryParts
    else if ← atKeyword "SELECT" then r.queryParts
    else pure []
  return ⟨.ddl,
    .relation target :: elements ++ files ++ options ++ source ++ order⟩

end SqlAnalysis.Sql.Grammar
