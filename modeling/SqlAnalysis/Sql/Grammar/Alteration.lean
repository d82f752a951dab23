import SqlAnalysis.Sql.Grammar.Removal

/-!
# Statements that change definitions

Most changes are those of tables: columns and constraints come, go or get other names.  The
table counts as used, and so does a view whose query is replaced.

## Main definitions

* `tableChange` — one change of a table.
* `tableAlteration`, `schemaAlteration`, … — changes of one kind of thing.
* `alteration` — a change, behind its first word.
-/

namespace SqlAnalysis.Sql.Grammar

/-! ### Changes of tables -/

/-- Where a column goes. -/
def columnPosition : Rule Unit := do
  unless ← keyword? "FIRST" do
    if ← keyword? "AFTER" then discard ident

/-- A column with a new type and new options. -/
def redefinition (r : Rules) : Rule (List Part) := do
  let type ← dataType r
  let options ← collect (columnOption? r)
  columnPosition
  return type.parts ++ options.flatten

/-- An addition to a table, behind the word `ADD`. -/
def addition (r : Rules) : Rule (List Part) := do
  match ← tableConstraint? r with
  | some ps =>
    discard <| keywords? ["NOT", "VALID"]
    return ps
  | none =>
    unlessExists
    let partitions ← collect (after? "PARTITION" (bracketed r.parts))
    if !partitions.isEmpty then return partitions.flatten
    discard <| keyword? "COLUMN"
    let column ← columnDefinition r
    columnPosition
    return column

/-- A removal from a table, behind the word `DROP`. -/
def subtraction (r : Rules) : Rule (List Part) := do
  if ← anyOf [keywords? ["IF", "EXISTS", "PARTITION"], keyword? "PARTITION"] then
    bracketed r.parts
  else if ← keyword? "CONSTRAINT" then
    ifExists
    discard ident
    dropBehavior
    return []
  else if ← keywords? ["PRIMARY", "KEY"] then
    dropBehavior
    return []
  else if ← keywords? ["FOREIGN", "KEY"] then
    discard ident
    dropBehavior
    return []
  else if ← keyword? "INDEX" then
    discard ident
    return []
  else
    -- A projection cannot be removed, but the word for it is passed over.
    discard <| keyword? "PROJECTION"
    if ← keywords? ["CLUSTERING", "KEY"] then return []
    discard <| keyword? "COLUMN"
    ifExists
    discard ident
    dropBehavior
    return []

/-- A change of a column, behind the word `ALTER`. -/
def columnChange (r : Rules) : Rule (List Part) := do
  discard <| keyword? "COLUMN"
  discard ident
  if ← anyOf [keywords? ["SET", "NOT", "NULL"], keywords? ["DROP", "NOT", "NULL"]] then return []
  if ← keywords? ["SET", "DEFAULT"] then return ← r.part
  if ← keywords? ["DROP", "DEFAULT"] then return []
  if ← anyOf [keywords? ["SET", "DATA", "TYPE"], keyword? "TYPE"] then
    return (← dataType r).parts
  if ← keywords? ["ADD", "GENERATED"] then
    unless ← keyword? "ALWAYS" do discard <| keywords? ["BY", "DEFAULT"]
    keywords ["AS", "IDENTITY"]
    if ← atSymbol "(" then bracketed sequenceOptions
    return []
  expectedHere "SET/DROP NOT NULL, SET DEFAULT, or SET DATA TYPE after ALTER COLUMN"

/-- What is switched off, behind the word `DISABLE`, or on, behind the word `ENABLE`. -/
def switched (k : String) : Rule Unit := do
  if ← keywords? ["ROW", "LEVEL", "SECURITY"] then return ()
  if k = "ENABLE" then
    for mode in ["ALWAYS", "REPLICA"] do
      if ← anyOf [atKeywords [mode, "RULE"], atKeywords [mode, "TRIGGER"]] then advance
  if (← oneOf? ["RULE", "TRIGGER"]).isSome then discard ident
  else expectedHere ("ROW LEVEL SECURITY, RULE, or TRIGGER after " ++ k)

/-- How the rows of a table are told apart elsewhere, behind the words `REPLICA IDENTITY`. -/
def replicaIdentity : Rule Unit := do
  if (← oneOf? ["NONE", "FULL", "DEFAULT"]).isSome then return ()
  if ← keywords? ["USING", "INDEX"] then discard ident
  else expectedHere "NONE, FULL, DEFAULT, or USING INDEX index_name after REPLICA IDENTITY"

/-- A new name, behind the word `RENAME`. -/
def newName : Rule Unit := do
  if (← oneOf? ["TO", "AS"]).isSome then discard name
  else
    discard <| keyword? "COLUMN"
    discard ident
    keyword "TO"
    discard ident

/-- Settings of a table, if they come next.  An empty list of them is no change. -/
def settingsChange (r : Rules) : Rule (List Part) := do
  let properties ← someSettingsAfter r ["SET", "TBLPROPERTIES"]
  if !properties.isEmpty then return properties
  let settings ← settingsAfter r "SET"
  if !settings.isEmpty then return settings
  expectedHere <|
    "ADD, RENAME, PARTITION, SWAP, DROP, REPLICA IDENTITY, SET, or SET TBLPROPERTIES after " ++
    "ALTER TABLE"

/-- A change of a table that starts with none of the words `ADD`, `RENAME`, `DISABLE` and
`ENABLE`. -/
def otherTableChange (r : Rules) : Rule (List Part) := do
  -- Projections cannot be changed, but the words for it are passed over.
  for k in ["CLEAR", "MATERIALIZE"] do discard <| keywords? [k, "PROJECTION"]
  match ← oneOf? ["DROP", "PARTITION", "CHANGE", "MODIFY", "ALTER", "SWAP", "AUTO_INCREMENT"] with
  | some "DROP" => subtraction r
  | some "PARTITION" =>
    let before ← bracketed r.parts
    keywords ["RENAME", "TO", "PARTITION"]
    return before ++ (← bracketed r.parts)
  | some "CHANGE" =>
    discard <| keyword? "COLUMN"
    discard ident
    discard ident
    redefinition r
  | some "MODIFY" =>
    discard <| keyword? "COLUMN"
    discard ident
    redefinition r
  | some "ALTER" => columnChange r
  | some "SWAP" =>
    keyword "WITH"
    discard name
    return []
  | some _ =>
    discard <| symbol? "="
    discard numberValue
    return []
  | none =>
    if (← alterationMode?).isSome then return []
    if ← keywords? ["CLUSTER", "BY"] then return ← bracketed r.parts
    if ← anyOf [keywords? ["SUSPEND", "RECLUSTER"], keywords? ["RESUME", "RECLUSTER"]] then
      return []
    if ← keywords? ["REPLICA", "IDENTITY"] then
      replicaIdentity
      return []
    if ← keywords? ["VALIDATE", "CONSTRAINT"] then
      discard ident
      return []
    settingsChange r

/-- One change of a table. -/
def tableChange (r : Rules) : Rule (List Part) := do
  match ← oneOf? ["ADD", "RENAME", "DISABLE", "ENABLE"] with
  | some "ADD" => addition r
  | some "RENAME" =>
    newName
    return []
  | some k =>
    switched k
    return []
  | none => otherTableChange r

/-- A change of a table, behind the word `TABLE`. -/
def tableAlteration (r : Rules) : Rule Outline := do
  ifExists
  discard <| keyword? "ONLY"
  let target ← name
  onCluster
  let changes ← commaSeparated (tableChange r)
  if ← anyOf [keyword? "LOCATION", keywords? ["SET", "LOCATION"]] then discard ident
  return ⟨.ddl, .relation target :: changes.flatten⟩

/-! ### Changes of other things -/

/-- A change of a type, behind the word `TYPE`. -/
def typeAlteration : Rule Unit := do
  discard name
  if ← keywords? ["RENAME", "TO"] then discard ident
  else if ← keywords? ["ADD", "VALUE"] then
    unlessExists
    discard ident
    if (← oneOf? ["BEFORE", "AFTER"]).isSome then discard ident
  else if ← keywords? ["RENAME", "VALUE"] then
    discard ident
    keyword "TO"
    discard ident
  else expectedHere "\x7bRENAME TO | \x7b RENAME | ADD \x7d VALUE\x7d"

/-- A change of a schema, behind the word `SCHEMA`. -/
def schemaAlteration (r : Rules) : Rule (List Part) := do
  ifExists
  discard name
  if ← atKeywords ["SET", "OPTIONS"] then
    advance
    settingsAfter r "OPTIONS"
  else if ← keywords? ["SET", "DEFAULT", "COLLATE"] then r.part
  else if ← keywords? ["ADD", "REPLICA"] then
    discard ident
    settingsAfter r "OPTIONS"
  else if ← keywords? ["DROP", "REPLICA"] then
    discard ident
    return []
  else if ← keywords? ["RENAME", "TO"] then
    discard name
    return []
  else if ← keywords? ["OWNER", "TO"] then
    discard ident
    return []
  else expectedHere "ALTER SCHEMA operation"

/-- A change of a policy, behind the word `POLICY`. -/
def policyAlteration (r : Rules) : Rule (List Part) := do
  discard ident
  keyword "ON"
  let target ← name
  if ← keyword? "RENAME" then
    keyword "TO"
    discard ident
    return [.relation target]
  discard <| clause "TO" (commaSeparated ident)
  let visible ← partsAfter ["USING"] (bracketed r.part)
  let writable ← partsAfter ["WITH", "CHECK"] (bracketed r.part)
  return .relation target :: visible ++ writable

/-- A change of a connection, behind the word `CONNECTOR`. -/
def connectorAlteration (r : Rules) : Rule (List Part) := do
  discard ident
  keyword "SET"
  let properties ← someSettingsAfter r ["DCPROPERTIES"]
  discard <| clause "URL" literalText
  if ← anyOf [keywords? ["OWNER", "USER"], keywords? ["OWNER", "ROLE"]] then discard ident
  return properties

/-- A change, behind its first word.  Roles cannot be changed. -/
def alteration (r : Rules) : Rule Outline := do
  match ← oneOf ["VIEW", "TYPE", "TABLE", "INDEX", "ROLE", "POLICY", "CONNECTOR", "ICEBERG",
      "SCHEMA"] with
  | "VIEW" =>
    let target ← name
    discard <| columnList true false
    let settings ← settingsAfter r "WITH"
    keyword "AS"
    return ⟨.other, .relation target :: (← r.queryParts) ++ settings⟩
  | "INDEX" =>
    discard name
    unless ← keyword? "RENAME" do expectedHere "RENAME after ALTER INDEX"
    unless ← keyword? "TO" do expectedHere "TO after RENAME"
    discard name
    return ⟨.other, []⟩
  | "TABLE" => tableAlteration r
  | "ICEBERG" =>
    keyword "TABLE"
    tableAlteration r
  | "TYPE" =>
    typeAlteration
    return ⟨.other, []⟩
  | "SCHEMA" => return ⟨.other, ← schemaAlteration r⟩
  | "POLICY" => return ⟨.other, ← policyAlteration r⟩
  | "CONNECTOR" => return ⟨.other, ← connectorAlteration r⟩
  | _ => reject "ALTER ROLE is not supported"

end SqlAnalysis.Sql.Grammar
