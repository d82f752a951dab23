import SqlAnalysis.Sql.Grammar.Routine

/-!
# Statements that create things

Views, indexes, schemas, policies and the like.  The name of a table counts as used where an
index or a policy is made for it or where its rows are elsewhere; that of a view does not.

## Main definitions

* `viewCreation`, `indexCreation`, … — creations of one kind.
* `creation` — a creation, behind its first word.
-/

namespace SqlAnalysis.Sql.Grammar

/-! ### Other creations -/

/-- Who a thing belongs to: a user, perhaps at a host. -/
def grantee : Rule Unit := do
  let path ← name
  if path.length = 1 then
    if ← symbol? "@" then discard ident

/-- The words in front of a view. -/
def viewWords : Rule Unit := do
  if ← keyword? "ALGORITHM" then
    symbol "="
    discard <| oneOf ["UNDEFINED", "MERGE", "TEMPTABLE"]
  if ← keyword? "DEFINER" then
    symbol "="
    grantee
  if ← keywords? ["SQL", "SECURITY"] then discard <| oneOf ["DEFINER", "INVOKER"]

/-- A column of a view: its name and options, of which none can have a name. -/
def viewColumn (r : Rules) : Rule (List Part) := do
  discard ident
  return (← collect (columnOption? r)).flatten

/-- The creation of a view.  Its name is no table that is used. -/
def viewCreation (r : Rules) : Rule Outline := do
  for k in ["SECURE", "MATERIALIZED"] do discard <| keyword? k
  keyword "VIEW"
  if ← keywords? ["IF", "NOT", "EXISTS"] then discard name
  else
    discard name
    unlessExists
  let columns ←
    if ← symbol? "(" then do
      let cs ← commaSeparatedUntil ")" (viewColumn r)
      symbol ")"
      pure cs.flatten
    else pure []
  let settings ← settingsAfter r "WITH"
  if ← keyword? "CLUSTER" then
    keyword "BY"
    discard <| columnList true false
  keyword "AS"
  return ⟨.ddl, columns ++ (← r.queryParts) ++ settings⟩

/-- How an alteration is carried out: its algorithm or its lock; nothing if neither follows. -/
def alterationMode? : Rule (Option Unit) := do
  match ← oneOf? ["LOCK", "ALGORITHM"] with
  | some "LOCK" =>
    discard <| symbol? "="
    if (← oneOf? ["DEFAULT", "EXCLUSIVE", "NONE", "SHARED"]).isNone then
      expectedHere "DEFAULT, EXCLUSIVE, NONE or SHARED after LOCK [=]"
    return some ()
  | some _ =>
    discard <| symbol? "="
    if (← oneOf? ["DEFAULT", "INSTANT", "INPLACE", "COPY"]).isNone then
      expectedHere "DEFAULT, INSTANT, INPLACE, or COPY after ALGORITHM [=]"
    return some ()
  | none => return none

/-- The creation of an index, behind the word `INDEX`. -/
def indexCreation (r : Rules) : Rule Outline := do
  discard <| keyword? "CONCURRENTLY"
  let unlessThere ← keywords? ["IF", "NOT", "EXISTS"]
  let unnamed ← if unlessThere then pure false else keyword? "ON"
  unless unnamed do
    discard name
    indexKind
    keyword "ON"
  let table ← name
  indexKind
  let columns ← indexColumns r
  if ← keyword? "INCLUDE" then discard identList
  if ← keyword? "NULLS" then
    discard <| keyword? "NOT"
    keyword "DISTINCT"
  let condition ← partsAfter ["WHERE"] r.part
  indexOptions
  discard <| collect alterationMode?
  return ⟨.ddl, .relation table :: columns ++ condition⟩

/-- The creation of a schema, behind the word `SCHEMA`. -/
def schemaCreation (r : Rules) : Rule Outline := do
  unlessExists
  if ← keyword? "AUTHORIZATION" then discard ident
  else
    discard name
    if ← keyword? "AUTHORIZATION" then discard ident
  let collation ← partsAfter ["DEFAULT", "COLLATE"] r.part
  let settings ← settingsAfter r "WITH"
  let options ← settingsAfter r "OPTIONS"
  if ← keyword? "CLONE" then discard name
  return ⟨.ddl, settings ++ options ++ collation⟩

/-- The creation of a database, behind the word `DATABASE`. -/
def databaseCreation : Rule Outline := do
  unlessExists
  discard name
  discard <| collect do
    if (← oneOf? ["LOCATION", "MANAGEDLOCATION"]).isSome then return some (← literalText)
    else return none
  if ← keyword? "CLONE" then discard name
  return ⟨.ddl, []⟩

/-- The value of a setting of a user: a text, a number or a word, or several values. -/
def userSettingValue : Rule Unit := do
  match (← peek).map Item.token with
  | some (.word ..) => advance
  | some (.text '\'' _) | some (.number ..) => discard value
  | some (.symbol "(") => discard <| bracketed (commaSeparatedUntil ")" value)
  | _ => expectedHere "expected option value"

/-- The next setting of a user; nothing behind the last one.  A semicolon ends the settings and
counts as one of their tokens, and so does the closing bracket if `enclosed`; one of the words
`ends` does not.  A token that is not expected counts, too: the token behind it is reported. -/
def userSetting? (enclosed : Bool) (ends : List String) : Rule (Option Unit) := do
  if ← anyOf [atEnd, atOneOf ends] then return none
  match (← next).map Item.token with
  | some (.symbol ";") => return none
  | some (.symbol ",") => return some ()
  | some (.word ..) =>
    symbol "="
    userSettingValue
    return some ()
  | found =>
    if enclosed && found == some (.symbol ")") then return none
    expectedHere "another option, EOF, Comma or ')'"

/-- The creation of a user, behind the word `USER`: a name and settings. -/
def userCreation : Rule Outline := do
  unlessExists
  discard ident
  discard <| collect (userSetting? false ["WITH", "TAG"])
  discard <| keyword? "WITH"
  if ← keyword? "TAG" then
    symbol "("
    discard <| collect (userSetting? true [])
  return ⟨.other, []⟩

/-- The creation of roles, behind the word `ROLE`. -/
def roleCreation : Rule Outline := do
  unlessExists
  discard <| commaSeparated name
  discard <| keyword? "WITH"
  return ⟨.other, []⟩

/-- The creation of a sequence of numbers, behind the word `SEQUENCE`. -/
def sequenceCreation (r : Rules) : Rule Outline := do
  unlessExists
  discard name
  let type ← partsAfter ["AS"] do return (← dataType r).parts
  sequenceOptions
  if ← keywords? ["OWNED", "BY"] then
    unless ← keyword? "NONE" do discard name
  return ⟨.other, type⟩

/-- The creation of an extension, behind the word `EXTENSION`. -/
def extensionCreation : Rule Outline := do
  unlessExists
  discard ident
  if ← keyword? "WITH" then
    if ← keyword? "SCHEMA" then discard ident
    if ← keyword? "VERSION" then discard ident
    discard <| keyword? "CASCADE"
  return ⟨.other, []⟩

/-- The creation of a table whose rows are elsewhere, behind the word `EXTERNAL`. -/
def externalTableCreation (r : Rules) : Rule Outline := do
  keyword "TABLE"
  unlessExists
  let target ← name
  let elements ← tableElements r
  let files ← files r
  return ⟨.ddl, .relation target :: elements ++ files ++ (← settingsAfter r "TBLPROPERTIES")⟩

/-- The creation of a table that a module provides, behind the word `VIRTUAL`. -/
def virtualTableCreation : Rule Outline := do
  keyword "TABLE"
  unlessExists
  let target ← name
  keyword "USING"
  discard ident
  discard <| columnList true false
  return ⟨.other, [.relation target]⟩

/-- An attribute of a type with the comma behind it, and whether another one may follow; the
closing bracket ends them.  The last attribute may have a comma, too. -/
def typeAttribute (r : Rules) : Rule (List Part × Bool) := do
  discard ident
  let type ← dataType r
  if ← keyword? "COLLATE" then discard name
  let comma ← symbol? ","
  if ← symbol? ")" then return (type.parts, false)
  unless comma do expectedHere "',' or ')' after attribute definition"
  return (type.parts, true)

/-- The attributes of a type behind the opening bracket, at most `fuel` of them. -/
def typeAttributes (r : Rules) : (fuel : Nat) → Rule (List Part)
  | 0 => return []
  | fuel + 1 => do
    match ← typeAttribute r with
    | (parts, true) => return parts ++ (← typeAttributes r fuel)
    | (parts, false) => return parts

/-- The creation of a type, behind the word `TYPE`. -/
def typeCreation (r : Rules) : Rule Outline := do
  discard name
  keyword "AS"
  if ← keyword? "ENUM" then
    discard <| bracketed (commaSeparatedUntil ")" ident)
    return ⟨.other, []⟩
  unless ← symbol? "(" do return ⟨.other, []⟩
  if ← symbol? ")" then return ⟨.other, []⟩
  return ⟨.other, ← typeAttributes r ((← read).items.size + 1)⟩

/-- The creation of a domain, behind the word `DOMAIN`. -/
def domainCreation (r : Rules) : Rule Outline := do
  discard name
  keyword "AS"
  let type ← dataType r
  if ← keyword? "COLLATE" then discard ident
  let standard ← partsAfter ["DEFAULT"] r.part
  let constraints ← collect (tableConstraint? r)
  return ⟨.other, type.parts ++ standard ++ constraints.flatten⟩

/-- The creation of a server elsewhere, behind the word `SERVER`. -/
def serverCreation : Rule Outline := do
  unlessExists
  discard name
  for k in ["TYPE", "VERSION"] do discard <| clause k ident
  keywords ["FOREIGN", "DATA", "WRAPPER"]
  discard name
  if ← keyword? "OPTIONS" then
    discard <| bracketed <| commaSeparated do
      discard ident
      ident
  return ⟨.other, []⟩

/-- The creation of a policy about the rows of a table, behind the word `POLICY`. -/
def policyCreation (r : Rules) : Rule Outline := do
  discard ident
  keyword "ON"
  let target ← name
  discard <| clause "AS" (oneOf ["PERMISSIVE", "RESTRICTIVE"])
  discard <| clause "FOR" (oneOf ["ALL", "SELECT", "INSERT", "UPDATE", "DELETE"])
  discard <| clause "TO" (commaSeparated ident)
  let visible ← partsAfter ["USING"] (bracketed r.part)
  let writable ← partsAfter ["WITH", "CHECK"] (bracketed r.part)
  return ⟨.other, .relation target :: visible ++ writable⟩

/-- The place where a secret is kept; nothing if none follows. -/
def secretStorage? : Rule (Option Ident) := do
  if ← keyword? "IN" then asFarAsPossible ident else return none

/-- The creation of a secret, behind the word `SECRET`.  Its name may be missing, and the place
where it is kept may stand where the name would. -/
def secretCreation : Rule Outline := do
  unlessExists
  unless ← atSymbol "(" do
    let unnamed ← atKeyword "IN"
    let place ← secretStorage?
    unless unnamed do discard <| asFarAsPossible ident
    if place.isNone then discard secretStorage?
  bracketed do
    keyword "TYPE"
    discard ident
    if ← symbol? "," then
      discard <| commaSeparated do
        discard ident
        ident
  return ⟨.other, []⟩

/-- The creation of a connection, behind the word `CONNECTOR`. -/
def connectorCreation (r : Rules) : Rule Outline := do
  unlessExists
  discard ident
  for k in ["TYPE", "URL"] do discard <| clause k literalText
  discard <| clause "COMMENT" do
    discard <| symbol? "="
    commentText
  return ⟨.other, ← someSettingsAfter r ["WITH", "DCPROPERTIES"]⟩

/-- A creation, behind its first word. -/
def creation (r : Rules) : Rule Outline := do
  let replace ← keywords? ["OR", "REPLACE"]
  discard <| keywords? ["OR", "ALTER"]
  for k in ["LOCAL", "GLOBAL", "TRANSIENT"] do discard <| keyword? k
  discard <| oneOf? ["TEMP", "TEMPORARY"]
  viewWords
  if ← keyword? "TABLE" then tableCreation r
  else if ← anyOf [atOneOf ["MATERIALIZED", "VIEW"], atKeywords ["SECURE", "MATERIALIZED", "VIEW"],
      atKeywords ["SECURE", "VIEW"]] then viewCreation r
  else if ← keyword? "POLICY" then policyCreation r
  else if ← keyword? "EXTERNAL" then externalTableCreation r
  else if ← keyword? "DOMAIN" then domainCreation r
  else if ← anyOf [keyword? "TRIGGER", keywords? ["CONSTRAINT", "TRIGGER"]] then triggerCreation r
  else if ← keyword? "SECRET" then secretCreation
  else if ← keyword? "USER" then userCreation
  else if ← anyOf [atKeyword "FUNCTION", atKeyword "MACRO"] then
    expectedHere "an object type after CREATE"
  else if replace then
    expectedHere
      "[EXTERNAL] TABLE or [MATERIALIZED] VIEW or FUNCTION after CREATE OR REPLACE"
  else if ← keyword? "EXTENSION" then extensionCreation
  else if ← anyOf [keyword? "INDEX", keywords? ["UNIQUE", "INDEX"]] then indexCreation r
  else if ← keyword? "VIRTUAL" then virtualTableCreation
  else if ← keyword? "SCHEMA" then schemaCreation r
  else if ← keyword? "DATABASE" then databaseCreation
  else if ← keyword? "ROLE" then roleCreation
  else if ← keyword? "SEQUENCE" then sequenceCreation r
  else if ← keyword? "TYPE" then typeCreation r
  else if ← keyword? "PROCEDURE" then procedureCreation r
  else if ← keyword? "CONNECTOR" then connectorCreation r
  else if ← keyword? "SERVER" then serverCreation
  else expectedHere "an object type after CREATE"

end SqlAnalysis.Sql.Grammar
