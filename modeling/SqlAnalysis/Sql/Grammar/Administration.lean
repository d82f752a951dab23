import SqlAnalysis.Sql.Grammar.Creation
import SqlAnalysis.Sql.Grammar.Transaction

/-!
# Statements that administer the database

Everything that neither asks for rows nor changes or defines tables: locks, caches, prepared
statements, cursors and the like.  Only a few of them mention tables.

## Main definitions

* `lockTables`, `flush`, `truncation` and others — statements behind their first words.
* `conditional`, `selectionStatement`, `loop` — statements with statements inside.
-/

namespace SqlAnalysis.Sql.Grammar

namespace Administration

/-! ### The server -/

/-- Locks on tables, behind their first words. -/
def lockTables : Rule Unit := do
  discard <| commaSeparated do
    discard ident
    discard <| alias? ["READ", "WRITE", "LOW_PRIORITY"]
    lockKind

/-- A thread is ended, behind the word `KILL`. -/
def kill : Rule Unit := do
  let kind ← oneOf? ["CONNECTION", "QUERY", "MUTATION"]
  discard unsigned
  if kind = some "MUTATION" then
    expectedHere "Unsupported type for KILL, allowed: CONNECTION | QUERY"

/-- The logs and caches that can be flushed. -/
def flushable : List (List String) :=
  [["BINARY", "LOGS"], ["ENGINE", "LOGS"], ["ERROR", "LOGS"], ["GENERAL", "LOGS"], ["HOSTS"],
   ["PRIVILEGES"], ["OPTIMIZER_COSTS"], ["SLOW", "LOGS"], ["STATUS"], ["USER_RESOURCES"], ["LOGS"]]

/-- A step through the tables that are flushed; nothing behind the last one.  Names start with a
word without a meaning of its own.  Other words are passed over, and so is the first token
that is no word, which ends the list. -/
def flushed? : Rule (Option Unit) := do
  if ← keyword? "WITH" then
    discard <| keywords? ["READ", "LOCK"]
    return some ()
  if ← keyword? "FOR" then
    discard <| keyword? "EXPORT"
    return some ()
  let found ← next
  match found.map Item.token with
  | some (.word ..) =>
    if found.any (·.token.isPlainWord) then
      retreat
      discard <| commaSeparated name
    return some ()
  | _ => return none

/-- Logs, caches or tables are flushed, behind the word `FLUSH`. -/
def flush : Rule Unit := do
  unless ← keyword? "NO_WRITE_TO_BINLOG" do discard <| keyword? "LOCAL"
  if ← anyOf (flushable.map keywords?) then return ()
  if ← keywords? ["RELAY", "LOGS"] then
    if ← keywords? ["FOR", "CHANNEL"] then discard <| orGiveUp name
    return ()
  if ← keyword? "TABLES" then
    discard <| collect flushed?
    return ()
  expectedHere <|
    "BINARY LOGS, ENGINE LOGS, ERROR LOGS, GENERAL LOGS, HOSTS, LOGS, PRIVILEGES, " ++
    "OPTIMIZER_COSTS, RELAY LOGS [FOR CHANNEL channel], SLOW LOGS, STATUS, USER_RESOURCES"

/-- Things of the session are discarded, behind the word `DISCARD`. -/
def discarding : Rule Unit := do
  if (← oneOf? ["ALL", "PLANS", "SEQUENCES", "TEMP", "TEMPORARY"]).isNone then
    expectedHere "ALL, PLANS, SEQUENCES, TEMP or TEMPORARY after DISCARD"

/-- Another database is attached, behind the word `ATTACH`. -/
def attachment (r : Rules) : Rule (List Part) := do
  discard <| keyword? "DATABASE"
  let file ← r.part
  keyword "AS"
  discard ident
  return file

/-- Space is reclaimed, behind the word `VACUUM`. -/
def vacuum : Rule Unit := do
  discard <| keyword? "FULL"
  discard <| keywords? ["SORT", "ONLY"]
  discard <| keywords? ["DELETE", "ONLY"]
  for k in ["REINDEX", "RECLUSTER"] do discard <| keyword? k
  if (← attempt name).isSome then
    if ← keyword? "TO" then
      discard value
      keyword "PERCENT"
    discard <| keyword? "BOOST"

/-- A setting is read or changed, behind the word `PRAGMA`. -/
def pragma : Rule Unit := do
  let setting : Rule Unit := do
    let found ← peek
    discard value
    match found.map Item.token with
    | some (.text ..) | some (.number ..) | some (.placeholder _) | some (.symbol _) => return ()
    | _ => retreat; expectedHere "number or string or ? placeholder"
  discard name
  if ← symbol? "(" then
    setting
    symbol ")"
  else if ← symbol? "=" then setting

/-! ### Tables -/

/-- Tables are emptied, behind the word `TRUNCATE`. -/
def truncation (r : Rules) : Rule Outline := do
  discard <| keyword? "TABLE"
  let targets ← commaSeparated do
    discard <| keyword? "ONLY"
    name
  let partitions ← partsAfter ["PARTITION"] (bracketed r.parts)
  onCluster
  return ⟨.ddl, targets.map .relation ++ partitions⟩

/-- A table is checked, behind the word `MSCK`. -/
def check : Rule (List Part) := do
  discard <| keyword? "REPAIR"
  keyword "TABLE"
  let target ← name
  discard <| attempt do
    discard <| oneOf? ["ADD", "DROP", "SYNC"]
    keyword "PARTITIONS"
  return [.relation target]

/-- Tables get other names, behind the word `RENAME`. -/
def tableRenaming : Rule Unit := do
  unless ← keyword? "TABLE" do expectedHere "KEYWORD \x60TABLE\x60 after RENAME"
  discard <| commaSeparated do
    discard name
    keyword "TO"
    name

/-- The contents of a cached table, behind its name. -/
def cachedQuery (r : Rules) : Rule (List Part) := do
  let options ← settingsAfter r "OPTIONS"
  if ← atEnd then return options
  match (← peek).map Item.token with
  | some (.word ..) =>
    discard <| keyword? "AS"
    return options ++ (← r.queryParts)
  | _ => expectedHere "a QUERY statement"

/-- A table is kept in memory, behind the word `CACHE`. -/
def caching (r : Rules) : Rule (List Part) := do
  unless ← keyword? "TABLE" do
    discard name
    unless ← keyword? "TABLE" do
      if ← atEnd then retreat
      expectedHere "a \x60TABLE\x60 keyword"
  let target ← name
  return .relation target :: (← cachedQuery r)

/-- A table is no longer kept in memory, behind the word `UNCACHE`. -/
def uncaching : Rule (List Part) := do
  keyword "TABLE"
  ifExists
  return [.relation (← name)]

/-! ### Cursors -/

/-- A cursor is declared, behind the word `DECLARE`. -/
def cursor (r : Rules) : Rule (List Part) := do
  discard ident
  discard <| keyword? "BINARY"
  discard <| oneOf? ["INSENSITIVE", "ASENSITIVE"]
  unless ← keyword? "SCROLL" do discard <| keywords? ["NO", "SCROLL"]
  keyword "CURSOR"
  if (← oneOf? ["WITH", "WITHOUT"]).isSome then keyword "HOLD"
  keyword "FOR"
  r.queryParts

/-- Rows are fetched from a cursor, behind the word `FETCH`. -/
def fetch : Rule Unit := do
  match ← oneOf? ["NEXT", "PRIOR", "FIRST", "LAST", "ABSOLUTE", "RELATIVE", "FORWARD", "BACKWARD",
      "ALL"] with
  | some k =>
    if k = "ABSOLUTE" || k = "RELATIVE" then discard numberValue
    if k = "FORWARD" || k = "BACKWARD" then
      unless ← keyword? "ALL" do discard numberValue
  | none => discard numberValue
  if (← oneOf? ["FROM", "IN"]).isNone then
    reject ("Expected FROM or IN" ++ placeOf (← peek))
  discard ident
  if ← keyword? "INTO" then discard name

/-- A cursor is closed, behind the word `CLOSE`. -/
def close : Rule Unit := do
  unless ← keyword? "ALL" do discard ident

/-! ### Routines and prepared statements -/

/-- A routine is called, behind the word `CALL`. -/
def routineCall (r : Rules) : Rule (List Part) := do
  discard name
  if ← atSymbol "(" then call r else return []

/-- A statement is prepared, behind the word `PREPARE`. -/
def preparation (r : Rules) : Rule (List Part) := do
  discard ident
  let types ← if ← atSymbol "(" then bracketed (commaSeparated (dataType r)) else pure []
  keyword "AS"
  return types.flatMap (·.parts) ++ (← r.statement).parts

/-- A prepared statement is carried out, behind the word `EXECUTE`. -/
def execution (r : Rules) : Rule (List Part) := do
  discard name
  let parameters ←
    if ← symbol? "(" then do
      let es ← commaSeparatedUntil ")" r.anyExpr
      symbol ")"
      pure es
    else if ← anyOf [atEnd, atSymbol ";", atOneOf ["USING", "OUTPUT", "DEFAULT"]] then pure []
    else r.exprs
  if ← keyword? "INTO" then discard <| commaSeparated ident
  let used ←
    if ← keyword? "USING" then
      commaSeparated do
        let e ← r.anyExpr
        if ← keyword? "AS" then discard ident
        return e
    else pure []
  for k in ["OUTPUT", "DEFAULT"] do discard <| keyword? k
  return (parameters ++ used).map .expr

/-- A condition is asserted, behind the word `ASSERT`. -/
def assertion (r : Rules) : Rule (List Part) := do
  let condition ← r.part
  return condition ++ (← partsAfter ["AS"] r.part)

/-- A message is raised, behind the word `RAISERROR`. -/
def raisedError (r : Rules) : Rule (List Part) := do
  let es ← bracketed do
    let message ← r.anyExpr
    symbol ","
    let severity ← r.anyExpr
    symbol ","
    let state ← r.anyExpr
    let args ← if ← symbol? "," then r.exprs else pure []
    return message :: severity :: state :: args
  if ← keyword? "WITH" then
    discard <| commaSeparated (oneOf ["LOG", "NOWAIT", "SETERROR"])
  return es.map .expr

/-- A routine ends, behind the word `RETURN`. -/
def returned (r : Rules) : Rule (List Part) := do
  return (← attempt r.part).getD []

/-! ### Statements with statements inside -/

/-- A condition and the statements that depend on it, up to one of the keywords `ends`. -/
def branch (r : Rules) (ends : List String) : Rule (List Part) := do
  let condition ← r.part
  keyword "THEN"
  return condition ++ (← statementBlock r ends)

/-- A branch and further ones, each behind the keyword `k`. -/
def branches (r : Rules) (k : String) (ends : List String) : Rule (List Part) := do
  let first ← branch r ends
  let more ← collect (after? k (branch r ends))
  return first ++ more.flatten

/-- The statements behind the word `ELSE`, if it comes next. -/
def otherwise (r : Rules) : Rule (List Part) :=
  partsAfter ["ELSE"] (statementBlock r ["END"])

/-- Statements that depend on conditions, behind the word `IF`. -/
def conditional (r : Rules) : Rule (List Part) := do
  let first ← branch r ["ELSE", "ELSEIF", "END"]
  let more ← partsAfter ["ELSEIF"] (branches r "ELSEIF" ["ELSEIF", "ELSE", "END"])
  let last ← otherwise r
  keywords ["END", "IF"]
  return first ++ more ++ last

/-- Statements that depend on a value, behind the word `CASE`. -/
def selectionStatement (r : Rules) : Rule (List Part) := do
  let subject ← if ← atKeyword "WHEN" then pure [] else r.part
  keyword "WHEN"
  let cases ← branches r "WHEN" ["WHEN", "ELSE", "END"]
  let last ← otherwise r
  keyword "END"
  discard <| keyword? "CASE"
  return subject ++ cases ++ last

/-- Statements that are repeated, behind the word `WHILE`. -/
def loop (r : Rules) : Rule (List Part) := do
  let condition ← r.part
  return condition ++ (← statementBlock r ["END"])

/-- An error is raised, behind the word `RAISE`. -/
def raised (r : Rules) : Rule (List Part) := do
  if ← keywords? ["USING", "MESSAGE"] then
    symbol "="
    r.part
  else return (← attempt r.part).getD []

end Administration

end SqlAnalysis.Sql.Grammar
