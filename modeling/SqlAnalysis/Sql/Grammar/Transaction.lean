import SqlAnalysis.Sql.Grammar.Expression

/-!
# Variables and transactions

Assignments to variables of the session and the server, and the statements that start, end and
divide transactions.

## Main definitions

* `Transaction.modes` — how a transaction is carried out.
* `Transaction.chain` — the end of a transaction, and whether another one follows.
* `Variable.setting` — an assignment to variables, behind its first word.
* `lockKind` — the kind of a lock on a table.
-/

namespace SqlAnalysis.Sql.Grammar

namespace Transaction

/-! ### Transactions -/

/-- A mode of a transaction; nothing if none follows. -/
def mode? : Rule (Option Unit) := do
  if ← keywords? ["ISOLATION", "LEVEL"] then
    unless ← anyOf [keywords? ["READ", "UNCOMMITTED"], keywords? ["READ", "COMMITTED"],
        keywords? ["REPEATABLE", "READ"], keyword? "SERIALIZABLE", keyword? "SNAPSHOT"] do
      expectedHere "isolation level"
    return some ()
  else if ← anyOf [keywords? ["READ", "ONLY"], keywords? ["READ", "WRITE"]] then return some ()
  else return none

/-- How a transaction is carried out: modes with or without commas between them.  Behind a
comma one has to follow. -/
def modes : Rule Unit := do
  discard <| collect do
    match ← mode? with
    | none => return none
    | some _ =>
      if ← symbol? "," then
        if ← anyOf [atKeywords ["ISOLATION", "LEVEL"], atKeywords ["READ", "ONLY"],
            atKeywords ["READ", "WRITE"]] then return some ()
        else expectedHere "transaction mode"
      else return some ()

/-- Words that mean a transaction. -/
def nouns : List String :=
  ["TRANSACTION", "WORK"]

/-- Whether another transaction follows the one that ends. -/
def chain : Rule Unit := do
  discard <| oneOf? nouns
  if ← keyword? "AND" then
    discard <| keyword? "NO"
    keyword "CHAIN"

/-- The start of a transaction, behind the word `START`. -/
def start : Rule Unit := do
  keyword "TRANSACTION"
  modes

/-- The start of a transaction, behind the word `BEGIN`. -/
def begin : Rule Unit := do
  discard <| oneOf? nouns
  modes

/-- The undoing of a transaction, behind the word `ROLLBACK`. -/
def rollback : Rule Unit := do
  chain
  if ← keyword? "TO" then
    discard <| keyword? "SAVEPOINT"
    discard ident

/-- A savepoint is given up, behind the word `RELEASE`. -/
def release : Rule Unit := do
  discard <| keyword? "SAVEPOINT"
  discard ident

end Transaction

/-! ### Variables -/

namespace Variable

/-- Where a variable lives. -/
def scopes : List String :=
  ["SESSION", "LOCAL", "GLOBAL"]

/-- A value of a variable: a query without brackets, or an expression. -/
def variableValue (r : Rules) : Rule Part := do
  if ← atOneOf ["SELECT", "WITH"] then return .expr (.other (← r.queryParts))
  match ← asFarAsPossible r.anyExpr with
  | some e => return .expr e
  | none => expectedHere "variable value"

/-- The values of a variable, behind the equals sign. -/
def values (r : Rules) : Rule (List Part) :=
  commaSeparated (variableValue r)

/-- The sign of an assignment, if it comes next. -/
def assigned? : Rule Bool :=
  anyOf [symbol? "=", keyword? "TO"]

/-- An assignment among several. -/
def assignment (r : Rules) : Rule Part := do
  discard <| oneOf? scopes
  discard name
  unless ← assigned? do expectedHere "assignment operator"
  return .expr (← r.anyExpr)

/-- The time zone, behind its words. -/
def timeZone (r : Rules) : Rule (List Part) := do
  if ← assigned? then values r else r.part

/-- The character set of the connection, behind the word `NAMES`. -/
def characterSet : Rule Unit := do
  unless ← keyword? "DEFAULT" do
    discard ident
    if ← keyword? "COLLATE" then discard literalText

/-- A role is taken on. -/
def role : Rule Unit := do
  keyword "ROLE"
  unless ← keyword? "NONE" do discard ident

/-- Variables and their values, behind the scope if there is one. -/
def variableList (r : Rules) (scope : Option String) : Rule (List Part) := do
  if scope.isSome then retreat
  match ← attempt (commaSeparated (assignment r)) with
  | some ps => return ps
  | none =>
    discard name
    if ← assigned? then values r else expectedHere "equals sign or TO"

/-- An assignment to variables, behind the word `SET`. -/
def setting (r : Rules) : Rule (List Part) := do
  let external ← keyword? "HIVEVAR"
  let scope ← if external then pure none else oneOf? scopes
  if external then symbol ":"
  if (← attempt role).isSome then return []
  else if ← anyOf [keywords? ["TIME", "ZONE"], keyword? "TIMEZONE"] then timeZone r
  else if ← keyword? "NAMES" then
    characterSet
    return []
  else if ← keyword? "CHARACTERISTICS" then
    keywords ["AS", "TRANSACTION"]
    Transaction.modes
    return []
  else if ← keyword? "TRANSACTION" then
    if ← keyword? "SNAPSHOT" then discard value else Transaction.modes
    return []
  else variableList r scope

end Variable

/-! ### Locks on tables -/

/-- The kind of a lock on a table. -/
def lockKind : Rule Unit := do
  if ← keyword? "READ" then discard <| keyword? "LOCAL"
  else
    unless ← anyOf [keyword? "WRITE", keywords? ["LOW_PRIORITY", "WRITE"]] do
      expectedHere "an lock type in LOCK TABLES"

end SqlAnalysis.Sql.Grammar
