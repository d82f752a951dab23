import SqlAnalysis.Sql.Grammar.Administration
import SqlAnalysis.Sql.Grammar.Alteration
import SqlAnalysis.Sql.Grammar.Change
import SqlAnalysis.Sql.Grammar.Inquiry
import SqlAnalysis.Sql.Grammar.Privilege
import SqlAnalysis.Sql.Grammar.Transfer

/-!
# Statements

The first word of a statement decides how it is read.  Here the table of rules is closed: the
rules of one level call those of the level below.  A rule that is reached through the table
either reads a token first or enters a guarded level, of which there are fifty, so that a few
more levels than there are tokens are enough.

## Main definitions

* `statement` — a statement.
* `rules` — the table of rules with a number of levels.
* `statements` — the statements of a query.
* `soleExpr` — an expression that makes up a whole text.
-/

namespace SqlAnalysis.Sql.Grammar

open Administration

/-- A statement that is none of the well-known ones, behind its first word `k`, with the parts
that count; nothing if `k` starts none. -/
def otherStatement? (r : Rules) (k : String) : Rule (Option (List Part)) := do
  let silent (rule : Rule Unit) : Rule (Option (List Part)) := do
    rule
    return some []
  let speaking (rule : Rule (List Part)) : Rule (Option (List Part)) :=
    some <$> rule
  match k with
  | "KILL" => silent kill
  | "FLUSH" => silent flush
  | "CASE" => speaking (selectionStatement r)
  | "IF" => speaking (conditional r)
  | "WHILE" => speaking (loop r)
  | "RAISE" => speaking (raised r)
  | "ATTACH" => speaking (attachment r)
  | "MSCK" => speaking check
  | "CACHE" => speaking (caching r)
  | "UNCACHE" => speaking uncaching
  | "DISCARD" => silent discarding
  | "DECLARE" => speaking (cursor r)
  | "FETCH" => silent fetch
  | "CALL" => speaking (routineCall r)
  | "COPY" => speaking (Transfer.copying r)
  | "OPEN" => silent (discard ident)
  | "CLOSE" => silent close
  | "SET" => speaking (Variable.setting r)
  | "GRANT" => speaking (Privilege.grant r)
  | "DENY" => speaking (Privilege.denial r)
  | "REVOKE" => speaking (Privilege.revocation r)
  | "START" => silent Transaction.start
  | "BEGIN" => silent Transaction.begin
  | "END" | "COMMIT" => silent Transaction.chain
  | "ROLLBACK" => silent Transaction.rollback
  | "SAVEPOINT" => silent (discard ident)
  | "RELEASE" => silent Transaction.release
  | "RAISERROR" => speaking (raisedError r)
  | "ASSERT" => speaking (assertion r)
  | "DEALLOCATE" => silent do
    discard <| keyword? "PREPARE"
    discard ident
  | "EXECUTE" | "EXEC" => speaking (execution r)
  | "PREPARE" => speaking (preparation r)
  | "PRAGMA" => silent pragma
  | "RENAME" => silent tableRenaming
  | "LOAD" => silent do
    discard <| keyword? "DATA"
    expectedHere "\x60DATA\x60 or an extension name after \x60LOAD\x60"
  | "PRINT" => speaking r.part
  | "RETURN" => speaking (returned r)
  | "EXPORT" => speaking (Transfer.exporting r)
  | "UNLOAD" => speaking (Transfer.unloading r)
  | "VACUUM" => silent vacuum
  | _ => return none

/-- A statement, behind its first word `k`, which was `first`. -/
def statementAfter (r : Rules) (k : String) (first : Option Item) : Rule Outline := do
  match k with
  | "SELECT" | "WITH" | "VALUES" | "FROM" =>
    retreat
    return ⟨.select, ← r.queryParts⟩
  | "INSERT" | "REPLACE" => insertion r
  | "UPDATE" => update r
  | "DELETE" => deletion r
  | "MERGE" => merge r
  | "CREATE" => creation r
  | "ALTER" => alteration r
  | "DROP" => removal r
  | "TRUNCATE" => truncation r
  | "SHOW" => showing r
  | "EXPLAIN" | "DESCRIBE" | "DESC" => explanation r
  | "ANALYZE" => tableStatistics r
  | "USE" =>
    discard name
    return ⟨.use, []⟩
  | _ =>
    match ← otherStatement? r k with
    | some ps => return ⟨.other, ps⟩
    | none => expected "an SQL statement" first

/-- A statement. -/
def statement (r : Rules) : Rule Outline := guarded do
  if ← keywords? ["LOCK", "TABLES"] then
    lockTables
    return ⟨.other, []⟩
  if ← keywords? ["UNLOCK", "TABLES"] then return ⟨.other, []⟩
  let first ← next
  if first.map Item.token == some (.symbol "(") then
    retreat
    return ⟨.select, ← r.queryParts⟩
  statementAfter r ((first.map Item.keyword).getD "") first

/-! ### Closing the table -/

/-- The table of rules with `levels` levels. -/
def rules : (levels : Nat) → Rules
  | 0 => Rules.none
  | levels + 1 =>
    let r := rules levels
    ⟨expression r, query r (change r), statement r, joinedTable r, openType r,
      columnDefinition r⟩

/-- The number of levels that may be nested. -/
def depthLimit : Nat :=
  50

/-- The result of a rule on tokens, from the first one on. -/
def runRule {α : Type} (rule : Rules → Rule α) (items : Array Item) : Except Failure α :=
  match rule (rules (items.size + depthLimit + 2)) ⟨items, depthLimit, false⟩ 0 with
  | .ok a _ => .ok a
  | .error e _ => .error e

/-! ### Queries of several statements -/

/-- The next statement of a query, behind any semicolons; nothing at the end.  Behind a statement
a semicolon has to come first, but the word `END` ends the query. -/
def nextStatement? (r : Rules) (isFirst : Bool) : Rule (Option Outline) := do
  let separators ← collect do
    if ← symbol? ";" then return some () else return none
  if ← atEnd then return none
  if !isFirst && separators.isEmpty then
    if ← atKeyword "END" then return none
    expectedHere "end of statement"
  return some (← r.statement)

/-- The statements of a query. -/
def statements (r : Rules) : Rule (List Outline) := do
  match ← nextStatement? r true with
  | none => return []
  | some first => return first :: (← collect (nextStatement? r false))

/-- An expression that makes up a whole text. -/
def soleExpr (r : Rules) : Rule Expr := do
  let e ← r.anyExpr
  unless ← atEnd do expectedHere "end of expression"
  return e

end SqlAnalysis.Sql.Grammar
