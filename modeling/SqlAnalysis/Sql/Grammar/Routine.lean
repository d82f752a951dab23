import SqlAnalysis.Sql.Grammar.Table

/-!
# Routines

Procedures and triggers have statements inside; functions are only referred to, by their names
and perhaps their arguments.  An argument is a type, with or without a name in front of it.
Since a name reads like a type, two types in a row are taken for a name and its type.

## Main definitions

* `statementBlock` — statements inside a statement.
* `routine` — a routine that is referred to.
* `procedureCreation`, `triggerCreation` — the creation of a routine.
-/

namespace SqlAnalysis.Sql.Grammar

/-! ### Statements inside statements -/

/-- Statements up to one of the keywords `ends`, each with a semicolon behind it. -/
def statementsUntil (r : Rules) (ends : List String) : Rule (List Part) := do
  let inner ← collect do
    if ← anyOf [atEnd, atOneOf ends] then return none
    let s ← r.statement
    symbol ";"
    return some s.parts
  return inner.flatten

/-- Statements up to one of the keywords `ends`, perhaps between `BEGIN` and `END`. -/
def statementBlock (r : Rules) (ends : List String) : Rule (List Part) := do
  if ← keyword? "BEGIN" then
    let ps ← statementsUntil r ends
    keyword "END"
    return ps
  else statementsUntil r ends

/-! ### References -/

/-- The type of an argument behind its name, if there is one; `DEFAULT` is none. -/
def argumentType? (r : Rules) : Rule (Option TypeOutline) := do
  if ← atKeyword "DEFAULT" then return none else attempt (dataType r)

/-- An argument of a routine that is referred to. -/
def routineArgument (r : Rules) : Rule (List Part) := do
  discard <| oneOf? ["IN", "OUT", "INOUT"]
  let first ← dataType r
  let last ← lastRead
  let type ←
    match ← argumentType? r with
    | some second =>
      match last.map Item.token with
      | some (.word ..) => pure second
      | _ => expected "a name or type" last
    | none => pure first
  let standard ←
    if ← anyOf [keyword? "DEFAULT", symbol? "="] then r.part else pure []
  return type.parts ++ standard

/-- A routine that is referred to: its name, and perhaps its arguments. -/
def routine (r : Rules) : Rule (List Part) := do
  discard name
  unless ← symbol? "(" do return []
  if ← symbol? ")" then return []
  let arguments ← commaSeparated (routineArgument r)
  symbol ")"
  return arguments.flatten

/-! ### Procedures -/

/-- A parameter of a procedure with the comma behind it; nothing behind the closing bracket.
The parameter may be missing, and the last one may have a comma, too. -/
def parameter (r : Rules) : Rule (List Part × Bool) := do
  let parts ←
    match (← peek).map Item.token with
    | some (.word ..) => do
      discard <| oneOf? ["IN", "OUT", "INOUT"]
      discard ident
      pure (← dataType r).parts
    | _ => pure []
  let comma ← symbol? ","
  if ← symbol? ")" then return (parts, false)
  unless comma do expectedHere "',' or ')' after parameter definition"
  return (parts, true)

/-- The parameters of a procedure behind the opening bracket, at most `fuel` of them. -/
def parameters (r : Rules) : (fuel : Nat) → Rule (List Part)
  | 0 => return []
  | fuel + 1 => do
    match ← parameter r with
    | (parts, true) => return parts ++ (← parameters r fuel)
    | (parts, false) => return parts

/-- The creation of a procedure, behind the word `PROCEDURE`. -/
def procedureCreation (r : Rules) : Rule Outline := do
  discard name
  let types ←
    if ← symbol? "(" then do
      if ← symbol? ")" then pure [] else parameters r ((← read).items.size + 1)
    else pure []
  if ← keyword? "LANGUAGE" then discard ident
  keyword "AS"
  return ⟨.other, types ++ (← statementBlock r ["END"])⟩

/-! ### Triggers -/

/-- When a trigger goes off, in relation to its event. -/
def triggerTime : Rule Unit := do
  if (← oneOf ["FOR", "BEFORE", "AFTER", "INSTEAD"]) = "INSTEAD" then keyword "OF"

/-- What makes a trigger go off. -/
def triggerEvent : Rule Unit := do
  if (← oneOf ["INSERT", "UPDATE", "DELETE", "TRUNCATE"]) = "UPDATE" then
    if ← keyword? "OF" then discard <| commaSeparated ident

/-- The name of the table of the rows as they were, or as they will be; nothing if none
follows.  The first word counts as read even if the second does not follow. -/
def transitionTable? : Rule (Option Unit) := do
  if (← oneOf? ["OLD", "NEW"]).isNone then return none
  unless ← keyword? "TABLE" do return none
  discard <| keyword? "AS"
  discard name
  return some ()

/-- The creation of a trigger, behind the word `TRIGGER`. -/
def triggerCreation (r : Rules) : Rule Outline := do
  discard name
  triggerTime
  triggerEvent
  discard <| collect (after? "OR" triggerEvent)
  keyword "ON"
  discard name
  if ← keyword? "FROM" then discard <| asFarAsPossible name
  characteristics
  if ← keyword? "REFERENCING" then discard <| collect transitionTable?
  keyword "FOR"
  discard <| keyword? "EACH"
  discard <| oneOf ["ROW", "STATEMENT"]
  let condition ← partsAfter ["WHEN"] r.part
  if ← keyword? "EXECUTE" then
    discard <| oneOf ["FUNCTION", "PROCEDURE"]
    return ⟨.other, condition ++ (← routine r)⟩
  else return ⟨.other, condition ++ (← statementBlock r ["END"])⟩

end SqlAnalysis.Sql.Grammar
