import SqlAnalysis.Sql.Grammar.Creation

/-!
# Statements that remove definitions

Things are removed by their names, of which none counts as used but the table of a policy.

## Main definitions

* `removal` — a removal, behind its first word.
-/

namespace SqlAnalysis.Sql.Grammar

/-- Things that are removed by their names. -/
def removable : List String :=
  ["TABLE", "VIEW", "INDEX", "ROLE", "SCHEMA", "DATABASE", "SEQUENCE", "STAGE", "TYPE", "USER",
   "STREAM"]

/-- What happens to things that depend on a removed one. -/
def dropBehavior : Rule Unit :=
  discard <| oneOf? ["CASCADE", "RESTRICT"]

/-- What is removed if it is of the kind `k`, which is none of the common ones.  Only the table
of a policy counts as used. -/
def removedThings (r : Rules) (k : String) : Rule (List Part) := do
  match k with
  | "FUNCTION" | "PROCEDURE" => return (← commaSeparated (routine r)).flatten
  | "POLICY" =>
    discard ident
    keyword "ON"
    return [.relation (← name)]
  | "TRIGGER" =>
    discard name
    if ← keyword? "ON" then discard name
    return []
  | "EXTENSION" =>
    discard <| commaSeparated ident
    return []
  | "SECRET" =>
    discard ident
    if ← keyword? "FROM" then discard <| asFarAsPossible ident
    return []
  | "DOMAIN" =>
    discard name
    return []
  | _ =>
    discard ident
    return []

/-- The removal of what is of the kind `k`, behind the word for it. -/
def uncommonRemoval (r : Rules) (k : String) : Rule Outline := do
  ifExists
  let things ← removedThings r k
  unless k = "SECRET" || k = "CONNECTOR" do dropBehavior
  return ⟨.other, things⟩

/-- A removal, behind its first word. -/
def removal (r : Rules) : Rule Outline := do
  discard <| keyword? "TEMPORARY"
  let kind ←
    if ← keywords? ["MATERIALIZED", "VIEW"] then pure (some "VIEW") else oneOf? removable
  match kind with
  | some kind =>
    ifExists
    discard <| commaSeparated name
    let found ← peek
    let cascade ← keyword? "CASCADE"
    let restrict ← keyword? "RESTRICT"
    let purge ← keyword? "PURGE"
    if cascade && restrict then
      reject ("Cannot specify both CASCADE and RESTRICT in DROP" ++ placeOf found)
    if kind = "ROLE" && (cascade || restrict || purge) then
      reject ("Cannot specify CASCADE, RESTRICT, or PURGE in DROP ROLE" ++ placeOf found)
    if ← keyword? "ON" then discard name
    return ⟨.ddl, []⟩
  | none =>
    match ← oneOf? ["FUNCTION", "PROCEDURE", "TRIGGER", "EXTENSION", "DOMAIN", "POLICY",
        "CONNECTOR", "SECRET"] with
    | some k => uncommonRemoval r k
    | none =>
      expectedHere <|
        "CONNECTOR, DATABASE, EXTENSION, FUNCTION, INDEX, POLICY, PROCEDURE, ROLE, SCHEMA, " ++
        "SECRET, SEQUENCE, STAGE, TABLE, TRIGGER, TYPE, VIEW, MATERIALIZED VIEW or USER after DROP"

end SqlAnalysis.Sql.Grammar
