import SqlAnalysis.Sql.Grammar.Query

/-!
# Statements that change rows

Insertions, updates, deletions and merges.  The column on the left of an assignment is a name
and no expression; its new value is one.

## Main definitions

* `insertion`, `update`, `deletion`, `merge` — the statements behind their first words.
* `change` — one of them in the place of the body of a query.
-/

namespace SqlAnalysis.Sql.Grammar

/-- An assignment of a new value. -/
def assignment (r : Rules) : Rule Expr := do
  if ← symbol? "(" then
    discard <| commaSeparated name
    symbol ")"
  else discard name
  symbol "="
  r.anyExpr

/-- Assignments, separated by commas. -/
def assignments (r : Rules) : Rule (List Part) := do
  return (← commaSeparated (assignment r)).map .expr

/-- The items that a change gives back. -/
def returning (r : Rules) : Rule (List Part) :=
  partsAfter ["RETURNING"] (selectedItems r)

/-- What happens when a row is in the way. -/
def conflictWords : Rule Unit := do
  if ← anyOf (["REPLACE", "ROLLBACK", "ABORT", "FAIL", "IGNORE"].map fun k => keywords? ["OR", k])
  then return ()
  discard <| keyword? "REPLACE"

/-- What an insertion does about rows that are already there. -/
def onConflict (r : Rules) : Rule (List Part) := do
  unless ← keyword? "ON" do return []
  if ← keyword? "CONFLICT" then
    if ← keywords? ["ON", "CONSTRAINT"] then discard name
    else if ← atSymbol "(" then discard <| columnList false false
    keyword "DO"
    if ← keyword? "NOTHING" then return []
    keywords ["UPDATE", "SET"]
    let values ← assignments r
    return values ++ (← partsAfter ["WHERE"] r.part)
  else
    keywords ["DUPLICATE", "KEY", "UPDATE"]
    assignments r

/-- The rows, the query or the assignments that an insertion takes its values from, with the
column list in front.  In front of a format or of settings there are none. -/
def insertionSource (r : Rules) :
    Rule (List Ident × List Part × Option (List Expr)) := do
  if ← keywords? ["DEFAULT", "VALUES"] then return ([], [], none)
  let subquery := (← atSymbol "(") && (← keywordAt 1 "SELECT")
  let (columns, partition) ←
    if subquery then pure ([], [])
    else do
      let columns ← columnList true true
      let partition ← partsAfter ["PARTITION"] (bracketed r.parts)
      pure (columns, partition)
  if ← atOneOf ["FORMAT", "SETTINGS"] then return (columns, partition, none)
  if ← keyword? "SET" then return (columns, (← assignments r) ++ partition, none)
  let q ← r.query
  return (columns, q.parts ++ partition, q.firstRow)

/-- An insertion, behind its first word. -/
def insertion (r : Rules) : Rule Outline := do
  conflictWords
  discard <| oneOf? ["LOW_PRIORITY", "DELAYED", "HIGH_PRIORITY"]
  for k in ["IGNORE", "OVERWRITE", "INTO", "LOCAL"] do discard <| keyword? k
  if ← keyword? "DIRECTORY" then
    discard literalText
    if ← keywords? ["STORED", "AS"] then fileFormat
    return ⟨.other, ← r.queryParts⟩
  discard <| keyword? "TABLE"
  let target ← name
  let (columns, source, firstRow) ← insertionSource r
  if ← keyword? "AS" then
    discard name
    discard <| columnList true false
  let conflict ← onConflict r
  let result ← returning r
  return ⟨.insert,
    [.insertion target (columns.map (·.text)) firstRow, .relation target] ++ source ++ conflict
      ++ result⟩

/-- An update, behind its first word. -/
def update (r : Rules) : Rule Outline := do
  conflictWords
  let target ← joinedTable r
  let before ← partsAfter ["FROM"] (tables r)
  keyword "SET"
  let values ← assignments r
  -- A second list of tables is not accepted, but its first word is.
  if before.isEmpty then discard <| keyword? "FROM"
  let condition ← partsAfter ["WHERE"] r.part
  let result ← returning r
  let limit ← partsAfter ["LIMIT"] r.part
  return ⟨.update, target.parts ++ values ++ before ++ condition ++ result ++ limit⟩

/-- A deletion, behind its first word. -/
def deletion (r : Rules) : Rule Outline := do
  unless ← keyword? "FROM" do
    discard <| commaSeparated name
    keyword "FROM"
  let sources ← tables r
  let others ← partsAfter ["USING"] (tables r)
  let condition ← partsAfter ["WHERE"] r.part
  let result ← returning r
  let order ← partsAfter ["ORDER", "BY"] (orderEntries r)
  let limit ←
    if ← keyword? "LIMIT" then
      if ← keyword? "ALL" then pure [] else r.part
    else pure []
  return ⟨.delete, sources ++ others ++ condition ++ result ++ order ++ limit⟩

/-- Which rows a clause of a merge is about, behind the word `WHEN`, as it is written out. -/
def mergeRows : Rule String := do
  let negated ← keyword? "NOT"
  keyword "MATCHED"
  unless negated do return "MATCHED"
  if ← keywords? ["BY", "SOURCE"] then return "NOT MATCHED BY SOURCE"
  if ← keywords? ["BY", "TARGET"] then return "NOT MATCHED BY TARGET"
  return "NOT MATCHED"

/-- A clause of a merge, behind the word `WHEN`.  Rows without a match in the target can only
be inserted, and only they can. -/
def mergeClause (r : Rules) : Rule (List Part) := do
  let rows ← mergeRows
  let isNew := rows = "NOT MATCHED" || rows = "NOT MATCHED BY TARGET"
  let condition ← partsAfter ["AND"] r.part
  keyword "THEN"
  match ← oneOf? ["UPDATE", "INSERT", "DELETE"] with
  | none => reject "expected UPDATE, DELETE or INSERT in merge clause"
  | some k =>
    if isNew != (k == "INSERT") then
      reject (k ++ " is not allowed in a " ++ rows ++ " merge clause")
    match k with
    | "UPDATE" =>
      keyword "SET"
      return condition ++ (← assignments r)
    | "INSERT" =>
      discard <| columnList true true
      keyword "VALUES"
      return condition ++ (← Grammar.rows r).parts
    | _ => return condition

/-- The items that a merge gives back. -/
def mergeResult (r : Rules) : Rule (List Part) := do
  match ← oneOf? ["OUTPUT", "RETURNING"] with
  | none => return []
  | some k =>
    let items ← selectedItems r
    if k = "OUTPUT" then intoTable
    return items

/-- A merge, behind its first word. -/
def merge (r : Rules) : Rule Outline := do
  discard <| keyword? "INTO"
  let target ← tableFactor r
  keyword "USING"
  let source ← tableFactor r
  keyword "ON"
  let condition ← r.part
  let clauses ← collect (after? "WHEN" (mergeClause r))
  let result ← mergeResult r
  return ⟨.other, target.parts ++ source.parts ++ condition ++ clauses.flatten ++ result⟩

/-- The statement behind the word `k` in the place of the body of a query. -/
def change (r : Rules) (k : String) : Rule (List Part) := do
  match k with
  | "INSERT" => return (← insertion r).parts
  | "UPDATE" => return (← update r).parts
  | "MERGE" => return (← merge r).parts
  | _ => return (← deletion r).parts

end SqlAnalysis.Sql.Grammar
