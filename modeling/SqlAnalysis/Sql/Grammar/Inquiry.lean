import SqlAnalysis.Sql.Grammar.Expression

/-!
# Statements that ask about the database

Listings of tables, columns and the like, and explanations of tables and statements.  The thing
that a listing is taken from counts as a table that is used, and so does a table that is
explained.

## Main definitions

* `showing` — a listing, behind its first word.
* `explanation` — an explanation, behind its first word.
* `tableStatistics` — an analysis of a table, behind its first word.
-/

namespace SqlAnalysis.Sql.Grammar

/-! ### Listings -/

/-- Which entries are listed: those like a text, or those that satisfy a condition. -/
def listingFilter (r : Rules) : Rule (List Part) := do
  if (← oneOf? ["LIKE", "ILIKE"]).isSome then
    discard literalText
    return []
  else if ← keyword? "WHERE" then r.part
  else
    discard <| attempt literalText
    return []

/-- What a listing is taken from, behind the word `FROM` or `IN`.  The name of a table may
be followed by the name of its database. -/
def listingSource : Rule (List Part) := do
  match ← oneOf? ["ACCOUNT", "DATABASE", "SCHEMA", "TABLE", "VIEW"] with
  | some k =>
    if k = "DATABASE" || k = "SCHEMA" then
      if ← anyOf [atKeywords ["STARTS", "WITH"], atKeyword "LIMIT"] then return []
    match ← attempt name with
    | some path => return [.relation path]
    | none => return []
  | none =>
    let path ← name
    if (← oneOf? ["FROM", "IN"]).isSome then
      let database ← ident
      return [.relation (database :: path)]
    else return [.relation path]

/-- What a listing is taken from, and which entries are listed. -/
def listingOptions (r : Rules) : Rule (List Part) := do
  let source ← if (← oneOf? ["FROM", "IN"]).isSome then listingSource else pure []
  let filter ← listingFilter r
  if ← keywords? ["STARTS", "WITH"] then discard value
  let limit ←
    if ← keyword? "LIMIT" then
      if ← keyword? "ALL" then pure [] else r.part
    else pure []
  if ← keyword? "FROM" then discard value
  return source ++ limit ++ filter

/-- Everything up to the end, an equals sign or a semicolon is passed over. -/
def passOver : Rule Unit := do
  discard <| collect do
    if ← anyOf [atEnd, atSymbol "=", atSymbol ";"] then return none
    advance
    return some ()

/-- A listing without a filter on what it is taken from. -/
def otherListing (r : Rules) : Rule Outline := do
  if ← keyword? "CREATE" then
    discard <| oneOf ["TABLE", "TRIGGER", "FUNCTION", "PROCEDURE", "EVENT", "VIEW"]
    discard name
    return ⟨.other, []⟩
  else if ← anyOf [keyword? "COLLATION", keyword? "VARIABLES", keyword? "STATUS"] then
    return ⟨.other, ← listingFilter r⟩
  else if ← anyOf [keyword? "DATABASES", keyword? "SCHEMAS"] then
    discard <| keyword? "HISTORY"
    return ⟨.other, ← listingOptions r⟩
  else if ← anyOf [keywords? ["CHARACTER", "SET"], keyword? "CHARSET"] then
    return ⟨.other, ← listingFilter r⟩
  else
    passOver
    return ⟨.other, []⟩

/-- A listing, behind its first word. -/
def showing (r : Rules) : Rule Outline := do
  discard <| keyword? "TERSE"
  let extended ← keyword? "EXTENDED"
  let full ← keyword? "FULL"
  for k in ["SESSION", "GLOBAL", "EXTERNAL"] do discard <| keyword? k
  if ← anyOf [keyword? "COLUMNS", keyword? "FIELDS", keyword? "TABLES"] then
    return ⟨.showing, ← listingOptions r⟩
  else if ← anyOf [keywords? ["MATERIALIZED", "VIEWS"], keyword? "VIEWS"] then
    return ⟨.other, ← listingOptions r⟩
  else if ← keyword? "FUNCTIONS" then
    return ⟨.other, ← listingFilter r⟩
  else if extended || full then
    reject "EXTENDED/FULL are not supported with this type of SHOW query"
  else otherListing r

/-! ### Explanations -/

/-- A statement starts an explanation with one of these words. -/
def explaining : List String :=
  ["EXPLAIN", "DESCRIBE", "DESC"]

/-- How an explanation is given. -/
def explanationOptions : Rule Unit := do
  if ← anyOf [keywords? ["QUERY", "PLAN"], keyword? "ESTIMATE"] then return ()
  discard <| keyword? "ANALYZE"
  discard <| keyword? "VERBOSE"
  if ← keyword? "FORMAT" then
    discard <| symbol? "="
    let found ← next
    unless found.any (["TEXT", "GRAPHVIZ", "JSON"].contains ·.keyword) do
      expected "fileformat" found

/-- An explanation of a statement or a table, behind its first word.  The statement must not
be an explanation itself. -/
def explanation (r : Rules) : Rule Outline := do
  explanationOptions
  let nested ← atOneOf explaining
  match ← attempt r.statement with
  | some s =>
    if nested then reject "Explain must be root of the plan"
    return ⟨.other, s.parts⟩
  | none =>
    discard <| oneOf? ["EXTENDED", "FORMATTED"]
    return ⟨.other, [.relation (← name)]⟩

/-! ### Statistics -/

/-- An option of the statistics of a table; nothing if none follows.  Of several lists of
partitions, of which the last was `before`, the last one counts. -/
def statisticsOption? (r : Rules) (before : List Part) : Rule (Option (List Part)) := do
  match ← oneOf? ["PARTITION", "FOR", "CACHE", "NOSCAN", "COMPUTE"] with
  | some "PARTITION" => return some (← bracketed r.parts)
  | some "FOR" =>
    keyword "COLUMNS"
    discard <| attempt (commaSeparated ident)
    return some before
  | some "CACHE" =>
    keyword "METADATA"
    return some before
  | some "COMPUTE" =>
    keyword "STATISTICS"
    return some before
  | some _ => return some before
  | none => return none

/-- The options of the statistics of a table, at most `fuel` of them, behind the partitions
`before`. -/
def statisticsOptions (r : Rules) : (fuel : Nat) → (before : List Part) → Rule (List Part)
  | 0, before => return before
  | fuel + 1, before => do
    match ← statisticsOption? r before with
    | some partitions => statisticsOptions r fuel partitions
    | none => return before

/-- The statistics of a table, behind the word `ANALYZE`. -/
def tableStatistics (r : Rules) : Rule Outline := do
  discard <| keyword? "TABLE"
  let target ← name
  let partitions ← statisticsOptions r ((← read).items.size + 1) []
  return ⟨.other, .relation target :: partitions⟩

end SqlAnalysis.Sql.Grammar
