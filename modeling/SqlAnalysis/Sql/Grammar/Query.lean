import SqlAnalysis.Sql.Grammar.Expression

/-!
# Queries

A query is a body of selections and rows, combined by set operators, with queries of its own in
front and an order, a limit and locks behind.  Its parts start with the names of its own
queries; then come those queries, the body and the order.

## Main definitions

* `alias?` — another name behind an item.
* `tableFactor`, `joinedTable` — a table to read from, and the tables joined to it.
* `selection` — one `SELECT`.
* `query` — a query.
-/

namespace SqlAnalysis.Sql.Grammar

/-! ### Other names -/

/-- Keywords that do not name a column without `AS`. -/
def notColumnAliases : List String :=
  ["WITH", "EXPLAIN", "ANALYZE", "SELECT", "WHERE", "GROUP", "SORT", "HAVING", "ORDER", "TOP",
   "LATERAL", "VIEW", "LIMIT", "OFFSET", "FETCH", "UNION", "EXCEPT", "EXCLUDE", "INTERSECT",
   "MINUS", "CLUSTER", "DISTRIBUTE", "RETURNING", "FROM", "INTO", "END"]

/-- Keywords that do not name a table without `AS`. -/
def notTableAliases : List String :=
  ["WITH", "EXPLAIN", "ANALYZE", "SELECT", "WHERE", "GROUP", "SORT", "HAVING", "ORDER", "PIVOT",
   "UNPIVOT", "TOP", "LATERAL", "VIEW", "LIMIT", "OFFSET", "FETCH", "UNION", "EXCEPT",
   "INTERSECT", "MINUS", "ON", "JOIN", "INNER", "CROSS", "FULL", "LEFT", "RIGHT", "NATURAL",
   "USING", "CLUSTER", "DISTRIBUTE", "GLOBAL", "ANTI", "SEMI", "RETURNING", "OUTPUT", "ASOF",
   "MATCH_CONDITION", "OUTER", "SET", "QUALIFY", "WINDOW", "END", "FOR", "PARTITION", "PREWHERE",
   "SETTINGS", "FORMAT", "START", "CONNECT", "MATCH_RECOGNIZE", "SAMPLE", "TABLESAMPLE", "FROM",
   "OPEN", "USE", "IGNORE", "FORCE", "STRAIGHT_JOIN"]

/-- Another name behind an item.  Without `AS` it must not be one of `barred`. -/
def alias? (barred : List String) : Rule (Option Ident) := do
  let explicit ← keyword? "AS"
  let found ← next
  match found.map Item.token with
  | some (.word t quoted) =>
    if explicit || !barred.contains ((found.map Item.keyword).getD "") then
      return some ⟨t, if quoted then some '`' else none⟩
  | some (.text mark s) => return some ⟨s, some mark⟩
  | _ => pure ()
  if explicit then expected "an identifier after AS" found
  retreat
  return none

/-- The columns that the name of a table may be followed by, each perhaps with a type. -/
def aliasColumns (r : Rules) : Rule Unit := do
  if ← symbol? "(" then
    discard <| commaSeparated do
      discard ident
      attempt (dataType r)
    symbol ")"

/-- Another name of a table. -/
def tableAlias? (r : Rules) : Rule (Option String) := do
  match ← alias? notTableAliases with
  | some a =>
    aliasColumns r
    return some a.text
  | none => return none

/-! ### Files -/

/-- Formats of files. -/
def fileFormats : List String :=
  ["AVRO", "JSONFILE", "ORC", "PARQUET", "RCFILE", "SEQUENCEFILE", "TEXTFILE"]

/-- The format of a file. -/
def fileFormat : Rule Unit := do
  let found ← next
  unless found.any (fileFormats.contains ·.keyword) do expected "fileformat" found

/-! ### Tables -/

/-- Advice on the indexes to use. -/
def indexHints : Rule Unit := do
  discard <| collect do
    match ← oneOf? ["USE", "IGNORE", "FORCE"] with
    | none => return none
    | some _ =>
      if (← oneOf? ["INDEX", "KEY"]).isNone then
        expectedHere "expected to match INDEX/KEY keyword"
      if ← keyword? "FOR" then
        unless ← anyOf [keyword? "JOIN", keywords? ["ORDER", "BY"], keywords? ["GROUP", "BY"]] do
          expectedHere "expected to match FOR/ORDER BY/GROUP BY table hint in for clause"
      symbol "("
      discard <| commaSeparatedUntil ")" ident
      symbol ")"
      return some ()

/-- What a column of a document holds where the document has nothing or something wrong. -/
def documentFallback? : Rule (Option Unit) := do
  match ← oneOf? ["NULL", "ERROR", "DEFAULT"] with
  | none => return none
  | some k =>
    if k = "DEFAULT" then discard value
    keyword "ON"
    unless ← keyword? "EMPTY" do keyword "ERROR"
    return some ()

/-- A column read from a document, or several that are read from a part of it.  The fuel bounds
how deep such parts are nested. -/
def documentColumn (r : Rules) : (fuel : Nat) → Rule Unit
  | 0 => throw .tooDeep
  | fuel + 1 => do
    if ← keyword? "NESTED" then
      discard <| keyword? "PATH"
      discard value
      keyword "COLUMNS"
      discard <| bracketed (commaSeparated (documentColumn r fuel))
    else
      discard ident
      if ← keyword? "FOR" then keyword "ORDINALITY"
      else
        discard (dataType r)
        discard <| keyword? "EXISTS"
        keyword "PATH"
        discard value
        discard <| collect documentFallback?

/-- A part of a table picked at random: one of several equal parts, or a number of rows. -/
def sample? (r : Rules) : Rule (List Part) := do
  if (← oneOf? ["TABLESAMPLE", "SAMPLE"]).isNone then return []
  discard <| oneOf? ["BERNOULLI", "ROW", "SYSTEM", "BLOCK"]
  let inBrackets ← symbol? "("
  let inBuckets ← if inBrackets then keyword? "BUCKET" else pure false
  let (size, bucket) ←
    if inBuckets then do
      discard numberValue
      keywords ["OUT", "OF"]
      discard numberValue
      pure ([], ← partsAfter ["ON"] r.part)
    else do
      let amount ← match ← attempt r.part with
        | some ps => pure ps
        | none =>
          match (← next).map Item.token with
          | some (.word ..) => pure []
          | _ =>
            reject ("Expecting number or byte length e.g. 100M" ++ placeOf (← peek))
      discard <| oneOf? ["ROWS", "PERCENT"]
      pure (amount, [])
  if inBrackets then symbol ")"
  if (← oneOf? ["REPEATABLE", "SEED"]).isSome then discard <| bracketed numberValue
  return size ++ bucket ++ (← partsAfter ["OFFSET"] r.part)

/-- An expression with another name, which needs `AS`. -/
def renamedExpr (r : Rules) : Rule Part := do
  let e ← r.anyExpr
  if ← keyword? "AS" then discard ident
  return .expr e

/-! ### Turned tables -/

/-- A function that condenses the rows of a turned table. -/
def condensing (r : Rules) : Rule Part := do
  match (← next).map Item.token with
  | some (.word ..) =>
    let ps ← call r
    if ← keyword? "AS" then discard ident
    return .expr (.call ps)
  | _ => expectedHere "a function identifier"

/-- Rows that become columns, behind the word `PIVOT`. -/
def rowsToColumns (r : Rules) : Rule (List Part) := do
  symbol "("
  let condensed ← commaSeparated (condensing r)
  keyword "FOR"
  let column : Rule Part := .expr <$> r.expr Strength.compare
  let columns ←
    if ← atSymbol "(" then bracketed (commaSeparated column)
    else do
      let c ← column
      pure [c]
  keyword "IN"
  let source ← bracketed do
    if ← keyword? "ANY" then partsAfter ["ORDER", "BY"] (orderEntries r)
    else if ← atSubquery then r.queryParts
    else commaSeparated (renamedExpr r)
  let standard ← partsAfter ["DEFAULT", "ON", "NULL"] (bracketed r.part)
  symbol ")"
  discard <| tableAlias? r
  return condensed ++ columns ++ source ++ standard

/-- Columns that become rows, behind the word `UNPIVOT`. -/
def columnsToRows (r : Rules) : Rule (List Part) := do
  if (← oneOf? ["INCLUDE", "EXCLUDE"]).isSome then keyword "NULLS"
  symbol "("
  let cell ← r.part
  keyword "FOR"
  discard ident
  keyword "IN"
  unless ← atSymbol "(" do expectedHere "a list of columns in parentheses"
  let columns ← bracketed (commaSeparated (renamedExpr r))
  symbol ")"
  discard <| tableAlias? r
  return cell ++ columns

/-- The table `t` turned as often as the words for it follow. -/
def turned (r : Rules) (t : TableOutline) : Rule TableOutline := do
  let turns ← collect do
    match ← oneOf? ["PIVOT", "UNPIVOT"] with
    | some "PIVOT" => some <$> rowsToColumns r
    | some _ => some <$> columnsToRows r
    | none => return none
  if turns.isEmpty then return t else return ⟨t.parts ++ turns.flatten, false⟩

/-! ### Tables read from documents -/

/-- A table read from a document, behind the word `JSON_TABLE`. -/
def documentTable (r : Rules) : Rule TableOutline := do
  let ps ← bracketed do
    let e ← r.part
    symbol ","
    discard value
    keyword "COLUMNS"
    let fuel := (← read).items.size + 1
    discard <| bracketed (commaSeparated (documentColumn r fuel))
    return e
  discard <| tableAlias? r
  return ⟨ps, false⟩

/-- A table read from a document, behind the word `OPENJSON`. -/
def openedTable (r : Rules) : Rule TableOutline := do
  let ps ← bracketed do
    let e ← r.part
    if ← symbol? "," then discard value
    return e
  if ← keyword? "WITH" then
    discard <| bracketed <| commaSeparated do
      discard ident
      discard (dataType r)
      match (← peek).map Item.token with
      | some (.text '\'' _) => advance
      | _ => pure ()
      if ← keyword? "AS" then keyword "JSON"
  discard <| tableAlias? r
  return ⟨ps, false⟩

/-- A column read from a marked-up document. -/
def markupColumn (r : Rules) : Rule (List Part) := do
  discard ident
  if ← keyword? "FOR" then
    keyword "ORDINALITY"
    return []
  discard (dataType r)
  let path ← partsAfter ["PATH"] r.part
  let standard ← partsAfter ["DEFAULT"] r.part
  unless ← keywords? ["NOT", "NULL"] do discard <| keyword? "NULL"
  return path ++ standard

/-- A document that is passed on, perhaps by its value. -/
def passedDocument (r : Rules) : Rule Part := do
  if ← keyword? "BY" then discard <| keyword? "VALUE"
  renamedExpr r

/-- A table read from a marked-up document, behind the word `XMLTABLE`. -/
def markupTable (r : Rules) : Rule TableOutline := do
  let ps ← bracketed do
    let spaces ←
      if ← keyword? "XMLNAMESPACES" then do
        let spaces ← bracketed <| commaSeparated do
          let e ← r.anyExpr
          keyword "AS"
          discard ident
          return Part.expr e
        symbol ","
        pure spaces
      else pure []
    let rows ← r.part
    let passed ← if ← keyword? "PASSING" then commaSeparated (passedDocument r) else pure []
    keyword "COLUMNS"
    let columns ← commaSeparated (markupColumn r)
    return spaces ++ rows ++ passed ++ columns.flatten
  discard <| tableAlias? r
  return ⟨ps, false⟩

/-! ### Tables to read from -/

/-- Step over the keyword `k` if it comes next with an opening bracket behind it. -/
def functionWord? (k : String) : Rule Bool := do
  if (← atKeyword k) && ((← peekAt 1).map Item.token) == some (.symbol "(") then
    advance
    return true
  else return false

/-- A query as a table, behind its opening bracket. -/
def derivedTable (r : Rules) : Rule TableOutline := do
  let ps ← r.queryParts
  symbol ")"
  discard <| tableAlias? r
  return ⟨ps, false⟩

/-- The arguments of a function that gives a table, behind the opening bracket. -/
def tableArguments (r : Rules) : Rule (List Part) := do
  if ← symbol? ")" then return []
  let args ← commaSeparated (argument r)
  symbol ")"
  return args.flatten

/-- A named table with its other name, or a function that gives a table. -/
def namedTable (r : Rules) : Rule TableOutline := do
  let path ← name
  if ← keyword? "PARTITION" then discard identList
  let args ← if ← symbol? "(" then tableArguments r else pure []
  discard <| keywords? ["WITH", "ORDINALITY"]
  let aliasName ← tableAlias? r
  discard <| attempt indexHints
  let hints ←
    if ← keyword? "WITH" then
      if ← atSymbol "(" then bracketed r.parts
      else do
        retreat
        pure []
    else pure []
  let size ← sample? r
  return ⟨[.factor path aliasName, .relation path] ++ args ++ hints ++ size, false⟩

/-- A table to read from.  Of a bracketed one, `isJoin` says whether it is a join. -/
def tableFactor (r : Rules) : Rule TableOutline := do
  if ← keyword? "LATERAL" then
    if ← symbol? "(" then return ← derivedTable r
    discard name
    symbol "("
    let args ← tableArguments r
    discard <| tableAlias? r
    return ⟨args, false⟩
  else if ← keyword? "TABLE" then
    let ps ← bracketed r.part
    discard <| tableAlias? r
    return ⟨ps, false⟩
  else if ← symbol? "(" then
    match ← attempt (derivedTable r) with
    | some t => turned r t
    | none =>
      let t ← r.table
      unless t.isJoin do expectedHere "joined table"
      symbol ")"
      discard <| tableAlias? r
      return ⟨t.parts, true⟩
  else if ← functionWord? "JSON_TABLE" then documentTable r
  else if ← functionWord? "OPENJSON" then openedTable r
  else if ← functionWord? "XMLTABLE" then markupTable r
  else turned r (← namedTable r)

/-- What a join depends on. -/
def joinCondition (r : Rules) : Rule (List Part) := do
  if ← keyword? "ON" then r.part
  else if ← keyword? "USING" then
    if ← atSymbol "(" then discard <| bracketed (commaSeparated name)
    else expectedHere "a list of columns in parentheses"
    return []
  else return []

/-- What has to follow a joined table. -/
inductive JoinTail
  /-- Nothing. -/
  | bare
  /-- A condition may follow. -/
  | conditional
  /-- A condition on the nearest match has to follow, then another condition may. -/
  | nearest

/-- The words that join a table; nothing if there are none. -/
def joinWords? : Rule (Option JoinTail) := do
  discard <| keyword? "GLOBAL"
  if ← keyword? "CROSS" then
    if ← keyword? "JOIN" then return some .conditional
    else if ← keyword? "APPLY" then return some .bare
    else expectedHere "JOIN or APPLY after CROSS"
  else if ← keyword? "OUTER" then
    keyword "APPLY"
    return some .bare
  else if ← keyword? "ASOF" then
    keyword "JOIN"
    return some .nearest
  else
    let natural ← keyword? "NATURAL"
    let tail := if natural then JoinTail.bare else .conditional
    match ← oneOf? ["INNER", "JOIN", "LEFT", "RIGHT", "ANTI", "SEMI", "FULL", "STRAIGHT_JOIN"] with
    | some "JOIN" | some "STRAIGHT_JOIN" => return some tail
    | some "FULL" =>
      discard <| keyword? "OUTER"
      keyword "JOIN"
      return some tail
    | some k =>
      if k = "LEFT" || k = "RIGHT" then
        match ← oneOf? ["OUTER", "SEMI", "ANTI", "JOIN"] with
        | some "JOIN" => pure ()
        | some _ => keyword "JOIN"
        | none => reject ("expected OUTER, SEMI, ANTI or JOIN after " ++ k)
      else keyword "JOIN"
      return some tail
    | none =>
      unless natural do return none
      if ← atKeyword "OUTER" then expectedHere "LEFT, RIGHT, or FULL"
      else expectedHere "a join type after NATURAL"

/-- The parts of what follows a joined table. -/
def joinTail (r : Rules) (tail : JoinTail) : Rule (List Part) := do
  match tail with
  | .bare => return []
  | .conditional => joinCondition r
  | .nearest =>
    keyword "MATCH_CONDITION"
    let nearest ← bracketed r.part
    return nearest ++ (← joinCondition r)

/-- A table with the tables joined to it. -/
def joinedTable (r : Rules) : Rule TableOutline := do
  let first ← tableFactor r
  let joins ← collect do
    match ← joinWords? with
    | none => return none
    | some tail =>
      let t ← tableFactor r
      return some (t.parts ++ (← joinTail r tail))
  return ⟨first.parts ++ joins.flatten, first.isJoin || !joins.isEmpty⟩

/-- Tables separated by commas. -/
def tables (r : Rules) : Rule (List Part) := do
  return (← commaSeparated (joinedTable r)).flatMap (·.parts)

/-! ### Selections -/

/-- A selected item with its other name. -/
def selectedItem (r : Rules) : Rule (List Part) := do
  match ← selectionExpr r with
  | none => return []
  | some e =>
    match e with
    | .column [⟨t, none⟩] =>
      if String.ofList (Unicode.lower t.toList) = "from" then
        reject ("Expected an expression, found: " ++ t ++ placeOf (← peek))
    | _ => pure ()
    discard <| alias? notColumnAliases
    return [.expr e]

/-- Selected items, separated by commas. -/
def selectedItems (r : Rules) : Rule (List Part) := do
  return (← commaSeparated (selectedItem r)).flatten

/-- What comes between `SELECT` and the items: which rows are kept. -/
def quantity (r : Rules) : Rule (List Part) := do
  let found ← peek
  let all ← keyword? "ALL"
  let distinct ←
    if ← keyword? "DISTINCT" then do
      if all then reject ("Cannot specify both ALL and DISTINCT" ++ placeOf found)
      if ← keyword? "ON" then bracketed (do
        if ← atSymbol ")" then return [] else r.parts)
      else pure []
    else pure []
  let top ←
    if ← keyword? "TOP" then do
      let amount ←
        if ← atSymbol "(" then bracketed r.part
        else do
          discard unsigned
          pure []
      discard <| keyword? "PERCENT"
      discard <| keywords? ["WITH", "TIES"]
      pure amount
    else pure []
  return distinct ++ top

/-- A set of expressions to group by: a single one, or any number of them between brackets. -/
def groupingSet (r : Rules) : Rule (List Part) := do
  if ← symbol? "(" then
    let es ← commaSeparatedUntil ")" r.anyExpr
    symbol ")"
    return es.map .expr
  else r.part

/-- Groups of rows. -/
def grouping (r : Rules) : Rule (List Part) := do
  unless ← keywords? ["GROUP", "BY"] do return []
  let es ← if ← keyword? "ALL" then pure [] else r.parts
  let sets ← partsAfter ["GROUPING", "SETS"] do
    return (← bracketed (commaSeparated (groupingSet r))).flatten
  return es ++ sets

/-- A window with a name. -/
def namedWindow (r : Rules) : Rule (List Part) := do
  discard ident
  keyword "AS"
  if ← symbol? "(" then window r else expectedHere "("

/-- Named windows and a condition on windows, in either order. -/
def windows (r : Rules) : Rule (List Part) := do
  let named : Rule (List Part) := do return (← commaSeparated (namedWindow r)).flatten
  if ← keyword? "WINDOW" then
    let ws ← named
    return ws ++ (← partsAfter ["QUALIFY"] r.part)
  else if ← keyword? "QUALIFY" then
    let condition ← r.part
    return (← partsAfter ["WINDOW"] named) ++ condition
  else return []

/-- Rows that an expression unfolds into. -/
def lateralViews (r : Rules) : Rule (List Part) := do
  let views ← collect do
    if ← keywords? ["LATERAL", "VIEW"] then
      discard <| keyword? "OUTER"
      let e ← r.part
      discard name
      discard <| commaSeparated (alias? ["WHERE", "GROUP", "CLUSTER", "HAVING", "LATERAL"])
      return some e
    else return none
  return views.flatten

/-- The table that rows are written to, if the word `INTO` comes next. -/
def intoTable : Rule Unit := do
  if ← keyword? "INTO" then
    discard <| oneOf? ["TEMP", "TEMPORARY"]
    discard <| keyword? "UNLOGGED"
    discard <| keyword? "TABLE"
    discard name

/-- One `SELECT`, behind that word. -/
def selection (r : Rules) : Rule (List Part) := do
  let kept ← quantity r
  let items ← selectedItems r
  intoTable
  let sources ← partsAfter ["FROM"] (tables r)
  let views ← lateralViews r
  let condition ← partsAfter ["WHERE"] r.part
  let groups ← grouping r
  let clusters ← partsAfter ["CLUSTER", "BY"] r.parts
  let distribution ← partsAfter ["DISTRIBUTE", "BY"] r.parts
  let sorting ← partsAfter ["SORT", "BY"] (orderEntries r)
  let having ← partsAfter ["HAVING"] r.part
  let named ← windows r
  return kept ++ items ++ sources ++ views ++ condition ++ groups ++ clusters ++ distribution
    ++ sorting ++ having ++ named

/-! ### Queries -/

/-- Rows of values, behind the word `VALUES`.  A row may be empty. -/
def rows (r : Rules) : Rule QueryOutline := do
  let rows ← commaSeparated do
    discard <| keyword? "ROW"
    symbol "("
    if ← symbol? ")" then return []
    let es ← r.exprs
    symbol ")"
    return es
  return ⟨rows.flatten.map .expr, rows.head?⟩

/-- The table behind the word `TABLE`.  Three tokens are read whether its name is qualified or
not. -/
def wholeTable : Rule QueryOutline := do
  let first ← next
  let second ← next
  let third ← next
  let isWord (i : Option Item) : Bool := match i.map Item.token with
    | some (.word ..) => true
    | _ => false
  if second.map Item.token == some (.symbol ".") then
    unless isWord first do expected "Schema name" first
    unless isWord third do expected "Table name" third
  else unless isWord first do expected "Table name" first
  return ⟨[], none⟩

/-- A selection, rows, or a query between brackets. -/
def simpleBody (r : Rules) : Rule QueryOutline := do
  if ← keyword? "SELECT" then return ⟨← selection r, none⟩
  else if ← symbol? "(" then
    let ps ← r.queryParts
    symbol ")"
    return ⟨ps, none⟩
  else if ← keyword? "VALUES" then rows r
  else if ← keyword? "TABLE" then wholeTable
  else expectedHere "SELECT, VALUES, or a subquery in the query body"

/-- Which rows a set operator keeps. -/
def setQuantifier : Rule Unit := do
  if ← anyOf [keywords? ["DISTINCT", "BY", "NAME"], keywords? ["BY", "NAME"]] then return ()
  if ← keyword? "ALL" then discard <| keywords? ["BY", "NAME"]
  else discard <| keyword? "DISTINCT"

/-- Operands of `INTERSECT`, which binds more tightly than the other set operators. -/
def intersection (r : Rules) : Rule QueryOutline := do
  let first ← simpleBody r
  let more ← collect do
    if ← keyword? "INTERSECT" then
      setQuantifier
      return some (← simpleBody r).parts
    else return none
  if more.isEmpty then return first else return ⟨first.parts ++ more.flatten, none⟩

/-- The body of a query: selections and rows combined by set operators. -/
def queryBody (r : Rules) : Rule QueryOutline := do
  let first ← intersection r
  let more ← collect do
    match ← oneOf? ["UNION", "EXCEPT", "MINUS"] with
    | some _ =>
      setQuantifier
      return some (← intersection r).parts
    | none => return none
  if more.isEmpty then return first else return ⟨first.parts ++ more.flatten, none⟩

/-- A query with a name, in front of another one. -/
def namedQuery (r : Rules) : Rule (String × List Part) := do
  let n ← ident
  unless ← keyword? "AS" do
    aliasColumns r
    keyword "AS"
  let ps ← bracketed r.queryParts
  if ← keyword? "FROM" then discard ident
  return (n.text, ps)

/-- How many rows a query gives: a limit, an offset, or both. -/
def limits (r : Rules) : Rule (List Part) := do
  let offset : Rule (List Part) := do
    let e ← r.part
    discard <| oneOf? ["ROW", "ROWS"]
    return e
  let skipped ← after? "OFFSET" offset
  if ← keyword? "LIMIT" then
    let limit ← if ← keyword? "ALL" then pure none else some <$> r.part
    if skipped.isNone && limit.isSome then
      if ← symbol? "," then return limit.getD [] ++ (← r.part)
    let skippedAfter ← if skipped.isNone then after? "OFFSET" offset else pure none
    return limit.getD [] ++ skipped.getD [] ++ skippedAfter.getD []
  else return skipped.getD []

/-- How many rows are fetched, behind the word `FETCH`. -/
def fetchClause : Rule Unit := do
  discard <| oneOf? ["FIRST", "NEXT"]
  if (← oneOf? ["ROW", "ROWS"]).isNone then
    discard value
    discard <| keyword? "PERCENT"
    discard <| oneOf? ["ROW", "ROWS"]
  unless ← keyword? "ONLY" do discard <| keywords? ["WITH", "TIES"]

/-- A lock on the rows, behind the word `FOR`. -/
def lockClause : Rule Unit := do
  discard <| oneOf ["UPDATE", "SHARE"]
  if ← keyword? "OF" then discard name
  unless ← keyword? "NOWAIT" do discard <| keywords? ["SKIP", "LOCKED"]

/-- A text between brackets behind a keyword, if a bracket comes next. -/
def bracketedText? : Rule Unit := do
  if ← atSymbol "(" then discard <| bracketed literalText

/-- What is said about a document behind commas; anything else may stand behind the last one. -/
def documentOptions (options : List (Rule Bool)) : Rule Unit := do
  discard <| collect do
    if ← symbol? "," then
      discard <| anyOf options
      return some ()
    else return none

/-- The rows become a document, behind the words `FOR XML`. -/
def markupClause : Rule Unit := do
  match ← oneOf? ["RAW", "AUTO", "EXPLICIT", "PATH"] with
  | none => reject "Expected FOR XML [RAW | AUTO | EXPLICIT | PATH ]"
  | some k => if k = "RAW" || k = "PATH" then bracketedText?
  documentOptions
    [keyword? "ELEMENTS", clause "BINARY" (keyword "BASE64"),
     clause "ROOT" (bracketed literalText), keyword? "TYPE"]

/-- The rows become a document, behind the words `FOR JSON`. -/
def documentClause : Rule Unit := do
  if (← oneOf? ["AUTO", "PATH"]).isNone then reject "Expected FOR JSON [AUTO | PATH ]"
  documentOptions
    [clause "ROOT" (bracketed literalText), keyword? "INCLUDE_NULL_VALUES",
     keyword? "WITHOUT_ARRAY_WRAPPER"]

/-- What the rows are for, behind the word `FOR`: a form in which they are given, or a lock.  Only
behind a lock something else may follow. -/
def purpose? : Rule (Option Unit) := do
  if ← keyword? "XML" then
    markupClause
    return none
  if ← keyword? "JSON" then
    documentClause
    return none
  if ← keyword? "BROWSE" then return none
  lockClause
  return some ()

/-- A query.  `change` reads the statement behind one of the words `INSERT`, `UPDATE`, `DELETE`
and `MERGE`, which may take the place of the body. -/
def query (r : Rules) (change : String → Rule (List Part)) : Rule QueryOutline := guarded do
  let named ←
    if ← keyword? "WITH" then do
      discard <| keyword? "RECURSIVE"
      commaSeparated (namedQuery r)
    else pure []
  let front := Part.query (named.map (·.1)) :: named.flatMap (·.2)
  match ← oneOf? ["INSERT", "UPDATE", "DELETE", "MERGE"] with
  | some k => return ⟨front ++ (← change k), none⟩
  | none =>
    let body ← queryBody r
    let order ← partsAfter ["ORDER", "BY"] (orderEntries r)
    let limit ← limits r
    if ← keyword? "FETCH" then fetchClause
    discard <| collect do
      if ← keyword? "FOR" then purpose? else return none
    return ⟨front ++ body.parts ++ order ++ limit, body.firstRow⟩

end SqlAnalysis.Sql.Grammar
