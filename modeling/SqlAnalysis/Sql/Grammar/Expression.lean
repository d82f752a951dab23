import SqlAnalysis.Sql.Grammar.DataType
import SqlAnalysis.Sql.Grammar.Value
import SqlAnalysis.Text.Quoted

/-!
# Expressions

An expression is read by the strength of its operators: a first operand, then operators as long
as they bind more tightly than what stands in front of the expression.  A word that starts a
special form (`CASE`, `CAST`, `EXTRACT`, …) is an ordinary name or function when the special
form does not fit, with four exceptions.

## Main definitions

* `Strength` — how tightly the operators bind.
* `operand` — a first operand.
* `operation` — an operator with its right operand.
* `expression` — an expression whose operators are stronger than a given one.
* `call` — the arguments of a function and what may follow them.
* `selectionExpr` — an expression, or a star.
-/

namespace SqlAnalysis.Sql.Grammar

/-! ### Operators -/

namespace Strength

/-- The point of a qualified name. -/
def point : Nat := 100
/-- Conversions and subscripts. -/
def conversion : Nat := 50
/-- `AT TIME ZONE`. -/
def zone : Nat := 41
/-- Products. -/
def product : Nat := 40
/-- Sums. -/
def sum : Nat := 30
/-- `XOR`. -/
def xor : Nat := 24
/-- The conjunction of bits. -/
def bitAnd : Nat := 23
/-- The exclusive disjunction of bits, and shifts. -/
def bitXor : Nat := 22
/-- The disjunction of bits. -/
def bitOr : Nat := 21
/-- Comparisons. -/
def compare : Nat := 20
/-- Patterns. -/
def like : Nat := 19
/-- `IS`. -/
def is : Nat := 17
/-- Arrows. -/
def arrow : Nat := 16
/-- `NOT`. -/
def not : Nat := 15
/-- `AND`. -/
def and : Nat := 10
/-- `OR`. -/
def or : Nat := 5

/-- The strength of a symbol as an operator; zero if it is none. -/
def ofSymbol (s : String) : Nat :=
  match s with
  | "." => point
  | "::" | "!" | "[" | "^@" => conversion
  | "*" | "/" | "%" | "||" => product
  | "+" | "-" => sum
  | "&" => bitAnd
  | "^" | "<<" | ">>" => bitXor
  | "|" | "&&" | "@" => bitOr
  | ":=" | "=" | "==" | "<>" | "<" | "<=" | ">" | ">=" | "<=>" | "~" | "~*" | "!~" | "!~*"
  | "~~" | "~~*" | "!~~" | "!~~*" => compare
  | "->" | "->>" | "@>" | "<@" | "@?" | "@@" => arrow
  | _ => 0

/-- The strength of a keyword as an operator, where `second` and `third` are the keywords
behind it; zero if it is none.  `NOT` is as strong as the operator that it negates. -/
def ofKeyword (inColumn : Bool) (k second third : String) : Nat :=
  match k with
  | "OR" => or
  | "AND" => and
  | "XOR" => xor
  | "AT" => if second = "TIME" && third = "ZONE" then zone else 0
  | "NOT" =>
    match second with
    | "IN" | "BETWEEN" => compare
    | "LIKE" | "ILIKE" | "RLIKE" | "REGEXP" | "MATCH" | "SIMILAR" | "MEMBER" => like
    | "NULL" => if inColumn then 0 else is
    | _ => 0
  | "IS" => is
  | "IN" | "BETWEEN" | "OVERLAPS" | "OPERATOR" => compare
  | "LIKE" | "ILIKE" | "RLIKE" | "REGEXP" | "MATCH" | "SIMILAR" | "MEMBER" => like
  | "DIV" => product
  | _ => 0

/-- The strength of the next token as an operator. -/
def next : Rule Nat := fun c pos =>
  let key (n : Nat) : String := (c.items[pos + n]?.map (·.keyword)).getD ""
  match c.items[pos]?.map Item.token with
  | some (.word ..) => .ok (ofKeyword c.inColumn (key 0) (key 1) (key 2)) pos
  | some (.symbol s) => .ok (ofSymbol s) pos
  | _ => .ok 0 pos

end Strength

/-- The comparison that a symbol stands for. -/
def comparison? (s : String) : Option Comparison :=
  match s with
  | "=" | "==" => some .equal
  | "<>" => some .notEqual
  | "<" => some .less
  | "<=" => some .lessEqual
  | ">" => some .greater
  | ">=" => some .greaterEqual
  | "<=>" => some .nullSafeEqual
  | _ => none

/-- The symbols that stand between two operands. -/
def binarySymbols : List String :=
  ["=", "==", "<>", "<", "<=", ">", ">=", "<=>", ":=", "+", "-", "*", "/", "%", "||", "|", "^",
   "&", "~", "~*", "!~", "!~*", "~~", "~~*", "!~~", "!~~*", "->", "->>", "@>", "<@", "@?", "@@"]

/-- The keywords that stand between two operands. -/
def binaryKeywords : List String :=
  ["AND", "OR", "XOR", "OVERLAPS"]

/-- The operators that compare with any or all values of a list. -/
def quantifiableSymbols : List String :=
  ["=", "==", "<>", "<", "<=", ">", ">=", "~", "~*", "!~", "!~*", "~~", "~~*", "!~~", "!~~*"]

/-! ### Small forms -/

/-- A subquery comes next. -/
def atSubquery : Rule Bool :=
  atOneOf ["SELECT", "WITH"]

/-- Units of time. -/
def timeUnits : List String :=
  ["YEAR", "YEARS", "MONTH", "MONTHS", "WEEK", "WEEKS", "DAY", "DAYS", "HOUR", "HOURS", "MINUTE",
   "MINUTES", "SECOND", "SECONDS", "CENTURY", "DECADE", "DOW", "DOY", "EPOCH", "ISODOW", "ISOYEAR",
   "JULIAN", "MICROSECOND", "MICROSECONDS", "MILLENIUM", "MILLENNIUM", "MILLISECOND",
   "MILLISECONDS", "NANOSECOND", "NANOSECONDS", "QUARTER", "TIMEZONE", "TIMEZONE_HOUR",
   "TIMEZONE_MINUTE"]

/-- Fields of a date or a time. -/
def timeFields : List String :=
  timeUnits ++ ["DATE", "DATETIME", "DAYOFWEEK", "DAYOFYEAR", "ISOWEEK", "TIME", "TIMEZONE_ABBR",
    "TIMEZONE_REGION"]

/-- A field of a date or a time. -/
def timeField : Rule String := do
  let found ← next
  let k := (found.map Item.keyword).getD ""
  if timeFields.contains k then return k else expected "date/time field" found

/-- An interval, behind the word `INTERVAL`: an amount and its unit. -/
def interval (r : Rules) : Rule Expr := do
  let amount ← r.anyExpr
  unless ← atOneOf timeUnits do
    reject ("INTERVAL requires a unit after the literal value" ++ placeOf (← peek))
  let unit ← timeField
  if unit = "SECOND" then DataType.twoPrecisions
  else
    discard DataType.precision
    if ← keyword? "TO" then
      let last ← timeField
      if last = "SECOND" then discard DataType.precision
  return .other [.expr amount]

/-- An entry of an order: an expression and its direction. -/
def orderEntry (r : Rules) : Rule Expr := do
  let e ← r.anyExpr
  discard <| oneOf? ["ASC", "DESC"]
  unless ← keywords? ["NULLS", "FIRST"] do discard <| keywords? ["NULLS", "LAST"]
  return e

/-- Entries of an order, separated by commas. -/
def orderEntries (r : Rules) : Rule (List Part) := do
  return (← commaSeparated (orderEntry r)).map .expr

/-- An expression, or a star that may be qualified; a star has no parts. -/
def selectionExpr (r : Rules) : Rule (Option Expr) := do
  let start ← get
  let found ← next
  match found.map Item.token with
  | some (.symbol "*") => return none
  | some (.word ..) | some (.text '\'' _) =>
    let star ← collect do
      if ← symbol? "." then
        let part ← next
        match part.map Item.token with
        | some (.word ..) | some (.text '\'' _) => return some ()
        | some (.symbol "*") => return none
        | _ => expected "an identifier or a '*' after '.'" part
      else return none
    -- The names are at an end here; only a star ends behind a point.
    let length := 2 * star.length + 1
    if start + length < (← get) then return none
    else
      set start
      return some (← r.anyExpr)
  | _ =>
    set start
    return some (← r.anyExpr)

/-- The parts of an expression or a star. -/
def selectionParts (r : Rules) : Rule (List Part) := do
  return ((← selectionExpr r).map Part.expr).toList

/-! ### Windows -/

/-- A bound of a window frame. -/
def frameBound (r : Rules) : Rule (List Part) := do
  if ← keywords? ["CURRENT", "ROW"] then return []
  let rows ←
    if ← keyword? "UNBOUNDED" then pure []
    else
      match (← peek).map Item.token with
      | some (.text '\'' _) => do pure [Part.expr (← interval r)]
      | _ => r.part
  match ← oneOf? ["PRECEDING", "FOLLOWING"] with
  | some _ => return rows
  | none => expectedHere "PRECEDING or FOLLOWING"

/-- A window behind its opening bracket. -/
def window (r : Rules) : Rule (List Part) := do
  if (← peek).any (·.token.isPlainWord) then discard ident
  let partition ← partsAfter ["PARTITION", "BY"] r.parts
  let order ← partsAfter ["ORDER", "BY"] (orderEntries r)
  if ← symbol? ")" then return partition ++ order
  let found ← next
  unless found.any (["ROWS", "RANGE", "GROUPS"].contains ·.keyword) do
    expected "ROWS, RANGE, GROUPS" found
  let frame ←
    if ← keyword? "BETWEEN" then do
      let first ← frameBound r
      keyword "AND"
      pure (first ++ (← frameBound r))
    else frameBound r
  symbol ")"
  return partition ++ order ++ frame

/-! ### Functions -/

/-- The name of an argument and the sign behind it. -/
def argumentName : Rule Unit := do
  discard ident
  unless ← keyword? "VALUE" do
    unless ← symbol? "=>" do expectedHere "argument operator"

/-- An argument of a function, which may have a name. -/
def argument (r : Rules) : Rule (List Part) := do
  let named ← attempt do
    argumentName
    selectionParts r
  match named with
  | some ps => return ps
  | none => selectionParts r

/-- What a function does with missing values in a document. -/
def missingClause : Rule Unit := do
  unless ← keywords? ["ABSENT", "ON", "NULL"] do discard <| keywords? ["NULL", "ON", "NULL"]

/-- What a list of values does when it overflows: it fails, or it is cut off, perhaps with a
filler at the end. -/
def overflowClause (r : Rules) : Rule (List Part) := do
  unless ← keywords? ["ON", "OVERFLOW"] do return []
  if ← keyword? "ERROR" then return []
  keyword "TRUNCATE"
  let filler ←
    if ← atOneOf ["WITH", "WITHOUT"] then pure []
    else
      match (← peek).map Item.token with
      | some (.text '\'' _) | some (.marked 'N' ..) | some (.hex _) => r.part
      | _ => expectedHere "either filler, WITH, or WITHOUT in LISTAGG"
  if (← oneOf? ["WITH", "WITHOUT"]).isNone then expectedHere "either WITH or WITHOUT in LISTAGG"
  keyword "COUNT"
  return filler

/-- The type of what a function gives back. -/
def returningClause (r : Rules) : Rule (List Part) := do
  if ← keyword? "RETURNING" then return (← dataType r).parts else return []

/-- The arguments of a function behind the opening bracket, up to the closing one. -/
def arguments (r : Rules) : Rule (List Part) := do
  missingClause
  let type ← returningClause r
  if ← symbol? ")" then return type
  let found ← peek
  if ← keyword? "ALL" then
    if ← keyword? "DISTINCT" then
      reject ("Cannot specify both ALL and DISTINCT" ++ placeOf found)
  else discard <| keyword? "DISTINCT"
  let args ← commaSeparated (argument r)
  let order ← partsAfter ["ORDER", "BY"] (orderEntries r)
  let limit ← partsAfter ["LIMIT"] r.part
  if ← keyword? "SEPARATOR" then discard value
  let filler ← overflowClause r
  missingClause
  let typeBehind ← returningClause r
  symbol ")"
  return args.flatten ++ type ++ order ++ limit ++ filler ++ typeBehind

/-- The arguments of a function and what may follow them. -/
def call (r : Rules) : Rule (List Part) := do
  symbol "("
  let args ← arguments r
  let within ←
    if ← keywords? ["WITHIN", "GROUP"] then
      bracketed do
        keywords ["ORDER", "BY"]
        orderEntries r
    else pure []
  if (← oneOf? ["RESPECT", "IGNORE"]).isSome then keyword "NULLS"
  let windowParts ←
    if ← keyword? "OVER" then
      if ← symbol? "(" then window r
      else do
        discard ident
        pure []
    else pure []
  return args ++ windowParts ++ within

/-! ### Words that start an expression -/

/-- A word that starts no special form: a function, a text with a character set in front of it,
or a column. -/
def plainWord (r : Rules) (word : String) (quoted : Bool) : Rule Expr := do
  match (← peek).map Item.token with
  | some (.symbol "(") => return .call (← call r)
  | some (.text ..) | some (.hex _) =>
    if word.startsWith "_" then
      advance
      return .other []
    else return .column [⟨word, if quoted then some '`' else none⟩]
  | _ => return .column [⟨word, if quoted then some '`' else none⟩]

/-- The branches of a `CASE`, behind the first `WHEN`. -/
def caseBranches (r : Rules) : Rule (List Part) := do
  let branch : Rule (List Part) := do
    let condition ← r.anyExpr
    keyword "THEN"
    return [.expr condition, .expr (← r.anyExpr)]
  let first ← branch
  let more ← collect (after? "WHEN" branch)
  return first ++ more.flatten

/-- A `CASE`, behind that word. -/
def caseExpr (r : Rules) : Rule Expr := do
  let operand ←
    if ← keyword? "WHEN" then pure []
    else do
      let e ← r.anyExpr
      keyword "WHEN"
      pure [Part.expr e]
  let branches ← caseBranches r
  let otherwise ← partsAfter ["ELSE"] r.part
  keyword "END"
  return .other (operand ++ branches ++ otherwise)

/-- A conversion `CONVERT(…)`, behind that word. -/
def convertExpr (r : Rules) : Rule Expr := bracketed do
  let e ← r.anyExpr
  if ← keyword? "USING" then
    discard name
    return .other [.expr e]
  symbol ","
  let type ← dataType r
  if ← keywords? ["CHARACTER", "SET"] then discard name
  return .other (.expr e :: type.parts)

/-- A conversion `CAST(… AS …)`, behind the first word. -/
def castExpr (r : Rules) : Rule Expr := bracketed do
  let e ← r.anyExpr
  keyword "AS"
  let type ← dataType r
  if ← keyword? "FORMAT" then
    discard value
    if ← keywords? ["AT", "TIME", "ZONE"] then discard value
  return .other (.expr e :: type.parts)

/-- A test for rows, behind the word `EXISTS`. -/
def existsExpr (r : Rules) : Rule Expr := do
  return .other (← bracketed r.queryParts)

/-- A field of a date, behind the word `EXTRACT`. -/
def extractExpr (r : Rules) : Rule Expr := bracketed do
  discard timeField
  unless ← keyword? "FROM" do reject "Expected 'FROM' or ','"
  return .other (← r.part)

/-- A rounded number, behind the name of the function. -/
def roundedExpr (r : Rules) : Rule Expr := bracketed do
  let e ← r.anyExpr
  if ← keyword? "TO" then discard timeField
  else if ← symbol? "," then
    match ← value with
    | .number _ => pure ()
    | _ => reject "Scale field can only be of number type"
  return .other [.expr e]

/-- The position of a text in another one, behind the word `POSITION`. -/
def positionExpr (r : Rules) : Rule Expr := do
  let found ← attempt <| bracketed do
    let e ← r.expr Strength.compare
    keyword "IN"
    return Expr.other [.expr e, .expr (← r.anyExpr)]
  match found with
  | some e => return e
  | none => return .call (← call r)

/-- A part of a text, behind the name of the function. -/
def substringExpr (r : Rules) : Rule Expr := bracketed do
  let e ← r.anyExpr
  let start ← if ← anyOf [symbol? ",", keyword? "FROM"] then r.part else pure []
  let length ← if ← anyOf [keyword? "FOR", symbol? ","] then r.part else pure []
  return .other (.expr e :: start ++ length)

/-- A text with a part replaced, behind the word `OVERLAY`. -/
def overlayExpr (r : Rules) : Rule Expr := bracketed do
  let e ← r.anyExpr
  keyword "PLACING"
  let what ← r.anyExpr
  keyword "FROM"
  let start ← r.anyExpr
  let length ← partsAfter ["FOR"] r.part
  return .other ([.expr e, .expr what, .expr start] ++ length)

/-- A text without characters at its ends, behind the word `TRIM`. -/
def trimExpr (r : Rules) : Rule Expr := bracketed do
  discard <| oneOf? ["BOTH", "LEADING", "TRAILING"]
  let e ← r.anyExpr
  if ← keyword? "FROM" then
    let inner ← r.anyExpr
    return .other [.expr inner, .expr e]
  -- A list of characters is not accepted, but its comma is.
  discard <| symbol? ","
  return .other [.expr e]

/-- A search in texts, behind the word `MATCH`.  The columns are names and no expressions. -/
def matchExpr : Rule Expr := do
  if ← atSymbol "(" then discard <| bracketed (commaSeparated name)
  else expectedHere "a list of columns in parentheses"
  keyword "AGAINST"
  symbol "("
  discard value
  if ← keywords? ["IN", "NATURAL", "LANGUAGE", "MODE"] then
    discard <| keywords? ["WITH", "QUERY", "EXPANSION"]
  else unless ← keywords? ["IN", "BOOLEAN", "MODE"] do
    discard <| keywords? ["WITH", "QUERY", "EXPANSION"]
  symbol ")"
  return .other []

/-- An array, behind its opening bracket. -/
def arrayExpr (r : Rules) : Rule Expr := do
  let es ← commaSeparatedUntil "]" r.anyExpr
  symbol "]"
  return .other (es.map .expr)

/-- The negation of a condition, behind the word `NOT`. -/
def notExpr (r : Rules) : Rule Expr := do
  if ← keyword? "EXISTS" then existsExpr r
  else return .other [.expr (← r.expr Strength.not)]

/-- The special form that a keyword starts, behind that word; nothing if it starts none. -/
def specialForm (r : Rules) (k : String) : Rule (Option Expr) := do
  match k with
  | "TRUE" => return some (.value (.boolean true))
  | "FALSE" => return some (.value (.boolean false))
  | "NULL" => return some (.value .null)
  | "CURRENT_TIMESTAMP" | "CURRENT_TIME" | "CURRENT_DATE" | "LOCALTIME" | "LOCALTIMESTAMP" =>
    if ← symbol? "(" then return some (.call (← arguments r)) else return some (.call [])
  | "CASE" => some <$> caseExpr r
  | "CONVERT" => some <$> convertExpr r
  | "CAST" | "TRY_CAST" | "SAFE_CAST" => some <$> castExpr r
  | "EXISTS" => some <$> existsExpr r
  | "EXTRACT" => some <$> extractExpr r
  | "CEIL" | "FLOOR" => some <$> roundedExpr r
  | "POSITION" => if ← atSymbol "(" then some <$> positionExpr r else return none
  | "SUBSTR" | "SUBSTRING" => some <$> substringExpr r
  | "OVERLAY" => some <$> overlayExpr r
  | "TRIM" => some <$> trimExpr r
  | "INTERVAL" => some <$> interval r
  | "ARRAY" =>
    if ← symbol? "[" then some <$> arrayExpr r
    else if ← atSymbol "(" then return some (.call (← bracketed r.queryParts))
    else return none
  | "NOT" => some <$> notExpr r
  | "MATCH" => some <$> matchExpr
  | _ => return none

/-- Words that are never names when the form they start does not fit. -/
def neverNames : List String :=
  ["EXISTS", "INTERVAL", "STRUCT", "TRIM"]

/-- An operand with the collation behind it.  In the definition of a column the collation is an
option of the column. -/
def collated (e : Expr) : Rule Expr := do
  if (← read).inColumn then return e
  if ← keyword? "COLLATE" then
    discard name
    return .other [.expr e]
  else return e

/-- An expression that starts with a word, behind that word.  A name in the place of a form that
does not fit takes no collation. -/
def wordExpr (r : Rules) (k word : String) (quoted : Bool) : Rule Expr := do
  match ← outcome (specialForm r k) with
  | .ok (some e) => collated e
  | .ok none => collated (← plainWord r word quoted)
  | .error failure =>
    if neverNames.contains k then throw failure
    match ← outcome (plainWord r word quoted) with
    | .ok e => return e
    | .error _ => throw failure

/-! ### First operands -/

/-- A text with its type in front of it, or an interval. -/
def typedText (r : Rules) : Rule Expr := do
  let type ← dataType r
  match type.kind with
  | .interval => interval r
  | .named => reject "dummy"
  | .builtIn =>
    discard value
    return .other type.parts

/-- A function or a moment between curly brackets, behind the opening one. -/
def escapedForm (r : Rules) (brace : Option Item) : Rule Expr := do
  let function ← attempt do
    keyword "FN"
    discard name
    return Expr.call (← call r)
  let form ←
    match function with
    | some e => pure (some e)
    | none => attempt do
      let found ← next
      unless found.any (fun i => ["t", "d", "ts"].contains i.token.display) do
        expected "ODBC datetime keyword (t, d, or ts)" found
      discard value
      return Expr.other []
  match form with
  | some e =>
    symbol "\x7d"
    return e
  | none => expected "an expression" brace

/-- An expression, several of them, or a query, behind an opening round bracket. -/
def bracketExpr (r : Rules) : Rule Expr := do
  let e ←
    if ← atSubquery then do
      pure (.other (← r.queryParts))
    else do
      match ← r.exprs with
      | [e] => pure (.nested e)
      | es => pure (.other (es.map .expr))
  symbol ")"
  return e

/-- A first operand.  A text with its type in front of it takes no collation. -/
def operand (r : Rules) : Rule Expr := do
  match ← attempt (typedText r) with
  | some e => return e
  | none =>
    let found ← next
    match found.map Item.token with
    | some (.word t quoted) => wordExpr r ((found.map Item.keyword).getD "") t quoted
    | some (.symbol "[") => collated (← arrayExpr r)
    | some (.symbol "-") => collated (.negative (← r.expr Strength.product))
    | some (.symbol "+") => collated (.other [.expr (← r.expr Strength.product)])
    | some (.symbol "(") => collated (← bracketExpr r)
    | some (.symbol "\x7b") => collated (← escapedForm r found)
    | some (.number ..) | some (.text ..) | some (.marked ..) | some (.hex _)
    | some (.placeholder _) | some (.symbol ":") | some (.symbol "@") =>
      retreat
      collated (.value (← value))
    | _ => expected "an expression" found

/-! ### Points and subscripts -/

/-- What follows an operand: a point with a name or another operand, or a subscript. -/
inductive Link
  | point (e : Expr)
  | subscript (parts : List Part)

/-- The parts of a link.  The names of a qualified name are links of their own. -/
def Link.parts : Link → List Part
  | point (.column path) => path.map fun i => .expr (.column [i])
  | point e => [.expr e]
  | subscript ps => ps

/-- The names of a link that consists of names. -/
def Link.path? : Link → Option (List Ident)
  | point (.column path) => some path
  | _ => none

/-- A subscript behind its opening bracket: an index, or bounds with colons between them. -/
def subscript (r : Rules) : Rule (List Part) := do
  let lower ← if ← symbol? ":" then pure none else some <$> r.part
  if ← symbol? "]" then return lower.getD []
  if lower.isSome then symbol ":"
  if ← symbol? "]" then return lower.getD []
  let upper ← r.part
  if ← symbol? "]" then return lower.getD [] ++ upper
  symbol ":"
  if ← symbol? "]" then return lower.getD [] ++ upper
  let step ← r.part
  symbol "]"
  return lower.getD [] ++ upper ++ step

/-- A link, if one follows.  A point in front of a star is left alone. -/
def link? (r : Rules) : Rule (Option Link) := do
  if ← symbol? "." then
    match (← peek).map Item.token with
    | some (.symbol "*") => retreat; return none
    | some (.text '\'' s) => advance; return some (.point (.column [⟨s, some '\''⟩]))
    | _ => return some (.point (← r.expr Strength.point))
  else if ← symbol? "[" then return some (.subscript (← subscript r))
  else return none

/-- An operand with the links behind it: names make up a qualified column, names with a
function behind them a qualified function.  Otherwise every name is a column of its own. -/
def linked (root : Expr) (links : List Link) : Expr :=
  let whole := Expr.other (.expr root :: links.flatMap Link.parts)
  match links, root with
  | [], _ => root
  | _, .column path =>
    match links.mapM Link.path?, links.reverse with
    | some paths, _ => .column (path ++ paths.flatten)
    | none, .point (.call ps) :: before =>
      if before.all (·.path?.isSome) then .call ps else whole
    | _, _ => whole
  | _, _ => whole

/-! ### Operators behind an operand -/

/-- A list of values or a query to look in, behind the word `IN`. -/
def membership (r : Rules) (e : Expr) : Rule Expr := do
  if ← keyword? "UNNEST" then return .other (.expr e :: (← bracketed r.part))
  symbol "("
  let values ←
    match ← attempt r.queryParts with
    | some ps => pure ps
    | none => r.parts
  symbol ")"
  return .other (.expr e :: values)

/-- Two bounds, behind the word `BETWEEN`. -/
def betweenExpr (r : Rules) (e : Expr) : Rule Expr := do
  let low ← r.expr Strength.compare
  keyword "AND"
  let high ← r.expr Strength.compare
  return .other [.expr e, .expr low, .expr high]

/-- A pattern and its escape character. -/
def patternExpr (r : Rules) (e : Expr) : Rule Expr := do
  let pattern ← r.expr Strength.like
  if ← keyword? "ESCAPE" then discard value
  return .other [.expr e, .expr pattern]

/-- A test that may be negated: for patterns, membership and bounds. -/
def testExpr (r : Rules) (e : Expr) : Rule Expr := do
  let negated ← keyword? "NOT"
  let regexp ← keyword? "REGEXP"
  let rlike ← keyword? "RLIKE"
  let null ← if (← read).inColumn then pure false else keyword? "NULL"
  if regexp || rlike then return .other [.expr e, .expr (← r.expr Strength.like)]
  else if negated && null then return .other [.expr e]
  else if ← keyword? "IN" then membership r e
  else if ← keyword? "BETWEEN" then betweenExpr r e
  else if (← oneOf? ["LIKE", "ILIKE"]).isSome then
    discard <| keyword? "ANY"
    patternExpr r e
  else if ← keywords? ["SIMILAR", "TO"] then patternExpr r e
  else expectedHere "IN or BETWEEN after NOT"

/-- What a value is or is not, behind the word `IS`. -/
def isExpr (r : Rules) (e : Expr) : Rule Expr := do
  let simple (ks : List String) : Rule Bool := anyOf [keywords? ks, keywords? ("NOT" :: ks)]
  if ← anyOf [simple ["NULL"], simple ["TRUE"], simple ["FALSE"], simple ["UNKNOWN"]] then
    return .other [.expr e]
  if ← simple ["DISTINCT", "FROM"] then return .other [.expr e, .expr (← r.anyExpr)]
  discard <| keyword? "NOT"
  discard <| oneOf? ["NFC", "NFD", "NFKC", "NFKD"]
  if ← keyword? "NORMALIZED" then return .other [.expr e]
  expectedHere "[NOT] NULL | TRUE | FALSE | DISTINCT | [form] NORMALIZED FROM after IS"

/-- Any or all values of a list, behind that word. -/
def quantified (r : Rules) (e : Expr) (strength : Nat) (op : String) (place : Option Item) :
    Rule Expr := do
  symbol "("
  let values ←
    if ← atSubquery then do
      retreat
      r.expr strength
    else do
      let values ← r.expr strength
      symbol ")"
      pure values
  unless quantifiableSymbols.contains op do
    reject ("Expected one of [=, >, <, =>, =<, !=, ~, ~*, !~, !~*, ~~, ~~*, !~~, !~~*] as " ++
      "comparison operator, found: " ++ op ++ placeOf place)
  return .other [.expr e, .expr values]

/-- The result of a rule.  Where it fails the parser gives up. -/
def orGiveUp {α : Type} (rule : Rule α) : Rule α := do
  let giveUp (cause : String) : Rule α := fun _ pos =>
    .error (.panicked ("called `Result::unwrap()` on an `Err` value: " ++ cause)) pos
  match ← outcome rule with
  | .ok a => return a
  | .error (.rejected m) => giveUp ("ParserError(" ++ Text.quoted m ++ ")")
  | .error _ => giveUp "RecursionLimitExceeded"

/-- The name that a message gives to a token that joins no operands. -/
def operatorName (found : Option Item) : String :=
  match found.map Item.token with
  | some (.symbol "@") => "AtSign"
  | some (.symbol "&&") => "Overlap"
  | some (.symbol "<<") => "ShiftLeft"
  | some (.symbol ">>") => "ShiftRight"
  | some (.symbol "^@") => "CaretAt"
  | some (.symbol "!") => "ExclamationMark"
  | some (.symbol "[") => "LBracket"
  | some (.word t _) =>
    "Word(Word \x7b value: " ++ Text.quoted t ++ ", quote_style: None, keyword: " ++
      (found.map Item.keyword).getD "" ++ " \x7d)"
  | _ => shown found

/-- An integer division, behind its operator.  An operand has to follow, no matter what. -/
def division (r : Rules) (e : Expr) : Rule Expr := do
  return .other [.expr e, .expr (← orGiveUp r.anyExpr)]

/-- An operator of the given strength with its right operand, behind the operand `e`. -/
def operation (r : Rules) (e : Expr) (strength : Nat) : Rule Expr := do
  if ← keyword? "DIV" then return ← division r e
  let found ← next
  let k := (found.map Item.keyword).getD ""
  let op := match found.map Item.token with
    | some (.symbol s) => s
    | _ => k
  if binarySymbols.contains op || binaryKeywords.contains k then
    if (← oneOf? ["ANY", "ALL", "SOME"]).isSome then quantified r e strength op found
    else
      let right ← r.expr strength
      match comparison? op with
      | some c => return .comparison c e right
      | none => return .other [.expr e, .expr right]
  else
    match k with
    | "IS" => isExpr r e
    | "AT" =>
      keywords ["TIME", "ZONE"]
      return .other [.expr e, .expr (← r.expr strength)]
    | "NOT" | "IN" | "BETWEEN" | "LIKE" | "ILIKE" | "SIMILAR" | "REGEXP" | "RLIKE" =>
      retreat
      testExpr r e
    | "MEMBER" =>
      if ← keyword? "OF" then return .other (.expr e :: (← bracketed r.part))
      else expectedHere "OF after MEMBER"
    | _ =>
      if op = "::" then return .other (.expr e :: (← dataType r).parts)
      else reject ("No infix parser for token " ++ operatorName found ++ placeOf found)

/-- The operators behind the operand `e` that are stronger than `strength`. -/
def climb (r : Rules) (strength : Nat) : (fuel : Nat) → Expr → Rule Expr
  | 0, e => return e
  | fuel + 1, e => do
    let following ← Strength.next
    if following ≤ strength || following = Strength.point then return e
    else climb r strength fuel (← operation r e following)

/-- An expression whose operators are stronger than `strength`. -/
def expression (r : Rules) (strength : Nat) : Rule Expr := guarded do
  let root ← operand r
  climb r strength ((← read).items.size + 1) (linked root (← collect (link? r)))

end SqlAnalysis.Sql.Grammar
