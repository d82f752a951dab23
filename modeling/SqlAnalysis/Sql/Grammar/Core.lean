import SqlAnalysis.Sql.Lexer
import SqlAnalysis.Sql.Outline
import SqlAnalysis.Text.Split

/-!
# Rules of the grammar

A rule reads tokens from a position on and gives a result, or fails.  White space and comments
are gone; the tokens keep their places, for error messages end in the place of the token that
was not expected.  A failed rule stays where it stopped, and `attempt` is the only way back.

Rules that contain each other (expressions, queries, statements) are reached through a table
of rules, which `Grammar.Statement` closes with as many levels as a query can need.  Nesting of
the three is limited to fifty levels besides.

## Main definitions

* `Failure` — why a rule failed.
* `Rule` — a rule with its result.
* `Rules` — the rules that contain each other.
* `attempt`, `guarded`, `collect`, `commaSeparated` — the combinators.
-/

namespace SqlAnalysis.Sql.Grammar

/-- A token with the form by which it is recognised as a keyword. -/
structure Item where
  /-- The token. -/
  token : Token
  /-- Its keyword form; empty unless it is a bare word. -/
  keyword : String
  /-- The location of its first character. -/
  start : Location
  /-- White space or a comment right behind it. -/
  gap : Option Lexeme
  deriving Inhabited

/-- What stays the same while a rule reads tokens. -/
structure Context where
  /-- All tokens of the query but white space and comments. -/
  items : Array Item
  /-- The number of levels that may still be entered. -/
  depth : Nat
  /-- An option of a column definition is read, where `NOT NULL` is not an operator. -/
  inColumn : Bool

/-- Why a rule failed. -/
inductive Failure
  /-- A token was not expected. -/
  | rejected (message : String)
  /-- The query is nested too deeply. -/
  | tooDeep
  /-- The parser gave up. -/
  | panicked (message : String)
  deriving DecidableEq, Repr, Inhabited

/-- A rule that reads tokens from a position on. -/
abbrev Rule := ReaderT Context (EStateM Failure Nat)

/-! ### Looking at tokens -/

/-- The token `n` places ahead. -/
def peekAt (n : Nat) : Rule (Option Item) := fun c pos =>
  .ok c.items[pos + n]? pos

/-- The next token. -/
def peek : Rule (Option Item) :=
  peekAt 0

/-- Step over a token. -/
def advance : Rule Unit := fun _ pos =>
  .ok () (pos + 1)

/-- Step back to the token before. -/
def retreat : Rule Unit := fun _ pos =>
  .ok () (pos - 1)

/-- Read the next token. -/
def next : Rule (Option Item) := fun c pos =>
  .ok c.items[pos]? (pos + 1)

/-- The token that was read last. -/
def lastRead : Rule (Option Item) := fun c pos =>
  .ok c.items[pos - 1]? pos

/-- The next token is the symbol `s`. -/
def atSymbol (s : String) : Rule Bool := fun c pos =>
  .ok ((c.items[pos]?.map (·.token)) == some (.symbol s)) pos

/-- The token `n` places ahead is the keyword `k`. -/
def keywordAt (n : Nat) (k : String) : Rule Bool := fun c pos =>
  .ok (c.items[pos + n]?.any (·.keyword == k)) pos

/-- The next token is the keyword `k`. -/
def atKeyword (k : String) : Rule Bool :=
  keywordAt 0 k

/-- The next token is one of the keywords `ks`. -/
def atOneOf (ks : List String) : Rule Bool := fun c pos =>
  .ok (c.items[pos]?.any fun i => i.keyword != "" && ks.contains i.keyword) pos

/-- The next tokens are the keywords `ks`. -/
def atKeywords (ks : List String) : Rule Bool := fun c pos =>
  .ok (ks.zipIdx.all fun (k, n) => c.items[pos + n]?.any (·.keyword == k)) pos

/-- The query is at its end. -/
def atEnd : Rule Bool := fun c pos =>
  .ok (c.items.size ≤ pos) pos

/-! ### Failing -/

/-- Reject the query with a message. -/
def reject {α : Type} (message : String) : Rule α := fun _ pos =>
  .error (.rejected message) pos

/-- The place of a token as the end of a message; the end of the query has none. -/
def placeOf (found : Option Item) : String :=
  match found with
  | some i => i.start.suffix
  | none => ""

/-- A token as a message shows it. -/
def shown (found : Option Item) : String :=
  match found with
  | some i => i.token.display
  | none => "EOF"

/-- Reject the query because of a token that was not expected. -/
def expected {α : Type} (what : String) (found : Option Item) : Rule α :=
  reject ("Expected: " ++ what ++ ", found: " ++ shown found ++ placeOf found)

/-- Reject the query because of the next token. -/
def expectedHere {α : Type} (what : String) : Rule α := do
  expected what (← peek)

/-! ### Reading tokens -/

/-- Step over the symbol `s` if it comes next. -/
def symbol? (s : String) : Rule Bool := do
  if ← atSymbol s then advance; return true
  else return false

/-- Step over the symbol `s`. -/
def symbol (s : String) : Rule Unit := do
  unless ← symbol? s do expectedHere s

/-- Step over the keyword `k` if it comes next. -/
def keyword? (k : String) : Rule Bool := do
  if ← atKeyword k then advance; return true
  else return false

/-- Step over the keyword `k`. -/
def keyword (k : String) : Rule Unit := do
  unless ← keyword? k do expectedHere k

/-- Step over the keywords `ks` if all of them come next. -/
def keywords? (ks : List String) : Rule Bool := fun c pos =>
  match atKeywords ks c pos with
  | .ok true pos => .ok true (pos + ks.length)
  | r => r

/-- Step over the keywords `ks` one by one. -/
def keywords (ks : List String) : Rule Unit :=
  ks.forM keyword

/-- Step over one of the keywords `ks` if it comes next. -/
def oneOf? (ks : List String) : Rule (Option String) := do
  match ← peek with
  | some i =>
    if i.keyword != "" && ks.contains i.keyword then advance; return some i.keyword
    else return none
  | none => return none

/-- Step over one of the keywords `ks`. -/
def oneOf (ks : List String) : Rule String := do
  match ← oneOf? ks with
  | some k => return k
  | none => expectedHere ("one of " ++ " or ".intercalate ks)

/-! ### Combinators -/

/-- The result of a rule, or nothing and the position as before if the query would be rejected.
Other failures remain. -/
def attempt {α : Type} (rule : Rule α) : Rule (Option α) := fun c pos =>
  match rule c pos with
  | .ok a pos => .ok (some a) pos
  | .error (.rejected _) _ => .ok none pos
  | .error e pos => .error e pos

/-- Either the result of a rule, or the position as before and its failure, unless the parser
gave up. -/
def outcome {α : Type} (rule : Rule α) : Rule (Except Failure α) := fun c pos =>
  match rule c pos with
  | .ok a pos => .ok (.ok a) pos
  | .error (.panicked m) pos => .error (.panicked m) pos
  | .error e _ => .ok (.error e) pos

/-- The result of a rule; if it fails, nothing and the position where it stopped, unless the
parser gave up. -/
def asFarAsPossible {α : Type} (rule : Rule α) : Rule (Option α) := fun c pos =>
  match rule c pos with
  | .ok a pos => .ok (some a) pos
  | .error (.panicked m) pos => .error (.panicked m) pos
  | .error _ pos => .ok none pos

/-- The first of several rules that says yes. -/
def anyOf : List (Rule Bool) → Rule Bool
  | [] => return false
  | rule :: rules => do if ← rule then return true else anyOf rules

/-- The rules that are left when the first of `rules` that says yes has been taken out; nothing
if none does.  The rules in `passed` have been asked before, the last one first. -/
def takeOne (passed : List (Rule Bool)) : List (Rule Bool) → Rule (Option (List (Rule Bool)))
  | [] => return none
  | rule :: rules => do
    if ← rule then return some (passed.reverse ++ rules) else takeOne (rule :: passed) rules

/-- Rules that are asked until none says yes, or `n` of them have. -/
def atMost : (n : Nat) → List (Rule Bool) → Rule Unit
  | 0, _ => return ()
  | n + 1, rules => do
    match ← takeOne [] rules with
    | some rest => atMost n rest
    | none => return ()

/-- Rules that may say yes once each, in any order. -/
def eachOnce (rules : List (Rule Bool)) : Rule Unit :=
  atMost rules.length rules

/-- A rule one level further in. -/
def guarded {α : Type} (rule : Rule α) : Rule α := fun c pos =>
  match c.depth with
  | 0 => .error .tooDeep pos
  | depth + 1 => rule { c with depth := depth } pos

/-- A rule inside, or outside, an option of a column definition. -/
def inColumn {α : Type} (b : Bool) (rule : Rule α) : Rule α := fun c pos =>
  rule { c with inColumn := b } pos

/-- The results of a rule, last first, until it gives nothing or `fuel` runs out. -/
def collectFrom {α : Type} (rule : Rule (Option α)) : (fuel : Nat) → List α → Rule (List α)
  | 0, found => return found
  | fuel + 1, found => do
    match ← rule with
    | some a => collectFrom rule fuel (a :: found)
    | none => return found

/-- The results of a rule until it gives nothing.  The rule reads a token each time. -/
def collect {α : Type} (rule : Rule (Option α)) : Rule (List α) := fun c pos =>
  match collectFrom rule (c.items.size + 1) [] c pos with
  | .ok found pos => .ok found.reverse pos
  | .error e pos => .error e pos

/-- Further results of a rule, each behind a comma. -/
def commaThen {α : Type} (rule : Rule α) : Rule (Option α) := do
  if ← symbol? "," then return some (← rule) else return none

/-- The results of a rule, separated by commas. -/
def commaSeparated {α : Type} (rule : Rule α) : Rule (List α) := do
  let first ← rule
  return first :: (← collect (commaThen rule))

/-- The results of a rule, separated by commas; none if the closing symbol comes next. -/
def commaSeparatedUntil {α : Type} (close : String) (rule : Rule α) : Rule (List α) := do
  if ← atSymbol close then return [] else commaSeparated rule

/-- The result of a rule between round brackets. -/
def bracketed {α : Type} (rule : Rule α) : Rule α := do
  symbol "("
  let a ← rule
  symbol ")"
  return a

/-- The result of `rule` behind a keyword, if the keyword comes next. -/
def after? {α : Type} (k : String) (rule : Rule α) : Rule (Option α) := do
  if ← keyword? k then return some (← rule) else return none

/-- The keyword `k` with what `rule` reads behind it comes next. -/
def clause {α : Type} (k : String) (rule : Rule α) : Rule Bool := do
  if ← keyword? k then
    discard rule
    return true
  else return false

/-- The parts that `rule` reads behind keywords, or none if they do not come next. -/
def partsAfter (ks : List String) (rule : Rule (List Part)) : Rule (List Part) := do
  if ← keywords? ks then rule else return []

/-! ### The table of rules -/

/-- What is kept of a query. -/
structure QueryOutline where
  /-- Its parts. -/
  parts : List Part
  /-- The first row, if the query consists of rows that are written down. -/
  firstRow : Option (List Expr)

/-- What is kept of a table with the tables joined to it. -/
structure TableOutline where
  /-- Its parts. -/
  parts : List Part
  /-- Several tables are joined. -/
  isJoin : Bool

/-- The classes of data types that the grammar tells apart. -/
inductive TypeClass
  | builtIn | interval | named
  deriving DecidableEq, Repr, Inhabited

/-- What is kept of a data type. -/
structure TypeOutline where
  /-- Its class. -/
  kind : TypeClass
  /-- The type as it is written out. -/
  written : String
  /-- The parts of the columns of a table type. -/
  parts : List Part := []
  /-- A closing angle bracket too many was read. -/
  surplus : Bool := false

/-- The rules that contain each other. -/
structure Rules where
  /-- An expression whose operators bind more tightly than the given strength. -/
  expr : Nat → Rule Expr
  /-- A query. -/
  query : Rule QueryOutline
  /-- A statement. -/
  statement : Rule Outline
  /-- A table with the tables joined to it. -/
  table : Rule TableOutline
  /-- A data type, perhaps with a closing angle bracket too many. -/
  openType : Rule TypeOutline
  /-- A column with its type and its options. -/
  column : Rule (List Part)

namespace Rules

/-- A table of rules all of which fail. -/
def none : Rules :=
  let fail {α : Type} : Rule α := fun _ pos => .error .tooDeep pos
  ⟨fun _ => fail, fail, fail, fail, fail, fail⟩

instance : Inhabited Rules := ⟨none⟩

/-- Any expression. -/
def anyExpr (r : Rules) : Rule Expr :=
  r.expr 0

/-- Any expression as the only part. -/
def part (r : Rules) : Rule (List Part) := do
  return [.expr (← r.anyExpr)]

/-- Expressions separated by commas. -/
def exprs (r : Rules) : Rule (List Expr) :=
  commaSeparated r.anyExpr

/-- Expressions separated by commas, as parts. -/
def parts (r : Rules) : Rule (List Part) := do
  return (← r.exprs).map .expr

/-- The parts of a query. -/
def queryParts (r : Rules) : Rule (List Part) := do
  return (← r.query).parts

end Rules

/-! ### Names -/

/-- An identifier; a text between quotes counts as one. -/
def ident : Rule Ident := do
  let found ← next
  match found.map Item.token with
  | some (.word t quoted) => return ⟨t, if quoted then some '`' else none⟩
  | some (.text mark s) => return ⟨s, some mark⟩
  | _ => expected "identifier" found

/-- An identifier, if one comes next. -/
def ident? : Rule (Option Ident) :=
  attempt ident

/-- A qualified name. -/
def name : Rule (List Ident) := do
  let first ← ident
  let more ← collect do
    if ← symbol? "." then return some (← ident) else return Option.none
  return first :: more

/-- Names between brackets, separated by commas. -/
def identList : Rule (List Ident) :=
  bracketed (commaSeparated ident)

/-- A column list.  It may be left out if `optional`, and empty if `allowEmpty`. -/
def columnList (optional allowEmpty : Bool) : Rule (List Ident) := do
  if ← symbol? "(" then
    if allowEmpty then
      if ← symbol? ")" then return []
    let names ← commaSeparated ident
    symbol ")"
    return names
  else if optional then return []
  else expectedHere "a list of columns in parentheses"

/-- Why a text is no number below `limit`, judged at the first character that is to blame.
`n` is the number read so far. -/
def numberFault? (limit : Nat) (n : Nat) : List Char → Option String
  | [] => none
  | c :: t =>
    if Unicode.isAsciiDigit c then
      let n := 10 * n + (c.toNat - '0'.toNat)
      if limit ≤ n then some "number too large to fit in target type"
      else numberFault? limit n t
    else some "invalid digit found in string"

/-- Reject the number `t` at the token `found` unless it is a whole number below `limit`; the
numbers below it are called `kind`. -/
def checkNumber (limit : Nat) (kind t : String) (found : Option Item) : Rule Unit := do
  if let some fault := numberFault? limit 0 t.toList then
    reject ("Could not parse '" ++ t ++ "' as " ++ kind ++ ": " ++ fault ++ placeOf found)

/-- A number without sign and fraction, as it is written. -/
def unsigned : Rule String := do
  let found ← next
  match found.map Item.token with
  | some (.number t _) =>
    checkNumber Text.numberLimit "u64" t found
    return t
  | _ => expected "literal int" found

end SqlAnalysis.Sql.Grammar
