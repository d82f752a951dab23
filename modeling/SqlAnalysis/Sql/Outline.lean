import SqlAnalysis.Statement.Basic

/-!
# Outlines of statements

The grammar keeps of a statement only what the analysis asks for: the names of tables and
columns, comparisons and literals, and the columns and first row of an insertion.  A statement
becomes a list of parts in the order in which its text is read, except that clauses come in
the order of their meaning (`WITH` before the body of a query, the body before its order).
Everything else that an expression holds is kept as a list of parts as well, so that a
subquery inside it is not lost.

## Main definitions

* `Ident`, `baseName?` — an identifier and the name of a table behind a qualified name.
* `Expr`, `Part` — expressions and parts of statements.
* `Part.visits`, `visitsAll` — the parts in reading order, every expression before the
  expressions inside it.
* `Outline` — the kind and the parts of a statement.
-/

namespace SqlAnalysis.Sql

/-! ### Identifiers -/

/-- An identifier and the quotes it stood between. -/
structure Ident where
  /-- The identifier itself. -/
  text : String
  /-- The quote character, if it was quoted. -/
  quote : Option Char
  deriving DecidableEq, Repr, Inhabited

/-- The text between the quotes of an identifier that is written out: a quote character is
doubled, unless it is already doubled or stands behind a backslash.  `before` is the character
in front. -/
def doubleQuotes (quote : Char) (before : Char) : List Char → List Char
  | [] => []
  | [c] => if c = quote && before ≠ '\\' then [c, c] else [c]
  | c :: d :: t =>
    if c = quote then
      if before = '\\' then c :: doubleQuotes quote before (d :: t)
      else if d = quote then c :: d :: doubleQuotes quote c t
      else c :: c :: doubleQuotes quote c (d :: t)
    else c :: doubleQuotes quote c (d :: t)

/-- An identifier as it is written in a query. -/
def Ident.written (i : Ident) : List Char :=
  match i.quote with
  | none => i.text.toList
  | some q => q :: (doubleQuotes q '\x00' i.text.toList ++ [q])

/-- The name of the table behind a qualified name: its last part as it is written, without
backquotes and double quotes at its ends.  Nothing when nothing is left. -/
def baseName? (path : List Ident) : Option String := do
  let last ← path.getLast?
  let isQuote (c : Char) : Bool := c = '`' || c = '"'
  let name := ((last.written.dropWhile isQuote).reverse.dropWhile isQuote).reverse
  if name.isEmpty then none else some (String.ofList name)

/-! ### Expressions and parts -/

/-- An operator that compares two values. -/
inductive Comparison
  | equal | notEqual | less | lessEqual | greater | greaterEqual
  /-- Equality that also holds between two missing values. -/
  | nullSafeEqual
  deriving DecidableEq, Repr, Inhabited

/-- The operator as it is written out. -/
def Comparison.symbol : Comparison → String
  | equal => "="
  | notEqual => "<>"
  | less => "<"
  | lessEqual => "<="
  | greater => ">"
  | greaterEqual => ">="
  | nullSafeEqual => "<=>"

/-- A value that is written down in a query. -/
inductive Value
  /-- A number, as it is written. -/
  | number (text : String)
  /-- The digits of a hexadecimal number or text. -/
  | hex (digits : String)
  /-- A text between quotes of either kind. -/
  | text (content : String)
  | boolean (b : Bool)
  | null
  /-- A placeholder, or a text with a letter in front of its quote. -/
  | other
  deriving DecidableEq, Repr, Inhabited

mutual

/-- An expression. -/
inductive Expr
  /-- A column, perhaps with the names that qualify it. -/
  | column (path : List Ident)
  | value (v : Value)
  /-- An expression in brackets. -/
  | nested (inner : Expr)
  /-- The negation of a number. -/
  | negative (inner : Expr)
  | comparison (op : Comparison) (left right : Expr)
  /-- A call of a function. -/
  | call (parts : List Part)
  /-- Any other expression, with the parts inside it. -/
  | other (parts : List Part)

/-- A part of a statement. -/
inductive Part
  /-- An insertion with its column list and its first row, if the rows are written down. -/
  | insertion (target : List Ident) (columns : List String) (firstRow : Option (List Expr))
  /-- A query, with the names that it gives to queries of its own. -/
  | query (names : List String)
  /-- A named table to read from. -/
  | factor (name : List Ident) (aliasName : Option String)
  /-- The name of a table wherever one is used. -/
  | relation (name : List Ident)
  | expr (e : Expr)

end

instance : Inhabited Expr := ⟨.value .null⟩
instance : Inhabited Part := ⟨.query []⟩

/-! ### Reading order -/

mutual

/-- An expression and the parts inside it, in reading order. -/
def Expr.visits : Expr → List Part
  | .column path => [.expr (.column path)]
  | .value v => [.expr (.value v)]
  | .nested e => .expr (.nested e) :: e.visits
  | .negative e => .expr (.negative e) :: e.visits
  | .comparison op l r => .expr (.comparison op l r) :: (l.visits ++ r.visits)
  | .call ps => .expr (.call ps) :: visitsAll ps
  | .other ps => .expr (.other ps) :: visitsAll ps

/-- A part and the parts inside it, in reading order. -/
def Part.visits : Part → List Part
  | .insertion t cs row => [.insertion t cs row]
  | .query names => [.query names]
  | .factor name aliasName => [.factor name aliasName]
  | .relation name => [.relation name]
  | .expr e => e.visits

/-- All parts and the parts inside them, in reading order. -/
def visitsAll : List Part → List Part
  | [] => []
  | p :: ps => p.visits ++ visitsAll ps

end

/-- What the grammar keeps of a statement. -/
structure Outline where
  /-- What the statement does. -/
  kind : Statement.Kind
  /-- Its parts, without those inside its expressions. -/
  parts : List Part

instance : Inhabited Outline := ⟨⟨.other, []⟩⟩

end SqlAnalysis.Sql
