import SqlAnalysis.Sql.Blame
import SqlAnalysis.Sql.Collection
import SqlAnalysis.Sql.Grammar.Statement
import SqlAnalysis.Sql.StatementRange

/-!
# Parsing queries

The parser as a source of parses: a query becomes lexemes, the lexemes become outlines of
statements, and these become statements with their tables and columns.  A query that is too
long, or nested too deeply, has no parse.  What becomes of the lexemes and outlines does not
depend on where they come from.

## Main definitions

* `items` — the lexemes that the grammar sees.
* `Reading`, `Reading.parse` — what is said about a query, and the parse it becomes.
* `frontend` — the parses of all queries.
* `literalOf?` — the literal that a text consists of.
-/

namespace SqlAnalysis.Sql

open Text

/-- The lexemes that the grammar sees: all but white space and comments. -/
def items : List Lexeme → List Grammar.Item
  | [] => []
  | x :: xs =>
    if x.token.isBlank then items xs
    else ⟨x.token, x.token.keyword, x.start, xs.head?.filter (·.token.isBlank)⟩ :: items xs

/-- What a lexer and a grammar say about a query.  Nothing is promised about how the two fit
together, or about the places of the lexemes. -/
structure Reading where
  /-- The lexemes of the query, or why there are none. -/
  lexemes : Except String (List Lexeme)
  /-- The outlines of its statements, or why there are none. -/
  outlines : Except Grammar.Failure (List Outline)

/-- The ranges of `count` statements of a query that was read. -/
def Reading.ranges (r : Reading) (query : String) (count : Nat) : List Span :=
  match r.lexemes with
  | .ok xs => statementRanges query.toList xs count
  | .error _ => List.replicate count ⟨0, byteLength query.toList⟩

/-- The parse of a query that was read. -/
def Reading.parse (r : Reading) (query : String) : Except Fault Parse :=
  match r.outlines with
  | .ok outlines =>
    .ok (.parsed (List.zipWith Outline.statement outlines (r.ranges query outlines.length)))
  | .error (.rejected message) => .ok (.rejected (syntaxProblem query r.lexemes message))
  | .error .tooDeep => .error .recursionLimit
  | .error (.panicked message) => .error (.panicked message)

/-- What the lexer and the grammar of this library say about a query. -/
def readQuery (query : String) : Reading :=
  match lex query with
  | .error message => ⟨.error message, .error (.rejected message)⟩
  | .ok xs => ⟨.ok xs, Grammar.runRule Grammar.statements (items xs).toArray⟩

/-- The number of bytes that a query may have unless another limit is set. -/
def defaultLimit : Nat :=
  65536

/-- The parses of all queries with at most `limit` bytes, as they are read by `read`. -/
def frontendOf (read : String → Reading) (limit : Nat) : Frontend := fun query =>
  if query.utf8ByteSize ≤ limit then (read query).parse query
  else .error (.tooLarge query.utf8ByteSize limit)

/-- The parses of all queries with at most `limit` bytes. -/
def frontend (limit : Nat) : Frontend :=
  frontendOf readQuery limit

/-- The literal that a text consists of, if it is one.  The text has to be an expression. -/
def literalOf? (text : String) : Option (Option Literal) :=
  match lex text with
  | .error _ => none
  | .ok xs =>
    match Grammar.runRule Grammar.soleExpr (items xs).toArray with
    | .ok e => some e.literal?
    | .error _ => none

end SqlAnalysis.Sql
