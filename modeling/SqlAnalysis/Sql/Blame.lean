import SqlAnalysis.Sql.Lexer
import SqlAnalysis.Statement.Basic
import SqlAnalysis.Text.Split

/-!
# The token to blame

A rejected query comes with a message that ends in the place where parsing stopped.  The place
is read back from the message: texts of the query may be quoted in it, so the last mention of a
place counts.  What stands at the place is then looked up among the lexemes of the query.

## Main definitions

* `mentionsFrom` — the places mentioned in a text.
* `lastLocation?` — the last place mentioned in a message.
* `tokenSpan` — where a token stands in the query.
* `problemAt`, `syntaxProblem` — the token at that place, as far as there is one.
-/

namespace SqlAnalysis.Sql

open Text Unicode

/-- What follows the text `p` at the front of a text. -/
def afterText? : (p : List Char) → List Char → Option (List Char)
  | [], t => some t
  | _ :: _, [] => none
  | c :: p, d :: t => if c = d then afterText? p t else none

/-- A place that is mentioned in a text, by the digits of its line and of its column. -/
structure Mention where
  /-- The digits of the line. -/
  line : List Char
  /-- The digits of the column. -/
  column : List Char
  deriving DecidableEq, Repr

/-- The text of a mention. -/
def Mention.text (m : Mention) : List Char :=
  "at Line: ".toList ++ (m.line ++ (", Column: ".toList ++ m.column))

/-- The place mentioned at the front of a text. -/
def mention? (t : List Char) : Option Mention := do
  let t ← afterText? "at Line: ".toList t
  let line := t.takeWhile isDigit
  let t ← afterText? ", Column: ".toList (t.dropWhile isDigit)
  let column := t.takeWhile isDigit
  if line.isEmpty || column.isEmpty then none else some ⟨line, column⟩

/-- The places mentioned in a text, from left to right and without overlaps.  `skip` characters of
the last mention are still to be passed over. -/
def mentionsFrom : (skip : Nat) → List Char → List Mention
  | _, [] => []
  | skip + 1, _ :: t => mentionsFrom skip t
  | 0, c :: t =>
    match mention? (c :: t) with
    | some m => m :: mentionsFrom (m.text.length - 1) t
    | none => mentionsFrom 0 t

/-- The last place mentioned in a message.  None when its numbers cannot be read. -/
def lastLocation? (message : List Char) : Option Location := do
  let mention ← (mentionsFrom 0 message).getLast?
  let line ← readNat? mention.line
  let column ← readNat? mention.column
  return ⟨line, column⟩
where
  /-- The number written by ASCII digits, if it fits into 64 bits. -/
  readNat? (digits : List Char) : Option Nat :=
    if digits.all isAsciiDigit then
      some (digits.foldl (fun n c => 10 * n + (c.toNat - '0'.toNat)) 0) |>.filter (· < numberLimit)
    else none

/-- The form of a problem at the end of a query. -/
def problemAtEnd : SyntaxProblem :=
  ⟨"", none⟩

/-- The span of a token that starts at the offset `start`.  If the end of the token is no place
behind its start, the token reaches to the end of the query. -/
def tokenSpan (text : List Char) (start : Nat) (x : Lexeme) : Span :=
  ⟨start, ((offsetOf? x.stop.line x.stop.column text).filter (start < ·)).getD
    (byteLength text)⟩

/-- The problem of a query that was rejected at the location `l`.  If a token starts there, it is
to blame; otherwise only the offset of the place is known.  A location outside the query blames the
end of the query. -/
def problemAt (text : List Char) (lexemes : Except String (List Lexeme)) (l : Location) :
    SyntaxProblem :=
  match offsetOf? l.line l.column text with
  | none => problemAtEnd
  | some start =>
    match lexemes with
    | .error _ => ⟨"", some start⟩
    | .ok xs =>
      match xs.find? fun x => !x.token.isBlank && x.start == l with
      | none => ⟨"", some start⟩
      | some x =>
        if x.token = .endMark then problemAtEnd
        else
          let span := tokenSpan text start x
          ⟨String.ofList ((slice? span text).getD []), some span.stop⟩

/-- The problem of a query that was rejected with `message`.  A message without a place blames the
end of the query. -/
def syntaxProblem (query : String) (lexemes : Except String (List Lexeme)) (message : String) :
    SyntaxProblem :=
  match lastLocation? message.toList with
  | none => problemAtEnd
  | some l => problemAt query.toList lexemes l

end SqlAnalysis.Sql
