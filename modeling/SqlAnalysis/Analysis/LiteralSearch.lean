import SqlAnalysis.Statement.Basic
import SqlAnalysis.Word

/-!
# Finding a literal again

A parse gives the text of the literal that a column is compared with, but not its place.  The
place is searched for in the text of the statement: for a comparison the name, the operator
and the literal in this order, and for an insertion the literal as an entry of a bracketed list
behind the word `VALUES`.  Blanks may stand between the parts.  The leftmost occurrence
counts; when the parts themselves hold blanks, as many blanks as possible are passed over first.

## Main definitions

* `Cursor` — a place in a text and what follows it.
* `Pattern` — the ways in which a pattern matches at a place.
* `literalPattern`, `comparisonPattern`, `entryPattern` — the patterns searched for.
* `locateLiteral` — the span of the literal of a column.
-/

namespace SqlAnalysis

open Text Unicode

namespace LiteralSearch

/-- A place in a text. -/
structure Cursor where
  /-- The character before it, if there is one. -/
  before : Option Char
  /-- Its byte offset. -/
  offset : Nat
  /-- What follows it. -/
  rest : List Char
  deriving Repr

/-- The place one character further on. -/
def Cursor.advance (p : Cursor) (c : Char) (rest : List Char) : Cursor :=
  ⟨some c, p.offset + c.utf8Size, rest⟩

/-- The places reached from a place by matching a pattern there, the preferred one first. -/
abbrev Pattern := Cursor → List Cursor

/-- One character that satisfies `p`. -/
def oneChar (p : Char → Bool) : Pattern := fun cur =>
  match cur.rest with
  | c :: r => if p c then [cur.advance c r] else []
  | [] => []

/-- Characters that are related to those of a text, one by one. -/
def sameChars (same : Char → Char → Bool) : List Char → Pattern
  | [], cur => [cur]
  | c :: cs, cur =>
    match cur.rest with
    | d :: r => if same c d then sameChars same cs (cur.advance d r) else []
    | [] => []

/-- Exactly the given text. -/
def exactly (t : List Char) : Pattern :=
  sameChars (· == ·) t

/-- The given text up to simple case folding. -/
def upToCase (t : List Char) : Pattern :=
  sameChars (fun a b => foldChar a == foldChar b) t

/-- Blanks, as many as possible first. -/
def blanksFrom (before : Option Char) (offset : Nat) : List Char → List Cursor
  | [] => [⟨before, offset, []⟩]
  | c :: r =>
    if isBlank c then blanksFrom (some c) (offset + c.utf8Size) r ++ [⟨before, offset, c :: r⟩]
    else [⟨before, offset, c :: r⟩]

/-- Any number of blanks, as many as possible first. -/
def blanks : Pattern := fun cur =>
  blanksFrom cur.before cur.offset cur.rest

/-- One pattern, or else nothing. -/
def optionally (p : Pattern) : Pattern := fun cur =>
  p cur ++ [cur]

/-- One of two patterns, the first one preferred. -/
def either (p q : Pattern) : Pattern := fun cur =>
  p cur ++ q cur

/-- One pattern after the other. -/
def andThen (p q : Pattern) : Pattern := fun cur =>
  (p cur).flatMap q

/-- A place between a word character and something else, or between something else and a word
character. -/
def wordBoundary : Pattern := fun cur =>
  if cur.before.any isWordChar != cur.rest.head?.any isWordChar then [cur] else []

/-- The end of the text, or one character that could not go on with a literal. -/
def literalEnd : Pattern := fun cur =>
  match cur.rest with
  | [] => [cur]
  | c :: r => if !isWordChar c && c != '.' then [cur.advance c r] else []

/-- A quote character of either kind. -/
def quoteMark : Pattern :=
  oneChar fun c => c = '"' || c = '\''

/-- A literal of the given type: texts and dates between quotes of either kind, truth values
and `null` up to case, everything else exactly. -/
def literalPattern (type : ValueType) (value : List Char) : Pattern :=
  match type with
  | .string | .date => andThen quoteMark (andThen (exactly value) quoteMark)
  | .null | .boolean => upToCase value
  | _ => exactly value

/-- An operator; `<>` may also be written `!=`. -/
def operatorPattern (operator : List Char) : Pattern :=
  if operator = ['<', '>'] then either (exactly ['<', '>']) (exactly ['!', '='])
  else exactly operator

/-- The spans of a literal that is matched between two other patterns, at a given place. -/
def between (front literal back : Pattern) (cur : Cursor) : List Span :=
  (front cur).flatMap fun start =>
    (literal start).flatMap fun stop =>
      if (back stop).isEmpty then [] else [⟨start.offset, stop.offset⟩]

/-- The first result of a search at the places of a text, from left to right. -/
def leftmostFrom (search : Cursor → List Span) (before : Option Char) (offset : Nat) :
    List Char → Option Span
  | [] => (search ⟨before, offset, []⟩).head?
  | c :: r =>
    match search ⟨before, offset, c :: r⟩ with
    | s :: _ => some s
    | [] => leftmostFrom search (some c) (offset + c.utf8Size) r

/-- A comparison of the column `name`: the name from a word boundary on, a closing quote if it
was quoted, the operator and the literal, which must not go on. -/
def comparison (name operator : List Char) (literal : Pattern) : Cursor → List Span :=
  between
    (andThen wordBoundary <| andThen (exactly name) <|
      andThen (optionally (oneChar fun c => c = '`' || c = '"')) <|
        andThen blanks <| andThen (operatorPattern operator) blanks)
    literal literalEnd

/-- An entry of a bracketed list. -/
def entry (literal : Pattern) : Cursor → List Span :=
  between (andThen (oneChar fun c => c = '(' || c = ',') blanks) literal
    (andThen blanks (oneChar fun c => c = ',' || c = ')'))

end LiteralSearch

open LiteralSearch

/-- The span of the literal that a column is compared with or inserted as, in the text of its
statement.  None when the column has no literal or no occurrence is recognised. -/
def locateLiteral (text : String) (column : ColumnUse) (received : ValueType) : Option Span := do
  let value ← column.value
  let literal := literalPattern received value.toList
  match column.context with
  | .expression =>
    let operator ← column.operator
    leftmostFrom (comparison column.name.toList operator.toList literal) none 0 text.toList
  | .list =>
    let values ← firstWholeWordIgnoreCase text "VALUES"
    let rest ← dropBytes? values.stop text.toList
    leftmostFrom (entry literal) none values.stop rest

end SqlAnalysis
