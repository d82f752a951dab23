import SqlAnalysis.Sql.Outline
import SqlAnalysis.Text.Timestamp

/-!
# Literals

The literal behind an expression, with the type that a value of the host program would have.
Brackets around it do not count, and a minus sign belongs to a number.

## Main definitions

* `Literal` — the text and the type of a literal.
* `literal?` — the literal behind an expression, if it is one.
-/

namespace SqlAnalysis.Sql

/-- A literal found in a query. -/
structure Literal where
  /-- Its text without quotes. -/
  text : String
  /-- The type of the value it denotes. -/
  valueType : ValueType
  deriving DecidableEq, Repr, Inhabited

/-- The type of a text: a complete timestamp is a date. -/
def textType (s : String) : ValueType :=
  if Text.Timestamp.isTimestamp s.toList then .date else .string

/-- The literal that a written value is.  Hexadecimal digits count as a number. -/
def Value.literal? : Value → Option Literal
  | number t => some ⟨t, .number⟩
  | hex ds => some ⟨ds, .number⟩
  | text s => some ⟨s, textType s⟩
  | boolean true => some ⟨"true", .boolean⟩
  | boolean false => some ⟨"false", .boolean⟩
  | null => some ⟨"null", .null⟩
  | other => none

/-- The literal behind an expression: a written value, possibly in brackets and, for numbers,
behind minus signs. -/
def Expr.literal? : Expr → Option Literal
  | .value v => v.literal?
  | .nested e => e.literal?
  | .negative e =>
    match e.literal? with
    | some ⟨t, .number⟩ => some ⟨"-" ++ t, .number⟩
    | _ => none
  | _ => none

end SqlAnalysis.Sql
