import SqlAnalysis.Sql.Grammar.Core

/-!
# Written values

Numbers, texts, truth values, `NULL` and placeholders.  Texts that stand next to each other are
one text.

## Main definitions

* `value` — a written value.
* `numberValue` — a number or a placeholder.
* `number` — the same with a sign.
-/

namespace SqlAnalysis.Sql.Grammar

/-- The texts that follow a text, joined to it. -/
def joinedTexts (content : String) : Rule String := do
  let more ← collect do
    match (← peek).map Item.token with
    | some (.text _ s) => advance; return some s
    | _ => return none
  return String.join (content :: more)

/-- The name of a placeholder, which has to touch the sign `sign` in front of it. -/
def placeholderName (sign : Option Item) : Rule Unit := do
  match sign with
  | some s =>
    match s.gap with
    | some gap =>
      reject ("Expected: placeholder, found: " ++ gap.token.display ++ gap.start.suffix)
    | none =>
      let found ← next
      match found.map Item.token with
      | some (.word ..) | some (.number _ false) => return ()
      | _ => expected "placeholder" found
  | none => return ()

/-- A written value. -/
def value : Rule Value := do
  let found ← next
  match found.map Item.token with
  | some (.word _ true) => expected "A value?" found
  | some (.word _ false) =>
    match (found.map Item.keyword).getD "" with
    | "TRUE" => return .boolean true
    | "FALSE" => return .boolean false
    | "NULL" => return .null
    | _ => expected "a concrete value" found
  | some (.number t _) => return .number t
  | some (.text _ s) => return .text (← joinedTexts s)
  | some (.marked ..) => return .other
  | some (.hex ds) => return .hex ds
  | some (.placeholder _) => return .other
  | some (.symbol ":") | some (.symbol "@") => placeholderName found; return .other
  | _ => expected "a value" found

/-- A number or a placeholder, as it is written out. -/
def numberValue : Rule String := do
  let found ← peek
  match ← value with
  | .number _ => return shown found
  | _ =>
    match found.map Item.token with
    | some (.placeholder _) => return shown found
    | some (.symbol s) => return s ++ shown (← lastRead)
    | _ => retreat; expectedHere "literal number"

/-- A number or a placeholder, perhaps with a sign, as it is written out. -/
def number : Rule String := do
  if ← symbol? "+" then return "+" ++ (← numberValue)
  else if ← symbol? "-" then return "-" ++ (← numberValue)
  else numberValue

end SqlAnalysis.Sql.Grammar
