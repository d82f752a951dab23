import SqlAnalysis.Json.Basic

/-!
# Writing JSON

Values are written over several lines, two blanks of indentation for each level; empty arrays
and objects stay on one line.  In strings the quote, the backslash and the control characters
are escaped, and nothing else.

## Main definitions

* `Json.pretty` — the written form of a value.
-/

namespace SqlAnalysis.Json

/-- The lower-case hexadecimal digit of a number below 16. -/
def hexDigit (n : Nat) : Char :=
  Char.ofNat (if n < 10 then '0'.toNat + n else 'a'.toNat + (n - 10))

/-- The written form of one character of a string. -/
def escapeChar (c : Char) : List Char :=
  if c = '"' then ['\\', '"']
  else if c = '\\' then ['\\', '\\']
  else if c = '\n' then ['\\', 'n']
  else if c = '\r' then ['\\', 'r']
  else if c = '\t' then ['\\', 't']
  else if c = '\x08' then ['\\', 'b']
  else if c = '\x0c' then ['\\', 'f']
  else if c.toNat < 32 then ['\\', 'u', '0', '0', hexDigit (c.toNat / 16), hexDigit (c.toNat % 16)]
  else [c]

/-- The written form of a string, quotes included. -/
def quote (s : String) : String :=
  "\"" ++ String.ofList (s.toList.flatMap escapeChar) ++ "\""

/-- A new line that is indented by `depth` levels. -/
def newline (depth : Nat) : String :=
  "\n" ++ String.ofList (List.replicate (2 * depth) ' ')

mutual

/-- The written form of a value inside `depth` enclosing arrays and objects. -/
def prettyAt (depth : Nat) : Json → String
  | null => "null"
  | bool true => "true"
  | bool false => "false"
  | number spelling => spelling
  | string text => quote (text.getD "")
  | array [] => "[]"
  | array (v :: vs) =>
    "[" ++ newline (depth + 1) ++ prettyAt (depth + 1) v ++ prettyItems (depth + 1) vs
      ++ newline depth ++ "]"
  | object [] => "\x7b\x7d"
  | object ((k, v) :: ms) =>
    "\x7b" ++ newline (depth + 1) ++ quote (k.getD "") ++ ": " ++ prettyAt (depth + 1) v
      ++ prettyMembers (depth + 1) ms ++ newline depth ++ "\x7d"

/-- The items of an array after the first one. -/
def prettyItems (depth : Nat) : List Json → String
  | [] => ""
  | v :: vs => "," ++ newline depth ++ prettyAt depth v ++ prettyItems depth vs

/-- The members of an object after the first one. -/
def prettyMembers (depth : Nat) : List (Option String × Json) → String
  | [] => ""
  | (k, v) :: ms =>
    "," ++ newline depth ++ quote (k.getD "") ++ ": " ++ prettyAt depth v ++ prettyMembers depth ms

end

/-- The written form of a value over several lines. -/
def pretty (v : Json) : String :=
  prettyAt 0 v

end SqlAnalysis.Json
