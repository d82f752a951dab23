import SqlAnalysis.Json.Basic
import SqlAnalysis.Unicode.CharClass

/-!
# Reading JSON

A strict reader of JSON texts: one value, surrounded by blanks only.  Every function returns
what follows the part it has read, or nothing when the text is malformed.  Nesting is limited
only by the length of the text, from which the fuel is computed.

## Main definitions

* `Json.parse?` — the value written by a whole text.
* `Json.value?`, `Json.string?`, `Json.number?` — the readers of its parts.
-/

namespace SqlAnalysis.Json

open Unicode

/-- A blank between the tokens of a JSON text. -/
def isSpace (c : Char) : Bool :=
  c = ' ' || c = '\t' || c = '\n' || c = '\r'

/-- The text without the blanks in front of it. -/
def skipSpace (t : List Char) : List Char :=
  t.dropWhile isSpace

/-! ### Strings -/

/-- The value of a hexadecimal digit. -/
def hexDigit? (c : Char) : Option Nat :=
  if '0' ≤ c ∧ c ≤ '9' then some (c.toNat - '0'.toNat)
  else if 'a' ≤ c ∧ c ≤ 'f' then some (c.toNat - 'a'.toNat + 10)
  else if 'A' ≤ c ∧ c ≤ 'F' then some (c.toNat - 'A'.toNat + 10)
  else none

/-- The number written by four hexadecimal digits, and what follows them. -/
def hex4? : List Char → Option (Nat × List Char)
  | a :: b :: c :: d :: t => do
    let a ← hexDigit? a
    let b ← hexDigit? b
    let c ← hexDigit? c
    let d ← hexDigit? d
    some (((a * 16 + b) * 16 + c) * 16 + d, t)
  | _ => none

/-- The character that a one-letter escape stands for. -/
def simpleEscape? : Char → Option Char
  | '"' => some '"'
  | '\\' => some '\\'
  | '/' => some '/'
  | 'b' => some '\x08'
  | 'f' => some '\x0c'
  | 'n' => some '\n'
  | 'r' => some '\r'
  | 't' => some '\t'
  | _ => none

/-- One UTF-16 code unit of a string. -/
inductive Unit16
  /-- A character written as such or by a one-letter escape. -/
  | char (c : Char)
  /-- A code unit written in hexadecimal. -/
  | code (n : Nat)

/-- The code units of a string up to its closing quote, and what follows that.  The fuel bounds
the number of units. -/
def units? : (fuel : Nat) → List Char → Option (List Unit16 × List Char)
  | 0, _ => none
  | _ + 1, [] => none
  | fuel + 1, c :: t =>
    if c = '"' then some ([], t)
    else if c.toNat < 32 then none
    else if c = '\\' then
      match t with
      | 'u' :: t => do
        let (n, t) ← hex4? t
        let (us, t) ← units? fuel t
        some (.code n :: us, t)
      | e :: t => do
        let e ← simpleEscape? e
        let (us, t) ← units? fuel t
        some (.char e :: us, t)
      | [] => none
    else do
      let (us, t) ← units? fuel t
      some (.char c :: us, t)

/-- The characters that code units stand for; none when half of a surrogate pair stands
alone. -/
def charsOfUnits? : List Unit16 → Option (List Char)
  | [] => some []
  | .char c :: us => (charsOfUnits? us).map (c :: ·)
  | .code n :: us =>
    if 0xD800 ≤ n ∧ n < 0xDC00 then
      match us with
      | .code m :: us =>
        if 0xDC00 ≤ m ∧ m < 0xE000 then
          (charsOfUnits? us).map
            (Char.ofNat (0x10000 + (n - 0xD800) * 0x400 + (m - 0xDC00)) :: ·)
        else none
      | _ => none
    else if 0xDC00 ≤ n ∧ n < 0xE000 then none
    else (charsOfUnits? us).map (Char.ofNat n :: ·)

/-- The string whose opening quote has just been read, and what follows it. -/
def string? (t : List Char) : Option (Option String × List Char) :=
  (units? (t.length + 1) t).map fun (us, r) => ((charsOfUnits? us).map String.ofList, r)

/-! ### Numbers -/

/-- At least one digit, and what follows. -/
def digits? (t : List Char) : Option (List Char × List Char) :=
  match t.takeWhile isAsciiDigit with
  | [] => none
  | ds => some (ds, t.dropWhile isAsciiDigit)

/-- The integer part of a number: zero, or digits that do not start with zero. -/
def integer? : List Char → Option (List Char × List Char)
  | '0' :: t => if t.head?.any isAsciiDigit then none else some (['0'], t)
  | t => digits? t

/-- An optional fraction: a point and at least one digit. -/
def fraction? : List Char → Option (List Char × List Char)
  | '.' :: t => (digits? t).map fun (ds, r) => ('.' :: ds, r)
  | t => some ([], t)

/-- An optional exponent: `e`, an optional sign, and at least one digit. -/
def exponent? : List Char → Option (List Char × List Char)
  | c :: t =>
    if c = 'e' || c = 'E' then
      match t with
      | s :: t' =>
        if s = '+' || s = '-' then (digits? t').map fun (ds, r) => (c :: s :: ds, r)
        else (digits? t).map fun (ds, r) => (c :: ds, r)
      | [] => none
    else some ([], c :: t)
  | [] => some ([], [])

/-- A number, and what follows it. -/
def number? (t : List Char) : Option (String × List Char) := do
  let (sign, t) := match t with
    | '-' :: r => (['-'], r)
    | r => ([], r)
  let (whole, t) ← integer? t
  let (fraction, t) ← fraction? t
  let (exponent, t) ← exponent? t
  some (String.ofList (sign ++ whole ++ fraction ++ exponent), t)

/-! ### Values -/

/-- What follows `word` at the front of a text. -/
def keyword? (word t : List Char) : Option (List Char) :=
  if word.isPrefixOf t then some (t.drop word.length) else none

mutual

/-- A value, and what follows it; `t` starts with the value. -/
def value? : (fuel : Nat) → List Char → Option (Json × List Char)
  | 0, _ => none
  | fuel + 1, t =>
    match t with
    | '"' :: r => (string? r).map fun (s, r) => (string s, r)
    | '[' :: r =>
      match skipSpace r with
      | ']' :: r => some (array [], r)
      | r => (items? fuel r).map fun (vs, r) => (array vs, r)
    | '\x7b' :: r =>
      match skipSpace r with
      | '\x7d' :: r => some (object [], r)
      | r => (members? fuel r).map fun (ms, r) => (object ms, r)
    | 'n' :: _ => (keyword? ['n', 'u', 'l', 'l'] t).map fun r => (null, r)
    | 't' :: _ => (keyword? ['t', 'r', 'u', 'e'] t).map fun r => (bool true, r)
    | 'f' :: _ => (keyword? ['f', 'a', 'l', 's', 'e'] t).map fun r => (bool false, r)
    | _ => (number? t).map fun (n, r) => (number n, r)

/-- The items of an array from the next one to the closing bracket, and what follows. -/
def items? : (fuel : Nat) → List Char → Option (List Json × List Char)
  | 0, _ => none
  | fuel + 1, t => do
    let (v, t) ← value? fuel t
    match skipSpace t with
    | ']' :: r => some ([v], r)
    | ',' :: r => do
      let (vs, r) ← items? fuel (skipSpace r)
      some (v :: vs, r)
    | _ => none

/-- The members of an object from the next one to the closing brace, and what follows. -/
def members? : (fuel : Nat) → List Char → Option (List (Option String × Json) × List Char)
  | 0, _ => none
  | fuel + 1, t =>
    match t with
    | '"' :: t => do
      let (k, t) ← string? t
      match skipSpace t with
      | ':' :: t => do
        let (v, t) ← value? fuel (skipSpace t)
        match skipSpace t with
        | '\x7d' :: r => some ([(k, v)], r)
        | ',' :: r => do
          let (ms, r) ← members? fuel (skipSpace r)
          some ((k, v) :: ms, r)
        | _ => none
      | _ => none
    | _ => none

end

/-- The value that a text writes, if it writes one and nothing else.  Every step reads at least
one character or enters a value, so the fuel never runs out on a well-formed text. -/
def parse? (s : String) : Option Json :=
  let t := skipSpace s.toList
  match value? (2 * t.length + 2) t with
  | some (v, r) => if (skipSpace r).isEmpty then some v else none
  | none => none

end SqlAnalysis.Json
