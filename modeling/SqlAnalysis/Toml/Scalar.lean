import SqlAnalysis.Toml.Document
import SqlAnalysis.Text.Split
import SqlAnalysis.Json.Reader

/-!
# Numbers, dates and texts

The values of a TOML document that consist of a single word, and its four kinds of texts.

## Main definitions

* `Toml.word?` — the value that a word writes.
* `Toml.textValue?` — a text, and what follows it.
-/

namespace SqlAnalysis.Toml

open Unicode Text

/-! ### Numbers -/

/-- The number written by digits of a base, with single underscores between them. -/
def digitsOf? (base : Nat) (acc : Nat) : List Char → Option Nat
  | [] => none
  | [c] => (Json.hexDigit? c).bind fun d => if d < base then some (base * acc + d) else none
  | c :: '_' :: t =>
    (Json.hexDigit? c).bind fun d => if d < base then digitsOf? base (base * acc + d) t else none
  | c :: t =>
    (Json.hexDigit? c).bind fun d => if d < base then digitsOf? base (base * acc + d) t else none

/-- A whole number without sign in decimal digits: no zero may stand in front. -/
def decimalOf? : List Char → Option Nat
  | ['0'] => some 0
  | '0' :: _ => none
  | t => digitsOf? 10 0 t

/-- The sign in front of a number, and what follows it. -/
def cutSign : List Char → Bool × List Char
  | '-' :: t => (true, t)
  | '+' :: t => (false, t)
  | t => (false, t)

/-- A whole number. -/
def integerOf? : List Char → Option Int
  | '0' :: 'x' :: t => (digitsOf? 16 0 t).map Int.ofNat
  | '0' :: 'o' :: t => (digitsOf? 8 0 t).map Int.ofNat
  | '0' :: 'b' :: t => (digitsOf? 2 0 t).map Int.ofNat
  | t =>
    let (negative, digits) := cutSign t
    (decimalOf? digits).map fun n => if negative then -Int.ofNat n else Int.ofNat n

/-- Whether a whole number fits into 128 bits, with or without a sign. -/
def isStorable (n : Int) : Bool :=
  -Int.ofNat (Nat.pow 2 127) ≤ n && n < Int.ofNat (Nat.pow 2 128)

/-- An exponent: a sign and digits. -/
def exponentOf? (t : List Char) : Option Int :=
  let (negative, digits) := cutSign t
  (digitsOf? 10 0 digits).map fun n => if negative then -Int.ofNat n else Int.ofNat n

/-- A whole number without sign, perhaps with a fraction: its digits, and how many of them are
behind the point. -/
def mantissaOf? (t : List Char) : Option (Nat × Nat) :=
  match cutFirst? '.' t with
  | some (whole, fraction) => do
    let n := (fraction.filter (· ≠ '_')).length
    return ((← decimalOf? whole) * Nat.pow 10 n + (← digitsOf? 10 0 fraction), n)
  | none => (decimalOf? t).map (·, 0)

/-- The smallest number that is rounded to infinity in the format with 53 binary digits and
exponents up to 1023. -/
def overflowLimit : Nat :=
  (Nat.pow 2 54 - 1) * Nat.pow 2 970

/-- Whether `m * 10 ^ e` is not too large for a number with a fraction.  Far from the limit the
number of digits tells. -/
def isFinite (m : Nat) (e : Int) : Bool :=
  let size := (Nat.toDigits 10 m).length + e
  if m = 0 || size < 300 then true
  else if 400 < size then false
  else m * Nat.pow 10 e.toNat < overflowLimit * Nat.pow 10 (-e).toNat

/-- A number with a fraction, an exponent, or both. -/
def isFloat (t : List Char) : Bool :=
  let t := (cutSign t).2
  let t := t.map fun c => if c = 'E' then 'e' else c
  if t = ['i', 'n', 'f'] || t = ['n', 'a', 'n'] then true
  else
    let number? : Option (Nat × Int) :=
      match cutFirst? 'e' t with
      | some (mantissa, exponent) => do
        let (m, decimals) ← mantissaOf? mantissa
        return (m, (← exponentOf? exponent) - decimals)
      | none => do
        guard (t.contains '.')
        let (m, decimals) ← mantissaOf? t
        return (m, -decimals)
    number?.any fun (m, e) => isFinite m e

/-! ### Dates and times -/

/-- The number written by exactly `n` digits, and what follows them. -/
def fixedDigits? (n : Nat) (t : List Char) : Option (Nat × List Char) :=
  if (t.take n).length = n then (digits? 0 (t.take n)).map (·, t.drop n) else none

/-- What follows the character `c` at the front of a text. -/
def skip? (c : Char) : List Char → Option (List Char)
  | [] => none
  | d :: t => if d = c then some t else none

/-- The number of days of a month. -/
def daysOf (year month : Nat) : Nat :=
  if month = 2 then
    if year % 4 = 0 ∧ (year % 100 ≠ 0 ∨ year % 400 = 0) then 29 else 28
  else if month = 4 ∨ month = 6 ∨ month = 9 ∨ month = 11 then 30
  else 31

/-- What follows a date at the front of a text. -/
def skipDate? (t : List Char) : Option (List Char) := do
  let (year, t) ← fixedDigits? 4 t
  let (month, t) ← fixedDigits? 2 (← skip? '-' t)
  let (day, t) ← fixedDigits? 2 (← skip? '-' t)
  guard (1 ≤ month ∧ month ≤ 12 ∧ 1 ≤ day ∧ day ≤ daysOf year month)
  return t

/-- What follows a time at the front of a text.  The seconds may be left out, and with them
their fraction. -/
def skipTime? (t : List Char) : Option (List Char) := do
  let (hour, t) ← fixedDigits? 2 t
  let (minute, t) ← fixedDigits? 2 (← skip? ':' t)
  guard (hour < 24 ∧ minute < 60)
  match t with
  | ':' :: t =>
    let (second, t) ← fixedDigits? 2 t
    guard (second ≤ 60)
    match t with
    | '.' :: t =>
      guard (t.head?.any isAsciiDigit)
      return t.dropWhile isAsciiDigit
    | t => return t
  | t => return t

/-- The offset of a time zone, if there is one. -/
def isZone : List Char → Bool
  | [] => true
  | ['Z'] | ['z'] => true
  | sign :: t =>
    (sign = '+' || sign = '-') &&
      ((do
        let (hour, t) ← fixedDigits? 2 t
        let (minute, t) ← fixedDigits? 2 (← skip? ':' t)
        guard (hour < 24 ∧ minute < 60)
        return t) == some [])

/-- A date, a time, or both, perhaps with a time zone. -/
def isMoment (t : List Char) : Bool :=
  match skipDate? t with
  | some [] => true
  | some (c :: t) =>
    (c = 'T' || c = 't' || c = ' ') && (skipTime? t).any isZone
  | none => skipTime? t == some []

/-! ### Words -/

/-- The value that a word writes.  Numbers that are too large are none. -/
def word? (t : List Char) : Option Value :=
  match integerOf? t with
  | some n => if isStorable n then some (.integer n) else none
  | none =>
    if t = ['t', 'r', 'u', 'e'] || t = ['f', 'a', 'l', 's', 'e'] || isFloat t || isMoment t then
      some .other
    else none

/-! ### Texts -/

/-- A control character, which texts and comments must not hold. -/
def isControl (c : Char) : Bool :=
  (c.toNat < 32 && c ≠ '\t') || c.toNat = 127

/-- The number written by `n` hexadecimal digits, and what follows them. -/
def hexDigits? (n : Nat) (t : List Char) : Option (Nat × List Char) :=
  if (t.take n).length = n then
    ((t.take n).foldlM (fun acc c => (Json.hexDigit? c).map (16 * acc + ·)) 0).map (·, t.drop n)
  else none

/-- The character with a number, if there is one. -/
def charOf? (n : Nat) : Option Char :=
  if n.isValidChar then some (Char.ofNat n) else none

/-- The character that an escape stands for, and what follows the escape; `t` starts behind the
backslash. -/
def escape? : List Char → Option (Char × List Char)
  | 'b' :: t => some ('\x08', t)
  | 't' :: t => some ('\t', t)
  | 'n' :: t => some ('\n', t)
  | 'e' :: t => some ('\x1b', t)
  | 'f' :: t => some ('\x0c', t)
  | 'r' :: t => some ('\r', t)
  | '"' :: t => some ('"', t)
  | '\\' :: t => some ('\\', t)
  | 'x' :: t => (hexDigits? 2 t).bind fun (n, t) => (charOf? n).map (·, t)
  | 'u' :: t => (hexDigits? 4 t).bind fun (n, t) => (charOf? n).map (·, t)
  | 'U' :: t => (hexDigits? 8 t).bind fun (n, t) => (charOf? n).map (·, t)
  | _ => none

/-- The characters of a text on one line up to the closing `quote`, and what follows it.  The
fuel bounds their number. -/
def shortText? (quote : Char) (escapes : Bool) : (fuel : Nat) → List Char →
    Option (List Char × List Char)
  | 0, _ => none
  | _ + 1, [] => none
  | fuel + 1, c :: t =>
    if c = quote then some ([], t)
    else if c = '\\' && escapes then do
      let (d, t) ← escape? t
      let (ds, t) ← shortText? quote escapes fuel t
      return (d :: ds, t)
    else if isControl c then none
    else (shortText? quote escapes fuel t).map fun (ds, t) => (c :: ds, t)

/-- What follows a line break at the front of a text. -/
def skipBreak? : List Char → Option (List Char)
  | '\n' :: t => some t
  | '\r' :: '\n' :: t => some t
  | _ => none

/-- What follows blanks and line breaks at the front of a text. -/
def skipBlank : List Char → List Char
  | '\r' :: '\n' :: t => skipBlank t
  | c :: t => if c = ' ' || c = '\t' || c = '\n' then skipBlank t else c :: t
  | [] => []

/-- What follows the blanks and line breaks behind a backslash at the end of a line. -/
def skipContinuation? (t : List Char) : Option (List Char) :=
  (skipBreak? (t.dropWhile fun c => c = ' ' || c = '\t')).map skipBlank

/-- The characters of a text over several lines up to its three closing quotes, and what
follows them.  Up to two quotes in front of these belong to the text. -/
def longText? (quote : Char) (escapes : Bool) : (fuel : Nat) → List Char →
    Option (List Char × List Char)
  | 0, _ => none
  | _ + 1, [] => none
  | fuel + 1, c :: t =>
    if c = quote then
      let n := ((c :: t).takeWhile (· = quote)).length
      if 3 ≤ n then
        if n ≤ 5 then some (List.replicate (n - 3) quote, (c :: t).drop n) else none
      else (longText? quote escapes fuel t).map fun (ds, t) => (c :: ds, t)
    else if c = '\\' && escapes then
      match skipContinuation? t with
      | some t => longText? quote escapes fuel t
      | none => do
        let (d, t) ← escape? t
        let (ds, t) ← longText? quote escapes fuel t
        return (d :: ds, t)
    else if c = '\n' then
      (longText? quote escapes fuel t).map fun (ds, t) => ('\n' :: ds, t)
    else if c = '\r' then do
      let t ← skip? '\n' t
      let (ds, t) ← longText? quote escapes fuel t
      return ('\r' :: '\n' :: ds, t)
    else if isControl c then none
    else (longText? quote escapes fuel t).map fun (ds, t) => (c :: ds, t)

/-- A text of one of the four kinds, and what follows it; `t` starts behind its first quote.  A
line break right behind three quotes does not count. -/
def textValue? (quote : Char) (t : List Char) : Option (String × List Char) :=
  let escapes : Bool := quote = '"'
  let found :=
    match t with
    | c :: d :: r =>
      if c = quote && d = quote then
        longText? quote escapes (r.length + 1) ((skipBreak? r).getD r)
      else shortText? quote escapes (t.length + 1) t
    | t => shortText? quote escapes (t.length + 1) t
  found.map fun (cs, r) => (String.ofList cs, r)

end SqlAnalysis.Toml
