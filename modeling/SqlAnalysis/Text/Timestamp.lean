import SqlAnalysis.Unicode.CharClass

/-!
# Date and time literals

A string literal counts as a date when it is a complete internet timestamp such as
`2020-01-01T00:00:00Z`: a full date, one of `T`, `t` and a space, a time of day with optional
fraction of a second, and an offset from universal time.  The date has to exist and the time
to be in range, a leap second included.

## Main definitions

* `isTimestamp t` — `t` is such a timestamp.
* `number?`, `offset?` — the scanners it is made of.
-/

namespace SqlAnalysis.Text.Timestamp

open Unicode

/-- The number written by exactly `n` decimal digits at the front of a text, and what follows
them.  `acc` is the number read so far. -/
def number? : (n acc : Nat) → List Char → Option (Nat × List Char)
  | 0, acc, t => some (acc, t)
  | _ + 1, _, [] => none
  | n + 1, acc, c :: t =>
    if isAsciiDigit c then number? n (10 * acc + (c.toNat - '0'.toNat)) t else none

/-- What follows the character `c` at the front of a text. -/
def skip? (c : Char) : List Char → Option (List Char)
  | [] => none
  | d :: t => if c = d then some t else none

/-- What follows an optional fraction of a second; a point needs at least one digit. -/
def fraction? : List Char → Option (List Char)
  | '.' :: d :: t => if isAsciiDigit d then some (t.dropWhile isAsciiDigit) else none
  | '.' :: [] => none
  | t => some t

/-- What follows an offset from universal time: `Z`, or a signed hour and minute.  The sign may
also be the mathematical minus. -/
def offset? : List Char → Option (List Char)
  | [] => none
  | c :: t =>
    if c = 'Z' || c = 'z' then some t
    else if c = '+' || c = '-' || c = '\u2212' then do
      let (hours, t) ← number? 2 0 t
      let t ← skip? ':' t
      let (minutes, t) ← number? 2 0 t
      if hours < 24 && minutes < 60 then some t else none
    else none

/-- The year has a 29th of February. -/
def isLeap (year : Nat) : Bool :=
  year % 4 == 0 && (year % 100 != 0 || year % 400 == 0)

/-- The number of days of a month, zero if there is no such month. -/
def daysIn (year month : Nat) : Nat :=
  if month ∈ [1, 3, 5, 7, 8, 10, 12] then 31
  else if month ∈ [4, 6, 9, 11] then 30
  else if month = 2 then if isLeap year then 29 else 28
  else 0

/-- What follows a full date that exists. -/
def date? (t : List Char) : Option (List Char) := do
  let (year, t) ← number? 4 0 t
  let t ← skip? '-' t
  let (month, t) ← number? 2 0 t
  let t ← skip? '-' t
  let (day, t) ← number? 2 0 t
  if 1 ≤ day && day ≤ daysIn year month then some t else none

/-- What follows a time of day in range; the 60th second is a leap second. -/
def time? (t : List Char) : Option (List Char) := do
  let (hour, t) ← number? 2 0 t
  let t ← skip? ':' t
  let (minute, t) ← number? 2 0 t
  let t ← skip? ':' t
  let (second, t) ← number? 2 0 t
  let t ← fraction? t
  if hour < 24 && minute < 60 && second ≤ 60 then some t else none

/-- The text is a complete timestamp. -/
def isTimestamp (t : List Char) : Bool :=
  match date? t with
  | some (c :: t) =>
    (c = 'T' || c = 't' || c = ' ') && (((time? t).bind offset?).any (·.isEmpty))
  | _ => false

end SqlAnalysis.Text.Timestamp
