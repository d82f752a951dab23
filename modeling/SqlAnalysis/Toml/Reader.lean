import SqlAnalysis.Toml.Scalar

/-!
# Reading TOML

A document consists of lines: assignments, headers, comments and empty lines.  Only arrays,
inline tables and texts between three quotes go over several lines.

## Main definitions

* `Toml.value?` — a value, and what follows it.
* `Toml.document?` — the entries of a document.
-/

namespace SqlAnalysis.Toml

open Unicode Text

/-- A blank within a line. -/
def isSpace (c : Char) : Bool :=
  c = ' ' || c = '\t'

/-- The text without the blanks in front of it. -/
def skipSpace (t : List Char) : List Char :=
  t.dropWhile isSpace

/-- What follows a comment, if there is one, on the same line.  The comment must not hold
control characters. -/
def skipComment? : List Char → Option (List Char)
  | '#' :: t =>
    let rest := t.dropWhile fun c => !isControl c
    if rest.isEmpty || (skipBreak? rest).isSome then some rest else none
  | t => some t

/-- What follows blanks, comments and line breaks.  The fuel bounds their number. -/
def skipLines? : (fuel : Nat) → List Char → Option (List Char)
  | 0, _ => none
  | fuel + 1, t => do
    let t ← skipComment? (skipSpace t)
    match skipBreak? t with
    | some t => skipLines? fuel t
    | none => return t

/-! ### Keys -/

/-- A character of a bare key. -/
def isKeyChar (c : Char) : Bool :=
  isAsciiDigit c || ('a' ≤ c && c ≤ 'z') || ('A' ≤ c && c ≤ 'Z') || c = '_' || c = '-'

/-- A key without points, and what follows it. -/
def simpleKey? (t : List Char) : Option (String × List Char) :=
  match t with
  | '"' :: r => (shortText? '"' true (r.length + 1) r).map fun (cs, r) => (String.ofList cs, r)
  | '\'' :: r => (shortText? '\'' false (r.length + 1) r).map fun (cs, r) => (String.ofList cs, r)
  | t =>
    match t.takeWhile isKeyChar with
    | [] => none
    | cs => some (String.ofList cs, t.dropWhile isKeyChar)

/-- A key, perhaps with points, and what follows it and the blanks behind it.  The fuel bounds
the number of its parts. -/
def key? : (fuel : Nat) → List Char → Option (List String × List Char)
  | 0, _ => none
  | fuel + 1, t => do
    let (k, t) ← simpleKey? (skipSpace t)
    match skipSpace t with
    | '.' :: t =>
      let (ks, t) ← key? fuel t
      return (k :: ks, t)
    | t => return ([k], t)

/-! ### Values -/

/-- A character of a word. -/
def isWordChar (c : Char) : Bool :=
  isKeyChar c || c = '+' || c = '.' || c = ':'

/-- The word at the front of a text, and what follows it.  A blank may stand between a date and
a time. -/
def cutWord (t : List Char) : List Char × List Char :=
  let word := t.takeWhile isWordChar
  match t.dropWhile isWordChar with
  | ' ' :: r =>
    if skipDate? word == some [] && r.head?.any isAsciiDigit then
      (word ++ ' ' :: r.takeWhile isWordChar, r.dropWhile isWordChar)
    else (word, ' ' :: r)
  | r => (word, r)

/-- How deep arrays and inline tables may be nested. -/
def nestingLimit : Nat :=
  80

mutual

/-- A value, and what follows it; arrays and inline tables may be nested `room` levels deep. -/
def value? : (fuel : Nat) → (room : Nat) → List Char → Option (Value × List Char)
  | 0, _, _ => none
  | fuel + 1, room, t =>
    match t with
    | '"' :: r => (textValue? '"' r).map fun (s, r) => (.text s, r)
    | '\'' :: r => (textValue? '\'' r).map fun (s, r) => (.text s, r)
    | '[' :: r => if room = 0 then none else (items? fuel (room - 1) r).map (.other, ·)
    | '\x7b' :: r => if room = 0 then none else (members? fuel (room - 1) [] r).map (.other, ·)
    | t =>
      let (w, r) := cutWord t
      (word? w).map (·, r)

/-- What follows the items of an array and its closing bracket. -/
def items? : (fuel : Nat) → (room : Nat) → List Char → Option (List Char)
  | 0, _, _ => none
  | fuel + 1, room, t => do
    match ← skipLines? (t.length + 1) t with
    | ']' :: r => return r
    | t =>
      let (_, t) ← value? fuel room t
      match ← skipLines? (t.length + 1) t with
      | ',' :: r => items? fuel room r
      | ']' :: r => return r
      | _ => none

/-- What follows the members of an inline table and its closing brace; `es` are the members
before.  Line breaks may stand wherever blanks may, but not inside a dotted key. -/
def members? : (fuel : Nat) → (room : Nat) → Entries → List Char → Option (List Char)
  | 0, _, _, _ => none
  | fuel + 1, room, es, t => do
    match ← skipLines? (t.length + 1) t with
    | '\x7d' :: r => return r
    | t =>
      let (path, t) ← key? (t.length + 1) t
      let t ← skip? '=' (← skipLines? (t.length + 1) t)
      let (v, t) ← value? fuel room (← skipLines? (t.length + 1) t)
      let es ← define? (.leaf v) path es
      match ← skipLines? (t.length + 1) t with
      | ',' :: r => members? fuel room es r
      | '\x7d' :: r => return r
      | _ => none

end

/-! ### Documents -/

/-- A document while it is read: its entries, and the path of the last header. -/
structure Document where
  /-- The entries. -/
  entries : Entries
  /-- The table that assignments go to. -/
  current : List String

/-- The document with the header of a table, or of an element, at a path. -/
def Document.header? (d : Document) (isElement : Bool) (path : List String) :
    Option Document := do
  let last ← path.getLast?
  let openAt := if isElement then openElement? last else openTable? last
  return ⟨← within? openAt path.dropLast d.entries, path⟩

/-- The document with what a line says, and what follows on the line. -/
def line? (d : Document) (t : List Char) : Option (Document × List Char) :=
  match t with
  | '[' :: '[' :: r => do
    let (path, r) ← key? (r.length + 1) r
    let r ← skip? ']' (← skip? ']' r)
    return (← d.header? true path, r)
  | '[' :: r => do
    let (path, r) ← key? (r.length + 1) r
    let r ← skip? ']' r
    return (← d.header? false path, r)
  | t => do
    let (path, r) ← key? (t.length + 1) t
    let r ← skip? '=' r
    let (v, r) ← value? (2 * r.length + 2) nestingLimit (skipSpace r)
    return (⟨← within? (define? (.leaf v) path) d.current d.entries, d.current⟩, r)

/-- The document with what the remaining lines say.  The fuel bounds their number. -/
def lines? : (fuel : Nat) → Document → List Char → Option Document
  | 0, _, _ => none
  | fuel + 1, d, t => do
    let t ← skipLines? (t.length + 1) t
    if t.isEmpty then return d
    let (d, t) ← line? d t
    let t ← skipComment? (skipSpace t)
    if t.isEmpty then return d
    lines? fuel d (← skipBreak? t)

/-- The entries of a document.  A byte order mark in front of it does not count. -/
def document? (s : String) : Option Entries :=
  let t := match s.toList with
    | '\ufeff' :: t => t
    | t => t
  (lines? (t.length + 1) ⟨[], []⟩ t).map (·.entries)

end SqlAnalysis.Toml
