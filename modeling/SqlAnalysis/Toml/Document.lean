import SqlAnalysis.Unicode.CharClass

/-!
# Documents of key–value pairs

A TOML document is a tree of tables.  Tables come from headers or from keys with points; a
table may be opened by a header only once, and a key may be given a value only once.

## Main definitions

* `Toml.Value` — a value, as far as it is of interest.
* `Toml.Node`, `Toml.Entries` — an entry of a table, and a table.
* `Toml.define?` — an assignment with a dotted key.
* `Toml.openTable?`, `Toml.openElement?` — the headers of tables and of elements.
-/

namespace SqlAnalysis.Toml

/-- A value.  Numbers with a fraction, truth values, dates, arrays and inline tables are not
told apart. -/
inductive Value
  /-- A whole number. -/
  | integer (n : Int)
  /-- A text. -/
  | text (s : String)
  /-- Any other value. -/
  | other
  deriving DecidableEq, Repr, Inhabited

/-- How a table came about. -/
inductive Origin
  /-- As part of the header of another table. -/
  | enclosing
  /-- By its own header. -/
  | header
  /-- By a dotted key. -/
  | key
  deriving DecidableEq, Repr, Inhabited

/-- An entry of a table. -/
inductive Node
  /-- A value. -/
  | leaf (v : Value)
  /-- A table. -/
  | table (origin : Origin) (entries : List (String × Node))
  /-- Elements that are tables: those before the last one, and the last one. -/
  | elements (before : List (List (String × Node))) (last : List (String × Node))
  deriving Inhabited

/-- The entries of a table. -/
abbrev Entries := List (String × Node)

/-- The entries with `node` in place of the one with the given key, or behind the others. -/
def put (key : String) (node : Node) : Entries → Entries
  | [] => [(key, node)]
  | (k, n) :: es => if k = key then (k, node) :: es else (k, n) :: put key node es

/-- The entries with a value for a dotted key.  Tables with a header of their own cannot be
reached by a key, and a table that is only part of a header, or an element, can be gone through
but gets no value itself. -/
def define? (node : Node) : (path : List String) → Entries → Option Entries
  | [], _ => none
  | [k], es => if (es.lookup k).isSome then none else some (put k node es)
  | k :: ks, es =>
    let isLast : Bool := ks.length = 1
    match es.lookup k with
    | none => (define? node ks []).map fun sub => put k (.table .key sub) es
    | some (.table origin sub) =>
      if origin = .header || (isLast && origin = .enclosing) then none
      else (define? node ks sub).map fun sub => put k (.table origin sub) es
    | some (.elements before last) =>
      if isLast then none
      else (define? node ks last).map fun last => put k (.elements before last) es
    | some (.leaf _) => none

/-- The entries with the table at a path changed by `f`.  Tables that do not exist yet are
added; of elements the last one counts. -/
def within? (f : Entries → Option Entries) : (path : List String) → Entries → Option Entries
  | [], es => f es
  | k :: ks, es =>
    match es.lookup k with
    | none => (within? f ks []).map fun sub => put k (.table .enclosing sub) es
    | some (.table origin sub) =>
      (within? f ks sub).map fun sub => put k (.table origin sub) es
    | some (.elements before last) =>
      (within? f ks last).map fun last => put k (.elements before last) es
    | some (.leaf _) => none

/-- The entries with the table of a header opened. -/
def openTable? (key : String) (es : Entries) : Option Entries :=
  match es.lookup key with
  | none => some (put key (.table .header []) es)
  | some (.table .enclosing sub) => some (put key (.table .header sub) es)
  | some _ => none

/-- The entries with another element at a key. -/
def openElement? (key : String) (es : Entries) : Option Entries :=
  match es.lookup key with
  | none => some (put key (.elements [] []) es)
  | some (.elements before last) => some (put key (.elements (before ++ [last]) []) es)
  | some _ => none

end SqlAnalysis.Toml
