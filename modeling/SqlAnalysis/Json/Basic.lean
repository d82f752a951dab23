/-!
# JSON values

The values that schemas are read from and results are written as.

## Main definitions

* `Json` — a value.
* `Json.record`, `Json.nat` — objects and numbers as the library writes them.
-/

namespace SqlAnalysis

/-- A JSON value.  Numbers keep their spelling.  A string or a key is `none` when an escape in
it denotes half of a surrogate pair: such a text can be skipped, but not read. -/
inductive Json
  /-- The literal `null`. -/
  | null
  /-- A truth value. -/
  | bool (b : Bool)
  /-- A number, as it is spelled. -/
  | number (spelling : String)
  /-- A string. -/
  | string (text : Option String)
  /-- An array. -/
  | array (items : List Json)
  /-- An object, its members in order, duplicates included. -/
  | object (members : List (Option String × Json))
  deriving Inhabited

namespace Json

/-- A readable string. -/
def text (s : String) : Json :=
  string (some s)

/-- An object with readable keys. -/
def record (members : List (String × Json)) : Json :=
  object (members.map fun (k, v) => (some k, v))

/-- A natural number. -/
def nat (n : Nat) : Json :=
  number (toString n)

/-- An integer. -/
def int (n : Int) : Json :=
  number (toString n)

/-- A value that may be absent. -/
def ofOption {α : Type} (f : α → Json) : Option α → Json
  | none => null
  | some a => f a

end Json

end SqlAnalysis
