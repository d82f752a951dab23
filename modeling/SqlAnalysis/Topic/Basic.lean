import SqlAnalysis.Unicode.Case

/-!
# Reference topics

A topic is a short description of a keyword or a function of the dialect, shown beside the
word under the cursor.

## Main definitions

* `Topic` — one entry of the reference.
* `Topic.Kind`, `Topic.Category` — how entries are classified, with their labels.
-/

namespace SqlAnalysis

namespace Topic

/-- What a topic describes. -/
inductive Kind
  /-- A word of the grammar. -/
  | keyword
  /-- A function that expressions may call. -/
  | function
  deriving DecidableEq, Repr, Inhabited

/-- The label of a kind. -/
def Kind.label : Kind → String
  | keyword => "keyword"
  | function => "function"

/-- The part of the language that a topic belongs to. -/
inductive Category
  /-- Both definition and manipulation. -/
  | ddlDml
  /-- Data manipulation. -/
  | dml
  /-- Data definition. -/
  | ddl
  /-- Everything else. -/
  | utility
  deriving DecidableEq, Repr, Inhabited

/-- The label of a category. -/
def Category.label : Category → String
  | ddlDml => "DDL/DML"
  | dml => "DML"
  | ddl => "DDL"
  | utility => "Utility"

/-- Where a topic is documented. -/
structure Reference where
  /-- The name of the manual. -/
  name : String
  /-- The address of the page. -/
  url : String
  deriving DecidableEq, Repr, Inhabited

end Topic

/-- One entry of the reference. -/
structure Topic where
  /-- The word described, in upper case. -/
  name : String
  /-- Keyword or function. -/
  kind : Topic.Kind
  /-- The part of the language. -/
  category : Topic.Category
  /-- What it does, in one sentence. -/
  description : String
  /-- A query that uses it. -/
  codeExample : String
  /-- Where to read more. -/
  reference : Topic.Reference
  deriving DecidableEq, Repr, Inhabited

end SqlAnalysis
