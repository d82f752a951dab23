import SqlAnalysis.Schema.Json
import SqlAnalysis.Statement.Basic
import SqlAnalysis.Topic.Catalog
import SqlAnalysis.Word

/-!
# Hover

Everything that is known about the word under the cursor: its reference topic, the table of
the schema that it names, and the column that it names in one of the tables that the query
uses.

## Main definitions

* `QuickInfo` — what is shown.
* `quickInfo` — the information about the word at an offset.
-/

namespace SqlAnalysis

/-- What is known about a word of a query. -/
structure QuickInfo where
  /-- The word. -/
  word : Word
  /-- Its reference topic. -/
  topic : Option Topic
  /-- The table that it names, if the query uses that table. -/
  table : Option Schema.Table
  /-- The column that it names in the first table used that has it. -/
  column : Option Schema.Column
  deriving DecidableEq, Repr, Inhabited

/-- The table of the schema that a word names, if the query uses a table of that name. -/
def hoveredTable (schema : Schema) (parse : Parse) (word : String) : Option Schema.Table :=
  (parse.tables.find? (·.name == word)).bind fun t => schema.table? t.name

/-- The column named by a word in the first table that the query uses, the schema knows, and
that has such a column. -/
def hoveredColumn (schema : Schema) (parse : Parse) (word : String) : Option Schema.Column :=
  (parse.tables.filterMap fun t => schema.table? t.name).findSome? (·.column? word)

/-- What is known about a word, given the schema and the parse of the query. -/
def wordInfo (schema : Option Schema) (parse : Option Parse) (word : Word) : QuickInfo where
  word := word
  topic := topic? word.text
  table := do hoveredTable (← schema) (← parse) word.text
  column := do hoveredColumn (← schema) (← parse) word.text

/-- The information about the word that touches `offset`; none only when no word does. -/
def quickInfo (query : String) (offset : Nat) (schema : Option Schema) (parse : Option Parse) :
    Option QuickInfo :=
  (locate offset query).map (wordInfo schema parse)

/-! ### As JSON -/

/-- The JSON value that a word is written as. -/
def Word.toJson (w : Word) : Json :=
  .record [("text", .text w.text), ("start", .nat w.start), ("end", .nat w.stop)]

/-- The JSON value that a topic is written as. -/
def Topic.toJson (t : Topic) : Json :=
  .record [("name", .text t.name), ("kind", .text t.kind.label),
    ("category", .text t.category.label), ("description", .text t.description),
    ("codeExample", .text t.codeExample),
    ("reference", .record [("name", .text t.reference.name), ("url", .text t.reference.url)])]

/-- The JSON value that quick information is written as. -/
def QuickInfo.toJson (q : QuickInfo) : Json :=
  .record [("word", q.word.toJson), ("topic", .ofOption Topic.toJson q.topic),
    ("table", .ofOption Schema.writeTable q.table),
    ("column", .ofOption Schema.writeColumn q.column)]

end SqlAnalysis
