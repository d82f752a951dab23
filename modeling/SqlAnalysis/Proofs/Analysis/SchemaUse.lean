import Mathlib.Data.List.Find
import Mathlib.Data.List.Nodup
import SqlAnalysis.Proofs.Analysis.Violations

/-!
# What a query asks of a schema

A schema is asked only for the tables that the statements of a query use, and of such a table only
for the columns that are attached to it: whether they are declared, and if so, of which type and
whether they take missing values.  Schemas that answer these questions alike have the same
violations, so the order of tables with different names, repeated names behind the first one, and
all that the query does not mention make no difference.

## Main definitions

* `Parse.uses` — the tables that the statements of a parse use, definitions left out.
* `Schema.Table.answer?` — what a declared table says about a column.
* `Schema.Agree` — two schemas agree on a table that is used.
* `Schema.mentioned` — the part of the tables of a schema that is mentioned.

## Main results

* `Violations.violations_congr` — schemas that agree have the same violations.
* `Schema.agree_of_perm`, `agree_of_repeated`, `agree_of_mentioned_eq` — schemas that agree.
* `analyze_eq_of_agree` — **the analysis depends on a schema only through what the query asks it.**
-/

namespace SqlAnalysis

open Text

/-- The tables that the statements of a parse use, definitions left out. -/
def Parse.uses (parse : Option Parse) : List TableUse :=
  ((parse.map Parse.statements).getD []).filter (·.kind ≠ .ddl) |>.flatMap (·.tables)

namespace Schema

/-- What a declared table says about a column: nothing if it does not declare it, otherwise its
type and whether it takes missing values. -/
def Table.answer? (t : Table) (column : String) : Option (ValueType × Bool) :=
  (t.columns.find? (·.name == column)).map fun c => (c.valueType, c.optional)

/-- Two schemas agree on a table that is used: both lack it, or both declare it and the first
declarations say the same about the columns that are attached to it. -/
inductive Agree (s s' : Schema) (t : TableUse) : Prop
  | lacking (h : s.tables.find? (·.name == t.name) = none)
    (h' : s'.tables.find? (·.name == t.name) = none) : Agree s s' t
  | declaring {d d' : Table} (h : s.tables.find? (·.name == t.name) = some d)
    (h' : s'.tables.find? (·.name == t.name) = some d')
    (hcolumns : ∀ c ∈ t.columns, d.answer? c.name = d'.answer? c.name) : Agree s s' t

end Schema

/-! ### The same violations -/

namespace Violations

variable {source : Source}

/-- The violations of a column follow from the answer of the table. -/
theorem ofColumn_congr (table : String) {d d' : Schema.Table} {c : ColumnUse}
    (h : d.answer? c.name = d'.answer? c.name) :
    ofColumn source table d c = ofColumn source table d' c := by
  unfold Schema.Table.answer? at h
  unfold ofColumn
  cases hd : d.columns.find? (·.name == c.name) with
  | none =>
    rw [hd, Option.map_none, eq_comm, Option.map_eq_none_iff] at h
    rw [h]
  | some e =>
    rw [hd, Option.map_some, eq_comm, Option.map_eq_some_iff] at h
    obtain ⟨e', hd', hanswer⟩ := h
    obtain ⟨htype, hoptional⟩ := Prod.mk.inj hanswer
    rw [hd']
    cases c.valueType with
    | none => rfl
    | some received => simp only [htype, hoptional]

theorem ofTable_congr {s s' : Schema} {t : TableUse} (h : s.Agree s' t) :
    ofTable source s t = ofTable source s' t := by
  unfold ofTable
  cases h with
  | lacking h h' => rw [h, h']
  | @declaring d d' h h' hcolumns =>
    have hsame : t.columns.flatMap (ofColumn source t.name d)
        = t.columns.flatMap (ofColumn source t.name d') :=
      List.flatMap_congr fun c hc => ofColumn_congr t.name (hcolumns c hc)
    simp only [h, h', hsame]

/-- Schemas that agree on all tables that are used have the same violations. -/
theorem violations_congr (query : String) {s s' : Schema} {statements : List Statement}
    (h : ∀ t ∈ Parse.uses (some (.parsed statements)), s.Agree s' t) :
    violations query s statements = violations query s' statements := by
  refine List.flatMap_congr fun statement hs => ?_
  have htables : ∀ t ∈ statement.tables, s.Agree s' t :=
    fun t ht => h t (List.mem_flatMap.mpr ⟨statement, hs, ht⟩)
  exact congrArg _ (List.flatMap_congr fun t ht => ofTable_congr (htables t ht))

end Violations

/-- Schemas that agree on all tables that are used have the same problem. -/
theorem analyze_congr (query : String) {parse : Option Parse} {s s' : Schema}
    (h : ∀ t ∈ Parse.uses parse, s.Agree s' t) :
    analyze query (some s) parse = analyze query (some s') parse := by
  unfold analyze
  split
  · rfl
  · cases parse with
    | none => rfl
    | some parse =>
      cases parse with
      | rejected problem => rfl
      | parsed statements =>
        simp only [analyzeParse, Option.bind_some, Violations.checkStatements_eq_head?,
          Violations.violations_congr query h]

/-! ### Schemas that agree -/

namespace Schema

variable {s s' : Schema}

/-- Schemas in which a name is declared alike agree on every use of it. -/
theorem agree_of_find?_eq {t : TableUse}
    (h : s.tables.find? (·.name == t.name) = s'.tables.find? (·.name == t.name)) :
    s.Agree s' t := by
  cases hd : s'.tables.find? (·.name == t.name) with
  | none => exact .lacking (h.trans hd) hd
  | some d => exact .declaring (h.trans hd) hd fun _ _ => rfl

/-- Among tables with different names, a search finds the one that has the name. -/
theorem find?_name_eq_some_iff {ts : List Table} (hnodup : (ts.map (·.name)).Nodup)
    {name : String} {t : Table} :
    ts.find? (·.name == name) = some t ↔ t ∈ ts ∧ t.name = name := by
  constructor
  · intro h
    exact ⟨List.mem_of_find?_eq_some h, by simpa using List.find?_some h⟩
  · rintro ⟨ht, rfl⟩
    have hsome : (ts.find? (·.name == t.name)).isSome :=
      List.find?_isSome.mpr ⟨t, ht, beq_self_eq_true t.name⟩
    obtain ⟨t', ht'⟩ := Option.isSome_iff_exists.mp hsome
    have hname : t'.name = t.name := by simpa using List.find?_some ht'
    rw [ht', List.inj_on_of_nodup_map hnodup (List.mem_of_find?_eq_some ht') ht hname]

/-- The order of tables with different names makes no difference. -/
theorem agree_of_perm (hperm : s.tables.Perm s'.tables) (hnodup : s.tableNames.Nodup)
    (t : TableUse) : s.Agree s' t := by
  have hnodup' : (s'.tables.map (·.name)).Nodup := (hperm.map _).nodup_iff.mp hnodup
  refine agree_of_find?_eq (Option.ext fun d => ?_)
  rw [find?_name_eq_some_iff hnodup, find?_name_eq_some_iff hnodup', hperm.mem_iff]

/-- Another table of a name that is declared already makes no difference. -/
theorem agree_of_repeated {d : Table} (htables : s'.tables = s.tables ++ [d])
    (hname : d.name ∈ s.tableNames) (t : TableUse) : s.Agree s' t := by
  refine agree_of_find?_eq ?_
  rw [htables, List.find?_append]
  cases hfind : s.tables.find? (·.name == t.name) with
  | some d' => rfl
  | none =>
    -- the name is not that of the last table either, for it would be declared before
    obtain ⟨d', hd', hsame⟩ := List.mem_map.mp hname
    have hne : (d'.name == t.name) = false := by
      simpa using List.find?_eq_none.mp hfind d' hd'
    simp [← hsame, hne]

/-- A column is mentioned as one of a table. -/
def mentionsColumn (uses : List TableUse) (table column : String) : Bool :=
  uses.any fun t => t.name == table && t.columns.any (·.name == column)

/-- The declared table with only those columns that are mentioned. -/
def Table.mentioned (uses : List TableUse) (d : Table) : Table :=
  { d with columns := d.columns.filter fun c => mentionsColumn uses d.name c.name }

/-- The declared tables that are mentioned, with only those columns that are mentioned. -/
def mentioned (uses : List TableUse) (ts : List Table) : List Table :=
  (ts.filter fun d => uses.any (·.name == d.name)).map (·.mentioned uses)

variable {uses : List TableUse} {t : TableUse}

/-- A search does not miss what is filtered out if it would not have found that. -/
theorem find?_filter_of_imp {α : Type} {p q : α → Bool} {l : List α}
    (h : ∀ a, p a = true → q a = true) : (l.filter q).find? p = l.find? p := by
  rw [List.find?_filter]
  refine List.find?_congr fun a _ => ?_
  cases hp : p a with
  | false => simp
  | true => simp [h a hp]

/-- A table that is used is found in the part that is mentioned if it is found at all. -/
theorem find?_mentioned (ht : t ∈ uses) (ts : List Table) :
    (mentioned uses ts).find? (·.name == t.name)
      = (ts.find? (·.name == t.name)).map (·.mentioned uses) := by
  have hused : ∀ d : Table, (d.name == t.name) = true → uses.any (·.name == d.name) = true :=
    fun d hname => List.any_eq_true.mpr ⟨t, ht, beq_iff_eq.mpr (beq_iff_eq.mp hname).symm⟩
  rw [mentioned, List.find?_map]
  exact congrArg _ (find?_filter_of_imp hused)

/-- The mentioned columns of a table suffice to answer for a column that is attached to it. -/
theorem answer?_mentioned (ht : t ∈ uses) {c : ColumnUse} (hc : c ∈ t.columns) {d : Table}
    (hname : d.name = t.name) : (d.mentioned uses).answer? c.name = d.answer? c.name := by
  have hused : ∀ e : Column, (e.name == c.name) = true →
      mentionsColumn uses d.name e.name = true := by
    intro e he
    have hcolumn : (c.name == e.name) = true := beq_iff_eq.mpr (beq_iff_eq.mp he).symm
    refine List.any_eq_true.mpr ⟨t, ht, ?_⟩
    rw [hname, beq_self_eq_true, Bool.true_and]
    exact List.any_eq_true.mpr ⟨c, hc, hcolumn⟩
  unfold Table.answer? Table.mentioned
  rw [find?_filter_of_imp hused]

/-- What is not mentioned makes no difference. -/
theorem agree_of_mentioned_eq (h : mentioned uses s.tables = mentioned uses s'.tables)
    (ht : t ∈ uses) : s.Agree s' t := by
  have hfind := find?_mentioned ht s.tables
  rw [h, find?_mentioned ht] at hfind
  cases hd : s.tables.find? (·.name == t.name) with
  | none =>
    rw [hd, Option.map_none, Option.map_eq_none_iff] at hfind
    exact .lacking hd hfind
  | some d =>
    rw [hd, Option.map_some, Option.map_eq_some_iff] at hfind
    obtain ⟨d', hd', hsame⟩ := hfind
    refine .declaring hd hd' fun c hc => ?_
    have hname : d.name = t.name := by simpa using List.find?_some hd
    have hname' : d'.name = t.name := by simpa using List.find?_some hd'
    rw [← answer?_mentioned ht hc hname, ← answer?_mentioned ht hc hname', hsame]

end Schema

/-- **The analysis depends on a schema only through what the query asks it.**  Two schemas that
agree on every table that is used outside of definitions, and on the columns attached to it, give
the same problem at the same place, or none.  So do two schemas with the same tables in different
orders, if their names are different; a schema and the same one with another table of a name that
it declares already; and two schemas that differ in tables and columns that the query does not
mention. -/
theorem analyze_eq_of_agree (query : String) (parse : Option Parse) (s s' : Schema) :
    ((∀ t ∈ Parse.uses parse, s.Agree s' t) →
      analyze query (some s) parse = analyze query (some s') parse) ∧
    (s.tables.Perm s'.tables → (s.tables.map (·.name)).Nodup →
      analyze query (some s) parse = analyze query (some s') parse) ∧
    (∀ d, s'.tables = s.tables ++ [d] → d.name ∈ s.tables.map (·.name) →
      analyze query (some s) parse = analyze query (some s') parse) ∧
    (Schema.mentioned (Parse.uses parse) s.tables
        = Schema.mentioned (Parse.uses parse) s'.tables →
      analyze query (some s) parse = analyze query (some s') parse) := by
  refine ⟨fun h => analyze_congr query h, fun hperm hnodup => ?_, fun d htables hname => ?_,
    fun h => ?_⟩
  · exact analyze_congr query fun t _ => Schema.agree_of_perm hperm hnodup t
  · exact analyze_congr query fun t _ => Schema.agree_of_repeated htables hname t
  · exact analyze_congr query fun t ht => Schema.agree_of_mentioned_eq h ht

/-- A text compared with a number is reported for a schema, and also if the number is declared
otherwise, if the tables are declared the other way round, if the table is declared once more, and
if other tables and columns are declared. -/
theorem analyze_eq_of_agree_typeMismatch :
    let query := "SELECT * FROM users WHERE age = 'x'"
    let use : TableUse := ⟨"users", none, [⟨"age", .expression, some "=", some "x", some .string⟩]⟩
    let parse : Option Parse := some (.parsed [⟨.select, ⟨0, 35⟩, [use], none⟩])
    let age : Schema.Column := ⟨"age", "int", .number, false⟩
    let users : Schema.Table := ⟨"users", [⟨"id", "int", .number, false⟩, age]⟩
    let posts : Schema.Table := ⟨"posts", []⟩
    let schema : Schema := .ofTables [users, posts]
    let declaredOtherwise : Schema := .ofTables [⟨"users", [⟨"age", "bigint", .number, false⟩]⟩]
    let swapped : Schema := .ofTables [posts, users]
    let repeated : Schema := .ofTables [users, posts, ⟨"users", []⟩]
    let others : Schema :=
      .ofTables [⟨"logs", [age]⟩, ⟨"users", [age, ⟨"x", "text", .string, true⟩]⟩]
    let problem : Problem := .typeMismatch .number .string ⟨32, 35⟩
    analyze query (some schema) parse = some problem ∧
      analyze query (some declaredOtherwise) parse = some problem ∧
      analyze query (some swapped) parse = some problem ∧
      analyze query (some repeated) parse = some problem ∧
      analyze query (some others) parse = some problem := by
  intro query use parse age users posts schema declaredOtherwise swapped repeated others problem
  have hproblem : analyze query (some schema) parse = some problem := by
    rw [analyze_parsed (by decide), Violations.checkStatements_eq_head?]
    decide +kernel
  have hagree : ∀ t ∈ Parse.uses parse, schema.Agree declaredOtherwise t := by
    intro t ht
    obtain rfl : t = use := List.mem_singleton.mp ht
    exact .declaring rfl rfl (by decide)
  have hmentioned : Schema.mentioned (Parse.uses parse) schema.tables
      = Schema.mentioned (Parse.uses parse) others.tables := by
    decide
  rw [← hproblem]
  refine ⟨rfl, ?_, ?_, ?_, ?_⟩
  · exact ((analyze_eq_of_agree query parse schema declaredOtherwise).1 hagree).symm
  · exact ((analyze_eq_of_agree query parse schema swapped).2.1 (.swap _ _ _) (by decide)).symm
  · exact ((analyze_eq_of_agree query parse schema repeated).2.2.1 _ rfl (by decide)).symm
  · exact ((analyze_eq_of_agree query parse schema others).2.2.2 hmentioned).symm

end SqlAnalysis
