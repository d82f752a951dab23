import SqlAnalysis.Analysis.Analyze
import SqlAnalysis.Proofs.Schema.Lookup

/-!
# The first violation

The checks stop at the first problem they report, and pass over what they cannot locate.  Here
the violations of a query are listed without ever stopping, and the analysis is shown to report
the head of that list.  So a violation that is reported hides only later ones, and one that
cannot be located hides nothing.

## Main definitions

* `Violations.ofArity`, `ofColumn`, `ofTable`, `ofStatement` — the located violations of each
  part of a statement, in the order of the checks.
* `violations` — the located violations of all statements.
* `Violates` — what it takes for a problem to be a violation.

## Main results

* `Source.wholeWordIgnoreCase_eq_some_iff`, `Source.wholeWordIgnoreCase_eq_none_iff` — where a word
  is located up to ASCII case, and when it is not.
* `mem_ofArity_iff_of_ne`, `ofArity_eq_nil_iff_of_ne` — a wrong count of values is a violation at
  the first word that is `VALUES`, and none if there is no such word.
* `checkStatements_eq_head?` — the checks report the first violation.
* `mem_violations_iff` — the list holds exactly the violations.
* `exists_of_analyze` — where a problem that is reported comes from.
* `analyze_eq_head?_violations` — **the analysis of a parsed query reports the first violation,
  and nothing exactly when there is none.**
-/

namespace SqlAnalysis

open Text Unicode

namespace Source

variable {source : Source} {target : String}

/-- A word is located up to ASCII case as the first of the words that are spelled like it. -/
theorem wholeWordIgnoreCase_eq_some_iff {place : Span} :
    source.wholeWordIgnoreCase target = some place ↔
      ∃ before w after, words source.text = before ++ w :: after ∧
        eqIgnoreAsciiCase w.text.toList target.toList = true ∧
        (∀ u ∈ before, eqIgnoreAsciiCase u.text.toList target.toList = false) ∧
        place = w.span.shift source.offset := by
  simp only [wholeWordIgnoreCase, firstWholeWordIgnoreCase, Option.map_map,
    Option.map_eq_some_iff, List.find?_eq_some_iff_append, Bool.not_eq_true', Function.comp_apply]
  constructor
  · rintro ⟨w, ⟨hsame, before, after, hsplit, hbefore⟩, rfl⟩
    exact ⟨before, w, after, hsplit, hsame, hbefore, rfl⟩
  · rintro ⟨before, w, after, hsplit, hsame, hbefore, rfl⟩
    exact ⟨w, ⟨hsame, before, after, hsplit, hbefore⟩, rfl⟩

/-- It is not located exactly if no word is spelled like it. -/
theorem wholeWordIgnoreCase_eq_none_iff :
    source.wholeWordIgnoreCase target = none ↔
      ∀ w ∈ words source.text, eqIgnoreAsciiCase w.text.toList target.toList = false := by
  simp only [wholeWordIgnoreCase, firstWholeWordIgnoreCase, Option.map_eq_none_iff,
    List.find?_eq_none, Bool.not_eq_true]

end Source

namespace Violations

/-! ### Listing violations -/

/-- The violation at a place of the query; none if the place was not found. -/
def located (place : Option Span) (violation : Span → Problem) : List Problem :=
  match place with
  | some s => [violation s]
  | none => []

/-- The violation of an insertion whose first row does not have one value for each column. -/
def ofArity (source : Source) (s : Statement) : List Problem :=
  match s.rowArity with
  | none => []
  | some a =>
    if a.columns = a.values then []
    else located (source.wholeWordIgnoreCase "VALUES") (.countMismatch a.columns a.values)

/-- The violation of a column of the table named `table`, which the schema declares as
`declared`. -/
def ofColumn (source : Source) (table : String) (declared : Schema.Table) (c : ColumnUse) :
    List Problem :=
  match declared.columns.find? (·.name == c.name), c.valueType with
  | none, _ => located (source.wholeWord c.name) (.unknownColumn c.name table)
  | some _, none => []
  | some d, some received =>
    if d.valueType.accepts received d.optional then []
    else located (source.literal c received) (.typeMismatch d.valueType received)

/-- The violations of a table: it is unknown, or those of its columns. -/
def ofTable (source : Source) (schema : Schema) (t : TableUse) : List Problem :=
  if eqIgnoreAsciiCase t.name.toList "dual".toList then []
  else
    match schema.tables.find? (·.name == t.name) with
    | none => located (source.wholeWord t.name) (.unknownTable t.name)
    | some declared => t.columns.flatMap (ofColumn source t.name declared)

/-- The violations of a statement. -/
def ofStatement (query : String) (schema : Schema) (s : Statement) : List Problem :=
  let source := Source.ofRange query s.range
  ofArity source s ++ s.tables.flatMap (ofTable source schema)

end Violations

/-- The violations of the statements of a query, definitions left out. -/
def violations (query : String) (schema : Schema) (statements : List Statement) :
    List Problem :=
  (statements.filter (·.kind ≠ .ddl)).flatMap (Violations.ofStatement query schema)

namespace Violations

/-! ### The checks report heads -/

@[simp] theorem head?_located (place : Option Span) (violation : Span → Problem) :
    (located place violation).head? = place.map violation := by
  cases place <;> rfl

theorem checkArity_eq_head? (source : Source) (s : Statement) :
    checkArity source s.rowArity = (ofArity source s).head? := by
  unfold checkArity ofArity
  cases s.rowArity with
  | none => rfl
  | some a => by_cases h : a.columns = a.values <;> simp [RowArity.agrees, h]

theorem checkColumn_eq_head? (source : Source) (declared : Schema.Table) (c : ColumnUse) :
    checkColumn source declared c = (ofColumn source declared.name declared c).head? := by
  unfold checkColumn ofColumn Schema.Table.column?
  cases declared.columns.find? (·.name == c.name) with
  | none => simp
  | some d =>
    cases c.valueType with
    | none => rfl
    | some received => by_cases h : d.valueType.accepts received d.optional <;> simp [h]

theorem checkTable_eq_head? (source : Source) (schema : Schema) (t : TableUse) :
    checkTable source schema t = (ofTable source schema t).head? := by
  have hdual : isDual t.name = eqIgnoreAsciiCase t.name.toList "dual".toList := rfl
  unfold checkTable ofTable
  rw [hdual]
  split
  · rfl
  · -- the lookup names the declared table as the statement does
    rw [← Schema.table?_eq_find?]
    cases hlook : schema.table? t.name with
    | none => simp
    | some declared =>
      simp only [List.head?_flatMap]
      congr 1
      funext c
      rw [checkColumn_eq_head?, Schema.name_of_table? hlook]

theorem checkStatement_eq_head? (query : String) (schema : Schema) {s : Statement}
    (hkind : s.kind ≠ .ddl) :
    checkStatement query schema s = (ofStatement query schema s).head? := by
  have htables : checkTable (Source.ofRange query s.range) schema
      = fun t => (ofTable (Source.ofRange query s.range) schema t).head? :=
    funext fun t => checkTable_eq_head? _ schema t
  simp only [checkStatement, if_neg hkind, ofStatement, List.head?_append, List.head?_flatMap,
    checkArity_eq_head?, htables]

/-- The checks report the first violation of a query. -/
theorem checkStatements_eq_head? (query : String) (schema : Schema)
    (statements : List Statement) :
    checkStatements query schema statements = (violations query schema statements).head? := by
  unfold checkStatements violations
  induction statements with
  | nil => rfl
  | cons s ss ih =>
    rw [List.findSome?_cons, ih]
    by_cases hkind : s.kind = .ddl
    · simp [hkind, checkStatement]
    · rw [List.filter_cons_of_pos (by simpa using hkind), List.flatMap_cons, List.head?_append,
        checkStatement_eq_head? query schema hkind]
      cases (ofStatement query schema s).head? <;> rfl

/-! ### What violates a schema -/

/-- What it takes for a statement whose text is `source` to violate a schema, problem by problem. -/
inductive Violates (source : Source) (schema : Schema) (s : Statement) : Problem → Prop
  | count {a : RowArity} {place : Span} (harity : s.rowArity = some a) (hne : a.columns ≠ a.values)
    (hplace : source.wholeWordIgnoreCase "VALUES" = some place) :
    Violates source schema s (.countMismatch a.columns a.values place)
  | table {t : TableUse} {place : Span} (ht : t ∈ s.tables) (hdual : isDual t.name = false)
    (hlook : schema.table? t.name = none) (hplace : source.wholeWord t.name = some place) :
    Violates source schema s (.unknownTable t.name place)
  | column {t : TableUse} {declared : Schema.Table} {c : ColumnUse} {place : Span}
    (ht : t ∈ s.tables) (hdual : isDual t.name = false)
    (hlook : schema.table? t.name = some declared) (hc : c ∈ t.columns)
    (hmissing : declared.column? c.name = none) (hplace : source.wholeWord c.name = some place) :
    Violates source schema s (.unknownColumn c.name t.name place)
  | value {t : TableUse} {declared : Schema.Table} {c : ColumnUse} {d : Schema.Column}
    {received : ValueType} {place : Span} (ht : t ∈ s.tables) (hdual : isDual t.name = false)
    (hlook : schema.table? t.name = some declared) (hc : c ∈ t.columns)
    (hfound : declared.column? c.name = some d) (hreceived : c.valueType = some received)
    (hrefused : d.valueType.accepts received d.optional = false)
    (hplace : source.literal c received = some place) :
    Violates source schema s (.typeMismatch d.valueType received place)

theorem mem_located_iff {place : Option Span} {violation : Span → Problem} {p : Problem} :
    p ∈ located place violation ↔ ∃ s, place = some s ∧ p = violation s := by
  cases place <;> simp [located]

theorem mem_ofArity_iff {source : Source} {s : Statement} {p : Problem} :
    p ∈ ofArity source s ↔ ∃ a, s.rowArity = some a ∧ a.columns ≠ a.values ∧
      ∃ place, source.wholeWordIgnoreCase "VALUES" = some place ∧
        p = .countMismatch a.columns a.values place := by
  unfold ofArity
  cases s.rowArity with
  | none => simp
  | some a => by_cases h : a.columns = a.values <;> simp [h, mem_located_iff]

section

variable {source : Source} {s : Statement} {a : RowArity}

theorem ofArity_of_ne (harity : s.rowArity = some a) (hne : a.columns ≠ a.values) :
    ofArity source s
      = located (source.wholeWordIgnoreCase "VALUES") (.countMismatch a.columns a.values) := by
  simp only [ofArity, harity, if_neg hne]

/-- **A wrong count of values is a violation at the first word that is VALUES**, up to ASCII case. -/
theorem mem_ofArity_iff_of_ne {p : Problem} (harity : s.rowArity = some a)
    (hne : a.columns ≠ a.values) :
    p ∈ ofArity source s ↔ ∃ before w after, words source.text = before ++ w :: after ∧
      eqIgnoreAsciiCase w.text.toList "VALUES".toList = true ∧
      (∀ u ∈ before, eqIgnoreAsciiCase u.text.toList "VALUES".toList = false) ∧
      p = .countMismatch a.columns a.values (w.span.shift source.offset) := by
  rw [ofArity_of_ne harity hne, mem_located_iff]
  simp only [Source.wholeWordIgnoreCase_eq_some_iff]
  constructor
  · rintro ⟨place, ⟨before, w, after, hsplit, hsame, hbefore, rfl⟩, rfl⟩
    exact ⟨before, w, after, hsplit, hsame, hbefore, rfl⟩
  · rintro ⟨before, w, after, hsplit, hsame, hbefore, rfl⟩
    exact ⟨_, ⟨before, w, after, hsplit, hsame, hbefore, rfl⟩, rfl⟩

/-- It is passed over exactly if there is no such word. -/
theorem ofArity_eq_nil_iff_of_ne (harity : s.rowArity = some a) (hne : a.columns ≠ a.values) :
    ofArity source s = [] ↔
      ∀ w ∈ words source.text, eqIgnoreAsciiCase w.text.toList "VALUES".toList = false := by
  rw [ofArity_of_ne harity hne, ← Source.wholeWordIgnoreCase_eq_none_iff]
  cases source.wholeWordIgnoreCase "VALUES" <;> simp [located]

end

theorem mem_ofColumn_iff {source : Source} {table : String} {declared : Schema.Table}
    {c : ColumnUse} {p : Problem} :
    p ∈ ofColumn source table declared c ↔
      (declared.column? c.name = none ∧
        ∃ place, source.wholeWord c.name = some place ∧ p = .unknownColumn c.name table place) ∨
      ∃ d received, declared.column? c.name = some d ∧ c.valueType = some received ∧
        d.valueType.accepts received d.optional = false ∧
          ∃ place, source.literal c received = some place ∧
            p = .typeMismatch d.valueType received place := by
  unfold ofColumn Schema.Table.column?
  cases declared.columns.find? (·.name == c.name) with
  | none => simp [mem_located_iff]
  | some d =>
    cases c.valueType with
    | none => simp
    | some received =>
      by_cases h : d.valueType.accepts received d.optional <;> simp [h, mem_located_iff]

theorem mem_ofTable_iff {source : Source} {schema : Schema} {t : TableUse} {p : Problem} :
    p ∈ ofTable source schema t ↔ isDual t.name = false ∧
      ((schema.table? t.name = none ∧
        ∃ place, source.wholeWord t.name = some place ∧ p = .unknownTable t.name place) ∨
      ∃ declared, schema.table? t.name = some declared ∧
        ∃ c ∈ t.columns, p ∈ ofColumn source t.name declared c) := by
  have hdual : isDual t.name = eqIgnoreAsciiCase t.name.toList "dual".toList := rfl
  unfold ofTable
  rw [hdual, Schema.table?_eq_find?]
  cases eqIgnoreAsciiCase t.name.toList "dual".toList with
  | true => simp
  | false =>
    cases schema.tables.find? (·.name == t.name) with
    | none => simp [mem_located_iff]
    | some declared => simp

/-- The violations of a statement are the problems that violate the schema. -/
theorem mem_ofStatement_iff {query : String} {schema : Schema} {s : Statement} {p : Problem} :
    p ∈ ofStatement query schema s ↔
      Violates (Source.ofRange query s.range) schema s p := by
  simp only [ofStatement, List.mem_append, List.mem_flatMap, mem_ofArity_iff, mem_ofTable_iff,
    mem_ofColumn_iff]
  constructor
  · rintro (⟨a, ha, hne, place, hplace, rfl⟩ | ⟨t, ht, hdual, hproblem⟩)
    · exact .count ha hne hplace
    · rcases hproblem with ⟨hlook, place, hplace, rfl⟩ | ⟨declared, hlook, c, hc, hproblem⟩
      · exact .table ht hdual hlook hplace
      · rcases hproblem with ⟨hmissing, place, hplace, rfl⟩ |
          ⟨d, received, hfound, hreceived, hrefused, place, hplace, rfl⟩
        · exact .column ht hdual hlook hc hmissing hplace
        · exact .value ht hdual hlook hc hfound hreceived hrefused hplace
  · intro h
    cases h with
    | count harity hne hplace => exact .inl ⟨_, harity, hne, _, hplace, rfl⟩
    | table ht hdual hlook hplace =>
      exact .inr ⟨_, ht, hdual, .inl ⟨hlook, _, hplace, rfl⟩⟩
    | column ht hdual hlook hc hmissing hplace =>
      exact .inr ⟨_, ht, hdual, .inr ⟨_, hlook, _, hc, .inl ⟨hmissing, _, hplace, rfl⟩⟩⟩
    | value ht hdual hlook hc hfound hreceived hrefused hplace =>
      exact .inr ⟨_, ht, hdual, .inr ⟨_, hlook, _, hc,
        .inr ⟨_, _, hfound, hreceived, hrefused, _, hplace, rfl⟩⟩⟩

/-- The violations of a query are those of its statements, definitions left out. -/
theorem mem_violations_iff {query : String} {schema : Schema} {statements : List Statement}
    {p : Problem} :
    p ∈ violations query schema statements ↔ ∃ s ∈ statements, s.kind ≠ .ddl ∧
      Violates (Source.ofRange query s.range) schema s p := by
  simp only [violations, List.mem_flatMap, List.mem_filter, decide_eq_true_eq, and_assoc,
    mem_ofStatement_iff]

end Violations

/-- A query that is not blank and has a parse is checked statement by statement. -/
theorem analyze_parsed {query : String} (hquery : isBlankQuery query = false) (schema : Schema)
    (statements : List Statement) :
    analyze query (some schema) (some (.parsed statements))
      = checkStatements query schema statements := by
  simp [analyze, hquery, analyzeParse]

/-- Where a problem comes from: the query is blank, it is rejected, or it has a parse and violates
the schema. -/
theorem exists_of_analyze {query : String} {schema : Option Schema} {parse : Option Parse}
    {p : Problem} (h : analyze query schema parse = some p) :
    p = .emptyQuery ∨
      (∃ problem, parse = some (.rejected problem) ∧ p = classify query problem) ∨
        ∃ catalog statements, schema = some catalog ∧ parse = some (.parsed statements) ∧
          p ∈ violations query catalog statements := by
  unfold analyze at h
  split at h
  · exact .inl (Option.some.inj h).symm
  · cases parse with
    | none => cases h
    | some parse =>
      cases parse with
      | rejected problem => exact .inr (.inl ⟨problem, rfl, (Option.some.inj h).symm⟩)
      | parsed statements =>
        obtain ⟨catalog, hcatalog, hcheck⟩ := Option.bind_eq_some_iff.mp h
        rw [Violations.checkStatements_eq_head?] at hcheck
        exact .inr (.inr ⟨catalog, statements, hcatalog, rfl, List.mem_of_head? hcheck⟩)

/-- A query that is rejected has a problem that concerns its text alone. -/
theorem isSyntax_classify (query : String) (problem : SyntaxProblem) :
    (classify query problem).isSyntax = true := by
  unfold classify
  split
  · rfl
  · simp only
    split <;> rfl

/-- A problem with the schema is a violation. -/
theorem mem_violations_of_analyze {query : String} {schema : Schema} {parse : Parse} {p : Problem}
    (h : analyze query (some schema) (some parse) = some p) (hp : p.isSyntax = false) :
    p ∈ violations query schema parse.statements := by
  rcases exists_of_analyze h with rfl | ⟨problem, -, rfl⟩ | ⟨catalog, statements, hs, hparse, hmem⟩
  · cases hp
  · rw [isSyntax_classify] at hp
    cases hp
  · cases hs
    cases hparse
    exact hmem

/-- **The analysis reports the first violation.**  For a query that is not blank and has a
parse, the problem against a schema is the head of the list of all its violations, and there is
no problem exactly when that list is empty. -/
theorem analyze_eq_head?_violations {query : String} (hquery : isBlankQuery query = false)
    (schema : Schema) (statements : List Statement) :
    analyze query (some schema) (some (.parsed statements))
        = (violations query schema statements).head? ∧
      (analyze query (some schema) (some (.parsed statements)) = none ↔
        violations query schema statements = []) := by
  have hhead : analyze query (some schema) (some (.parsed statements))
      = (violations query schema statements).head? := by
    rw [← Violations.checkStatements_eq_head?]
    simp [analyze, hquery, analyzeParse]
  exact ⟨hhead, by rw [hhead, List.head?_eq_none_iff]⟩

/-- A table whose quoted name is no single word is passed over, and the unknown table of the next
statement is the first violation. -/
theorem analyze_unlocated_before_unknown :
    let query := "SELECT * FROM `my table`; SELECT * FROM nope"
    let statements : List Statement :=
      [⟨.select, ⟨0, 24⟩, [⟨"my table", none, []⟩], none⟩,
       ⟨.select, ⟨25, 44⟩, [⟨"nope", none, []⟩], none⟩]
    isBlankQuery query = false ∧
      violations query (.ofTables []) statements = [.unknownTable "nope" ⟨40, 44⟩] ∧
        analyze query (some (.ofTables [])) (some (.parsed statements))
          = some (.unknownTable "nope" ⟨40, 44⟩) := by
  intro query statements
  have hquery : isBlankQuery query = false := by decide
  have hlist : violations query (.ofTables []) statements
      = [.unknownTable "nope" ⟨40, 44⟩] := by decide +kernel
  refine ⟨hquery, hlist, ?_⟩
  rw [(analyze_eq_head?_violations hquery (.ofTables []) statements).1, hlist]
  rfl

end SqlAnalysis
