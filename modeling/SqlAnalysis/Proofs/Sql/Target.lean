import SqlAnalysis.Proofs.Analysis.Violations
import SqlAnalysis.Proofs.Sql.Tables
import SqlAnalysis.Sql.Frontend

/-!
# The target of an insertion

The target of an insertion is one of the names that a statement uses, so it becomes a table of the
statement unless it is accounted for already.  A name is accounted for also when it is only the
alias of a table to read from: then the statement has no table of that name, its column list goes
nowhere, and the target is not looked up in the schema.  In all other cases the target is there,
with its whole column list, and it is checked.

## Main definitions

* `Unhidden` — no table to read from hides a name behind its alias.

## Main results

* `exists_name_eq_target_iff` — the target is a table of the statement unless it is hidden.
* `exists_target_iff_unhidden` — **a target that is not hidden has its column list, and is
  checked.**
* `exists_target_lost` — a target that is hidden is lost.
-/

namespace SqlAnalysis

namespace Sql.Collection

variable {visits : List Part} {i : Insertion}

/-- No table to read from hides the name: one of them is called so, or none has it as its
alias. -/
def Unhidden (visits : List Part) (name : String) : Prop :=
  (∃ l ∈ keptLabels visits, l.1 = name) ∨ ∀ l ∈ keptLabels visits, l.2 ≠ some name

/-- The names of the tables are those met, in whatever order. -/
theorem exists_name_eq_iff (kind : Statement.Kind) (range : Text.Span) (visits : List Part)
    (name : String) :
    (∃ t ∈ (collect kind range visits).tables, t.name = name) ↔
      ∃ l ∈ (tables visits).map label, l.1 = name := by
  have hmem : ∀ l, l ∈ (collect kind range visits).tables.map label
      ↔ l ∈ (tables visits).map label :=
    fun l => by rw [map_label_collect, List.mem_mergeSort]
  constructor
  · rintro ⟨t, ht, hname⟩
    exact ⟨label t, (hmem _).mp (List.mem_map_of_mem ht), hname⟩
  · rintro ⟨l, hl, hname⟩
    obtain ⟨t, ht, rfl⟩ := List.mem_map.mp ((hmem l).mpr hl)
    exact ⟨t, ht, hname⟩

/-- The target of an insertion is met unless it is hidden. -/
theorem exists_label_eq_target_iff (hi : insertion? visits = some i)
    (hnames : i.table ∉ queryNames visits) :
    (∃ l ∈ (tables visits).map label, l.1 = i.table) ↔ Unhidden visits i.table := by
  obtain ⟨added, -, hadded, hmet⟩ := exists_map_label_tables visits
  rw [hmet]
  constructor
  · rintro ⟨l, hl, hname⟩
    rcases List.mem_append.mp hl with hl | hl
    · exact .inl ⟨l, hl, hname⟩
    · obtain ⟨n, hn, rfl⟩ := List.mem_map.mp hl
      obtain ⟨-, -, hnew⟩ := (hadded n).mp hn
      exact .inr fun l hl => hname ▸ (hnew l hl).2
  · intro hunhidden
    -- either a table to read from is called so, or the loop adds the name
    by_cases hkept : ∃ l ∈ keptLabels visits, l.1 = i.table
    · obtain ⟨l, hl, hname⟩ := hkept
      exact ⟨l, List.mem_append_left _ hl, hname⟩
    · have haliases := hunhidden.resolve_left hkept
      have hmem : i.table ∈ added := (hadded i.table).mpr
        ⟨.inr ⟨i, hi, rfl⟩, hnames, fun l hl => ⟨fun hname => hkept ⟨l, hl, hname⟩, haliases l hl⟩⟩
      exact ⟨(i.table, none), List.mem_append_right _ (List.mem_map_of_mem hmem), rfl⟩

/-- The target of an insertion is a table of the statement unless it is hidden. -/
theorem exists_name_eq_target_iff (kind : Statement.Kind) (range : Text.Span)
    (hi : insertion? visits = some i) (hnames : i.table ∉ queryNames visits) :
    (∃ t ∈ (collect kind range visits).tables, t.name = i.table) ↔ Unhidden visits i.table :=
  (exists_name_eq_iff kind range visits i.table).trans (exists_label_eq_target_iff hi hnames)

/-- A table of the statement is one of those met, with its columns in order. -/
theorem mem_tables_collect {kind : Statement.Kind} {range : Text.Span} {t : TableUse} :
    t ∈ (collect kind range visits).tables ↔ t ∈ (filledTables visits).map sortColumns :=
  ((List.mergeSort_perm _ _).map sortColumns).mem_iff

/-- A table that is met becomes a table of the statement with all the columns that belong to it. -/
theorem exists_columns_collect (kind : Statement.Kind) (range : Text.Span) {k : Nat} {t : TableUse}
    (hk : (tables visits)[k]? = some t) :
    ∃ t' ∈ (collect kind range visits).tables, label t' = label t ∧
      ∀ c ∈ columnNames visits k, (t'.column? c).isSome := by
  obtain ⟨hlt, ht⟩ := List.getElem?_eq_some_iff.mp hk
  refine ⟨{ t with
    columns := ((columnNames visits k).mergeSort nameLE).map (attached visits k) }, ?_, rfl, ?_⟩
  · rw [mem_tables_collect, map_sortColumns_filledTables]
    exact List.mem_mapIdx.mpr ⟨k, hlt, by rw [ht]⟩
  · intro c hc
    rw [TableUse.column?, List.find?_isSome]
    exact ⟨attached visits k c, List.mem_map_of_mem (List.mem_mergeSort.mpr hc),
      beq_iff_eq.mpr (name_attached visits k c)⟩

/-- The first table that passes a test does pass it. -/
theorem exists_of_findIdx?_eq_some {p : TableUse → Bool} {ts : List TableUse} {k : Nat}
    (hk : ts.findIdx? p = some k) : ∃ t, ts[k]? = some t ∧ p t = true := by
  obtain ⟨hlt, hp, -⟩ := List.findIdx?_eq_some_iff_getElem.mp hk
  exact ⟨ts[k], List.getElem?_eq_getElem hlt, hp⟩

/-- If some table passes a test, there is a first one. -/
theorem exists_findIdx?_eq_some {p : TableUse → Bool} {ts : List TableUse}
    (h : ∃ t ∈ ts, p t = true) : ∃ k, ts.findIdx? p = some k := by
  rw [← Option.isSome_iff_exists, List.findIdx?_isSome, List.any_eq_true]
  exact h

/-- If the target of an insertion is a table of the statement, one such table has all the columns
of the list. -/
theorem exists_listed_of_name_eq (kind : Statement.Kind) (range : Text.Span)
    (hi : insertion? visits = some i)
    (htarget : ∃ t ∈ (collect kind range visits).tables, t.name = i.table) :
    ∃ t ∈ (collect kind range visits).tables, t.name = i.table ∧
      ∀ c ∈ i.columns, (t.column? c).isSome := by
  obtain ⟨l, hl, hname⟩ := (exists_name_eq_iff kind range visits i.table).mp htarget
  obtain ⟨t, ht, rfl⟩ := List.mem_map.mp hl
  -- the list goes to the first table of that name
  obtain ⟨k, hk⟩ : ∃ k, (tables visits).findIdx? (·.name == i.table) = some k :=
    exists_findIdx?_eq_some ⟨t, ht, beq_iff_eq.mpr hname⟩
  obtain ⟨first, hfirst, hname'⟩ := exists_of_findIdx?_eq_some hk
  have hat : insertionAt? visits k = some i := by
    rw [insertionAt?, hi, Option.filter_some, hk, if_pos (beq_self_eq_true _)]
  obtain ⟨t', ht', hlabel, hcolumns⟩ := exists_columns_collect kind range hfirst
  refine ⟨t', ht', (congrArg Prod.fst hlabel).trans (beq_iff_eq.mp hname'), fun c hc => ?_⟩
  refine hcolumns c ?_
  rw [columnNames, hat]
  exact List.mem_eraseDups.mpr (List.mem_append_right _ hc)

/-- **The target of an insertion.**  The target of the first insertion into a named table, unless
it is the name of a query, is a table of the statement exactly when no table to read from hides it.
If so, a table of that name has all the columns of the list.  If the schema lacks it and its name
is found in the text of the statement, that is a violation, and a problem is reported; the
exceptions are those of the checks. -/
theorem exists_target_iff_unhidden (kind : Statement.Kind) (range : Text.Span)
    (hi : insertion? visits = some i) (hnames : i.table ∉ queryNames visits) :
    let statement := collect kind range visits
    ((∃ t ∈ statement.tables, t.name = i.table) ↔ Unhidden visits i.table) ∧
    (Unhidden visits i.table →
      (∃ t ∈ statement.tables, t.name = i.table ∧ ∀ c ∈ i.columns, (t.column? c).isSome) ∧
      (kind ≠ .ddl → isDual i.table = false →
        ∀ (query : String) (schema : Schema) (statements : List Statement) (place : Text.Span),
          isBlankQuery query = false → statement ∈ statements →
          schema.table? i.table = none →
          (Source.ofRange query range).wholeWord i.table = some place →
            .unknownTable i.table place ∈ violations query schema statements ∧
              (analyze query (some schema) (some (.parsed statements))).isSome)) := by
  intro statement
  have htarget := exists_name_eq_target_iff kind range hi hnames
  refine ⟨htarget, fun hunhidden => ⟨?_, ?_⟩⟩
  · exact exists_listed_of_name_eq kind range hi (htarget.mpr hunhidden)
  · intro hkind hdual query schema statements place hquery hmem hlook hplace
    obtain ⟨t, ht, hname⟩ := htarget.mpr hunhidden
    have hviolation : .unknownTable i.table place ∈ violations query schema statements := by
      rw [← hname] at hdual hlook hplace ⊢
      exact Violations.mem_violations_iff.mpr
        ⟨statement, hmem, hkind, .table ht hdual hlook hplace⟩
    refine ⟨hviolation, ?_⟩
    rw [analyze_parsed hquery, Violations.checkStatements_eq_head?, List.isSome_head?]
    exact List.ne_nil_of_mem hviolation

/-- The alias of a source is another name, so the target has its column and is checked: a schema
without it is violated at its name. -/
theorem exists_target_beside_alias :
    let query := "INSERT INTO t (a) SELECT x.b FROM u AS x"
    let i : Insertion := ⟨"t", ["a"], none⟩
    let visits : List Part :=
      [.insertion [⟨"t", none⟩] ["a"] none, .relation [⟨"t", none⟩], .query [],
       .expr (.column [⟨"x", none⟩, ⟨"b", none⟩]), .factor [⟨"u", none⟩] (some "x"),
       .relation [⟨"u", none⟩]]
    let statement := collect .insert ⟨0, 40⟩ visits
    let schema : Schema := .ofTables [⟨"u", [⟨"b", "int", .number, false⟩]⟩]
    insertion? visits = some i ∧ i.table ∉ queryNames visits ∧ Unhidden visits i.table ∧
      (∃ t ∈ statement.tables, t.name = i.table ∧ ∀ c ∈ i.columns, (t.column? c).isSome) ∧
      isDual i.table = false ∧ isBlankQuery query = false ∧ schema.table? i.table = none ∧
      (Source.ofRange query ⟨0, 40⟩).wholeWord i.table = some ⟨12, 13⟩ ∧
      .unknownTable i.table ⟨12, 13⟩ ∈ violations query schema [statement] ∧
      (analyze query (some schema) (some (.parsed [statement]))).isSome := by
  intro query i visits statement schema
  have hi : insertion? visits = some i := by decide +kernel
  have hnames : i.table ∉ queryNames visits := by decide
  have hunhidden : Unhidden visits i.table := .inr (by decide +kernel)
  have hdual : isDual i.table = false := by decide
  have hquery : isBlankQuery query = false := by decide
  have hlook : schema.table? i.table = none := by
    rw [Schema.table?_eq_find?]
    rfl
  have hplace : (Source.ofRange query ⟨0, 40⟩).wholeWord i.table = some ⟨12, 13⟩ := by
    decide +kernel
  obtain ⟨-, htarget⟩ := exists_target_iff_unhidden .insert ⟨0, 40⟩ hi hnames
  obtain ⟨hlisted, hchecked⟩ := htarget hunhidden
  obtain ⟨hviolation, hsome⟩ := hchecked (by decide) hdual query schema [statement] ⟨12, 13⟩ hquery
    (List.mem_singleton.mpr rfl) hlook hplace
  exact ⟨hi, hnames, hunhidden, hlisted, hdual, hquery, hlook, hplace, hviolation, hsome⟩

/-- The alias of a source has the name of the target.  The parser of this library reads an
insertion into `t`, and the only table of the statement is `u`: there is no table of the name of
the target, no place for the column `a`, and a schema without `t` is not violated. -/
theorem exists_target_lost :
    let query := "INSERT INTO t (a) SELECT 1 FROM u AS t"
    let statement : Statement := ⟨.insert, ⟨0, 38⟩, [⟨"u", some "t", []⟩], none⟩
    (∃ o, (readQuery query).outlines.toOption = some [o] ∧
      insertion? (visitsAll o.parts) = some ⟨"t", ["a"], none⟩ ∧
        "t" ∉ queryNames (visitsAll o.parts) ∧
          ∀ t ∈ (o.statement ⟨0, 38⟩).tables, t.name ≠ "t") ∧
    (frontend defaultLimit query).toOption = some (.parsed [statement]) ∧
    analyze query (some (.ofTables [⟨"u", []⟩])) (frontend defaultLimit query).toOption = none := by
  intro query statement
  have hread : (readQuery query).outlines.toOption.map (List.map fun o =>
      (insertion? (visitsAll o.parts), queryNames (visitsAll o.parts),
        (o.statement ⟨0, 38⟩).tables))
        = some [(some ⟨"t", ["a"], none⟩, [], [⟨"u", some "t", []⟩])] := by
    decide +kernel
  have hparse : (frontend defaultLimit query).toOption = some (.parsed [statement]) := by
    decide +kernel
  refine ⟨?_, hparse, ?_⟩
  · obtain ⟨os, hos, hmap⟩ := Option.map_eq_some_iff.mp hread
    obtain ⟨o, rfl, ho⟩ := List.map_eq_singleton_iff.mp hmap
    obtain ⟨hi, hnames, htables⟩ := by simpa only [Prod.mk.injEq] using ho
    refine ⟨o, hos, hi, by simp [hnames], fun t ht => ?_⟩
    rw [htables, List.mem_singleton] at ht
    rw [ht]
    decide
  · rw [hparse, analyze_parsed (by decide), Violations.checkStatements_eq_head?]
    decide +kernel

end Sql.Collection

end SqlAnalysis
