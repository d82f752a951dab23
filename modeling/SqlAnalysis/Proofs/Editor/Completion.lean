import Mathlib.Data.List.Basic
import SqlAnalysis.Proofs.Analysis.Violations
import SqlAnalysis.Session

/-!
# What completion offers

The completion list and the checks go through the tables of a parse in different ways.  Completion
takes each name once, at its first mention in any statement, and lists the columns that the schema
declares for it; the checks look at one mention after the other.  Both ask the schema the same
question, so a column is offered for a table exactly if the checks find it there.

## Main definitions

* `InOrderOfMention` — the distinct elements of a list, each at its first mention.
* `Offers` — an entry for a column of a table, whatever its type.
* `AgreesOn` — the list offers a column of a table exactly if the checks find it.

## Main results

* `inOrderOfMention_firstMentions` — repeated names are passed over.
* `mem_completions_column_iff` — which columns the list holds.
* `Session.entries_agree` — **completion offers exactly what the checks accept.**
-/

namespace SqlAnalysis

open Text

/-! ### First mentions -/

/-- `names` are the distinct elements of `all`, in the order of their first mention. -/
structure InOrderOfMention (names all : List String) : Prop where
  /-- The same elements. -/
  mem_iff : ∀ n, n ∈ names ↔ n ∈ all
  /-- Each one is mentioned before those behind it. -/
  ordered : names.Pairwise fun a b => all.idxOf a < all.idxOf b

theorem InOrderOfMention.nodup {names all : List String} (h : InOrderOfMention names all) :
    names.Nodup :=
  h.ordered.imp fun {_ _} hlt heq => by
    subst heq
    exact Nat.lt_irrefl _ hlt

theorem mem_firstMentions_iff {seen ns : List String} {n : String} :
    n ∈ firstMentions seen ns ↔ n ∈ ns ∧ n ∉ seen := by
  induction ns generalizing seen with
  | nil => simp [firstMentions]
  | cons m ns ih =>
    rw [firstMentions]
    by_cases hm : m ∈ seen
    · rw [if_pos hm, ih, List.mem_cons]
      constructor
      · rintro ⟨hn, hseen⟩
        exact ⟨.inr hn, hseen⟩
      · rintro ⟨rfl | hn, hseen⟩
        · exact absurd hm hseen
        · exact ⟨hn, hseen⟩
    · rw [if_neg hm, List.mem_cons, ih, List.mem_cons, List.mem_cons]
      by_cases heq : n = m
      · simp [heq, hm]
      · simp [heq]

/-- What is in front of a name in the list of first mentions is mentioned before it. -/
theorem pairwise_firstMentions (seen ns : List String) :
    (firstMentions seen ns).Pairwise fun a b => ns.idxOf a < ns.idxOf b := by
  induction ns generalizing seen with
  | nil => exact .nil
  | cons m ns ih =>
    -- all names but the first stand one place further behind
    have hshift : ∀ seen : List String, m ∈ seen → (firstMentions seen ns).Pairwise fun a b =>
        (m :: ns).idxOf a < (m :: ns).idxOf b := by
      intro seen hm
      have hne : ∀ n ∈ firstMentions seen ns, m ≠ n := by
        rintro n hn rfl
        exact (mem_firstMentions_iff.mp hn).2 hm
      refine (ih seen).imp_of_mem fun {a b} ha hb hlt => ?_
      rw [List.idxOf_cons_ne ns (hne a ha), List.idxOf_cons_ne ns (hne b hb)]
      exact Nat.succ_lt_succ hlt
    rw [firstMentions]
    by_cases hm : m ∈ seen
    · rw [if_pos hm]
      exact hshift seen hm
    · rw [if_neg hm]
      refine .cons (fun n hn => ?_) (hshift (m :: seen) List.mem_cons_self)
      have hne : m ≠ n := by
        rintro rfl
        exact (mem_firstMentions_iff.mp hn).2 List.mem_cons_self
      rw [List.idxOf_cons_self, List.idxOf_cons_ne ns hne]
      exact Nat.succ_pos _

/-- **Repeated names are passed over**, and the others keep their order. -/
theorem inOrderOfMention_firstMentions (ns : List String) :
    InOrderOfMention (firstMentions [] ns) ns where
  mem_iff n := by simp [mem_firstMentions_iff]
  ordered := pairwise_firstMentions [] ns

/-! ### Columns that are offered -/

/-- The list has an entry for this column of this table. -/
def Offers (entries : List Completion) (table column : String) : Prop :=
  ∃ type, .column table column type ∈ entries

section

variable {schema : Schema} {p : Parse}

/-- **Which columns the list holds**: those of the tables that are mentioned and declared. -/
theorem mem_completions_column_iff {table column : String} {type : ValueType} :
    .column table column type ∈ completions (some schema) (some p) ↔
      table ∈ p.tables.map (·.name) ∧ ∃ declared, schema.table? table = some declared ∧
        ∃ d ∈ declared.columns, d.name = column ∧ d.valueType = type := by
  constructor
  · intro h
    simp only [completions, List.mem_append, List.mem_map, List.mem_flatMap, reduceCtorEq,
      and_false, exists_false, or_false, false_or] at h
    obtain ⟨declared, hdeclared, hentry⟩ := h
    obtain ⟨name, hname, hlook⟩ := List.mem_filterMap.mp hdeclared
    obtain ⟨d, hd, heq⟩ := List.mem_map.mp hentry
    cases heq
    rw [Schema.name_of_table? hlook]
    exact ⟨(mem_firstMentions_iff.mp hname).1, declared, hlook, d, hd, rfl, rfl⟩
  · rintro ⟨hname, declared, hlook, d, hd, rfl, rfl⟩
    have hdeclared : declared ∈ referencedTables schema p :=
      List.mem_filterMap.mpr ⟨table, mem_firstMentions_iff.mpr ⟨hname, List.not_mem_nil⟩, hlook⟩
    have hentry : .column table d.name d.valueType ∈ columnCompletions declared := by
      rw [← Schema.name_of_table? hlook]
      exact List.mem_map.mpr ⟨d, hd, rfl⟩
    refine List.mem_append_left _ (List.mem_append_right _ ?_)
    exact List.mem_flatMap.mpr ⟨declared, hdeclared, hentry⟩

theorem column?_isSome_iff {t : Schema.Table} {name : String} :
    (t.column? name).isSome ↔ ∃ d ∈ t.columns, d.name = name := by
  simp [Schema.Table.column?]

/-- A column is offered for a table exactly if the schema declares it there. -/
theorem offers_iff {t : TableUse} {declared : Schema.Table} (ht : t ∈ p.tables)
    (hlook : schema.table? t.name = some declared) {column : String} :
    Offers (completions (some schema) (some p)) t.name column ↔
      (declared.column? column).isSome := by
  have hmentioned : t.name ∈ p.tables.map (·.name) := List.mem_map.mpr ⟨t, ht, rfl⟩
  rw [column?_isSome_iff]
  constructor
  · rintro ⟨type, hentry⟩
    obtain ⟨-, declared', hlook', d, hd, hname, -⟩ := mem_completions_column_iff.mp hentry
    obtain rfl := Option.some.inj (hlook.symm.trans hlook')
    exact ⟨d, hd, hname⟩
  · rintro ⟨d, hd, hname⟩
    exact ⟨d.valueType,
      mem_completions_column_iff.mpr ⟨hmentioned, declared, hlook, d, hd, hname, rfl⟩⟩

end

/-! ### Columns that are checked -/

/-- A column whose name is found is reported as unknown exactly if the table lacks it. -/
theorem checkColumn_eq_unknownColumn_iff {source : Source} {declared : Schema.Table}
    {c : ColumnUse} {place : Span} (hplace : source.wholeWord c.name = some place) :
    checkColumn source declared c = some (.unknownColumn c.name declared.name place) ↔
      ¬(declared.column? c.name).isSome := by
  unfold checkColumn
  cases declared.column? c.name with
  | none => simp [hplace]
  | some d =>
    cases c.valueType with
    | none => simp
    | some received => by_cases h : d.valueType.accepts received d.optional <;> simp [h]

/-- The analysis reports a column as unknown only in a table that lacks it. -/
theorem column?_of_analyze {query column table : String} {schema : Schema} {p : Parse}
    {place : Span} (h : analyze query (some schema) (some p)
      = some (.unknownColumn column table place)) :
    ∃ declared, schema.table? table = some declared ∧ declared.column? column = none := by
  rcases exists_of_analyze h with hempty | ⟨problem, -, hclass⟩ |
    ⟨catalog, statements, hcatalog, -, hmem⟩
  · cases hempty
  · have hsyntax := isSyntax_classify query problem
    rw [← hclass] at hsyntax
    cases hsyntax
  · obtain rfl := Option.some.inj hcatalog
    obtain ⟨s, -, -, hviolates⟩ := Violations.mem_violations_iff.mp hmem
    cases hviolates with
    | column ht hdual hlook hc hmissing hplace => exact ⟨_, hlook, hmissing⟩

/-! ### The list and the checks -/

/-- The list offers a column of a table exactly if the checks find it there. -/
structure AgreesOn (query : String) (schema : Schema) (p : Parse) (entries : List Completion)
    (table : Schema.Table) (c : ColumnUse) : Prop where
  /-- The column is offered exactly if the table declares it. -/
  offers_iff : Offers entries table.name c.name ↔ (table.column? c.name).isSome
  /-- In a text that names the column it is reported as unknown exactly if it is not offered. -/
  reported_iff : ∀ source place, Source.wholeWord source c.name = some place →
    (checkColumn source table c = some (.unknownColumn c.name table.name place) ↔
      ¬Offers entries table.name c.name)
  /-- The analysis does not report a column that is offered. -/
  not_reported : Offers entries table.name c.name →
    ∀ place, analyze query (some schema) (some p)
      ≠ some (.unknownColumn c.name table.name place)

theorem agreesOn_completions (query : String) {schema : Schema} {p : Parse} {t : TableUse}
    {declared : Schema.Table} (ht : t ∈ p.tables) (hlook : schema.table? t.name = some declared)
    (c : ColumnUse) :
    AgreesOn query schema p (completions (some schema) (some p)) declared c := by
  have hname : declared.name = t.name := Schema.name_of_table? hlook
  have hoffers : Offers (completions (some schema) (some p)) declared.name c.name ↔
      (declared.column? c.name).isSome := hname ▸ offers_iff ht hlook
  refine ⟨hoffers, fun source place hplace => ?_, fun hoffered place h => ?_⟩
  · rw [hoffers]
    exact checkColumn_eq_unknownColumn_iff hplace
  · obtain ⟨declared', hlook', hmissing⟩ := column?_of_analyze h
    rw [hname, hlook] at hlook'
    obtain rfl := Option.some.inj hlook'
    rw [hoffers, hmissing] at hoffered
    cases hoffered

/-- **Completion offers exactly what the checks accept.**  Without a schema there are the keywords.
With one there are its tables, in order and with those declared twice, in front of the keywords,
and between them, if the query has a parse, the columns that the schema declares for each table that
the parse mentions, each table once and in the order of first mention.  So for a table of a
statement that is checked, the columns that are offered are those that pass the check. -/
theorem Session.entries_agree (frontend : CountedFrontend) (session : Session) (query : String) :
    (session.entries frontend query none).2 = keywords.map .keyword ∧
    ∀ schema : Schema,
      let parse := (session.parse frontend query).2
      let entries := (session.entries frontend query (some schema)).2
      (parse = none →
        entries = schema.tables.map (fun t => .table t.name) ++ keywords.map .keyword) ∧
      ∀ p, parse = some p →
        (∃ names, InOrderOfMention names (p.tables.map (·.name)) ∧ names.Nodup ∧
          entries = schema.tables.map (fun t => .table t.name)
            ++ (names.filterMap schema.table?).flatMap
              (fun t => t.columns.map fun c => .column t.name c.name c.valueType)
            ++ keywords.map .keyword) ∧
        ∀ s ∈ p.statements, s.kind ≠ .ddl → ∀ t ∈ s.tables, isDual t.name = false →
          ∀ declared, schema.table? t.name = some declared → ∀ c ∈ t.columns,
            AgreesOn query schema p entries declared c := by
  refine ⟨rfl, fun schema => ?_⟩
  intro parse entries
  have hentries : entries = completions (some schema) parse := rfl
  refine ⟨fun hparse => ?_, fun p hparse => ⟨?_, ?_⟩⟩
  · rw [hentries, hparse]
    simp [completions, Schema.tableNames]
  · have hnames := inOrderOfMention_firstMentions (p.tables.map (·.name))
    refine ⟨_, hnames, hnames.nodup, ?_⟩
    rw [hentries, hparse, completions, Option.map_some, Option.getD_some, Schema.tableNames,
      List.map_map]
    rfl
  · intro s hs _ t ht _ declared hlook c _
    rw [hentries, hparse]
    exact agreesOn_completions query (List.mem_flatMap.mpr ⟨s, hs, ht⟩) hlook c

/-- A table is used under two names, and is declared twice with different columns: only the column
of the first declaration is offered and passes the check.  When the front end fails there are the
tables and the keywords. -/
theorem Session.entries_agree_declared_twice :
    let query := "SELECT a.id, b.x FROM users a JOIN users b"
    let id : ColumnUse := .reference "id"
    let x : ColumnUse := .reference "x"
    let first : TableUse := ⟨"users", some "a", [id]⟩
    let second : TableUse := ⟨"users", some "b", [x]⟩
    let statement : Statement := ⟨.select, ⟨0, 42⟩, [first, second], none⟩
    let p : Parse := .parsed [statement]
    let users : Schema.Table := ⟨"users", [.ofSqlType "id" "int" false]⟩
    let again : Schema.Table := ⟨"users", [.ofSqlType "x" "int" false]⟩
    let schema : Schema := .ofTables [users, again]
    let entries := (Session.initial.entries (fun _ _ => .ok p) query (some schema)).2
    let failing : CountedFrontend := fun _ _ => .error .recursionLimit
    statement.kind ≠ .ddl ∧ isDual "users" = false ∧ schema.table? "users" = some users ∧
      AgreesOn query schema p entries users id ∧ Offers entries "users" "id" ∧
      AgreesOn query schema p entries users x ∧ ¬Offers entries "users" "x" ∧
      (Session.initial.parse failing query).2 = none ∧
      (Session.initial.entries failing query (some schema)).2
        = [.table "users", .table "users"] ++ keywords.map .keyword := by
  intro query id x first second statement p users again schema entries failing
  have hkind : statement.kind ≠ .ddl := by decide
  have hdual : isDual "users" = false := by decide
  have hlook : schema.table? "users" = some users := Schema.table?_eq_find? schema "users"
  obtain ⟨-, hparsed⟩ := Session.entries_agree (fun _ _ => .ok p) Session.initial query
  obtain ⟨-, hagree⟩ := (hparsed schema).2 p rfl
  have hid : AgreesOn query schema p entries users id :=
    hagree statement List.mem_cons_self hkind first List.mem_cons_self hdual users hlook id
      List.mem_cons_self
  have hx : AgreesOn query schema p entries users x :=
    hagree statement List.mem_cons_self hkind second (List.mem_cons_of_mem _ List.mem_cons_self)
      hdual users hlook x List.mem_cons_self
  obtain ⟨-, hfailed⟩ := Session.entries_agree failing Session.initial query
  exact ⟨hkind, hdual, hlook, hid, hid.offers_iff.mpr (by decide), hx,
    fun h => absurd (hx.offers_iff.mp h) (by decide), rfl, (hfailed schema).1 rfl⟩

end SqlAnalysis
