import SqlAnalysis.Proofs.Schema.Lookup
import SqlAnalysis.Proofs.Word.Locate
import SqlAnalysis.Session

/-!
# What hovering shows

The offset matters only through the word that it lies in, and word and topic need nothing else.
Table and column come from two searches through the tables of all statements.  The first one looks
for a table named like the word; the second one asks the schema for each table in turn and takes the
first that has a column named like the word.  Neither is stopped by a table that the schema does not
know.

## Main definitions

* `FirstColumn` — the column of the first table used that has one of the name.
* `Shows` — everything that is shown about a word.

## Main results

* `hoveredTable_eq_some_iff`, `hoveredColumn_eq_some_iff` — what the two searches find.
* `Session.info_eq_map_locate` — the offset matters only through the word at it.
* `Session.info_determined_by_word` — **what is shown is determined by the word, the schema and the
  parse.**
-/

namespace SqlAnalysis

/-! ### Tables and columns -/

/-- `c` is the column called `name` of the first of the tables `uses` that the schema knows and that
has such a column. -/
def FirstColumn (schema : Schema) (uses : List TableUse) (name : String) (c : Schema.Column) :
    Prop :=
  ∃ before t after declared, uses = before ++ t :: after ∧ schema.table? t.name = some declared ∧
    declared.column? name = some c ∧
      ∀ u ∈ before, ∀ d, schema.table? u.name = some d → d.column? name = none

section

variable {schema : Schema} {parse : Parse} {name : String}

/-- A table is found if the query uses a table of that name and the schema knows it. -/
theorem hoveredTable_eq_some_iff {t : Schema.Table} :
    hoveredTable schema parse name = some t ↔
      (∃ u ∈ parse.tables, u.name = name) ∧ schema.table? name = some t := by
  unfold hoveredTable
  rw [Option.bind_eq_some_iff]
  constructor
  · rintro ⟨u, hfind, hlook⟩
    have hname : u.name = name := by simpa using List.find?_some hfind
    exact ⟨⟨u, List.mem_of_find?_eq_some hfind, hname⟩, hname ▸ hlook⟩
  · rintro ⟨⟨u, hu, hname⟩, hlook⟩
    have hsome : (parse.tables.find? (·.name == name)).isSome :=
      List.find?_isSome.mpr ⟨u, hu, beq_iff_eq.mpr hname⟩
    obtain ⟨v, hfind⟩ := Option.isSome_iff_exists.mp hsome
    have hv : v.name = name := by simpa using List.find?_some hfind
    exact ⟨v, hfind, hv ▸ hlook⟩

/-- The two steps of the search for a column, as one. -/
theorem hoveredColumn_eq_findSome? :
    hoveredColumn schema parse name
      = parse.tables.findSome? fun t => (schema.table? t.name).bind (·.column? name) := by
  unfold hoveredColumn
  induction parse.tables with
  | nil => rfl
  | cons t ts ih =>
    rw [List.filterMap_cons, List.findSome?_cons, ← ih]
    cases schema.table? t.name with
    | none => rfl
    | some declared => rw [List.findSome?_cons, Option.bind_some]

/-- **Tables that the schema does not know are passed over** in the search for a column. -/
theorem hoveredColumn_eq_some_iff {c : Schema.Column} :
    hoveredColumn schema parse name = some c ↔ FirstColumn schema parse.tables name c := by
  have hnone : ∀ u : TableUse, (schema.table? u.name).bind (·.column? name) = none ↔
      ∀ d, schema.table? u.name = some d → d.column? name = none :=
    fun u => Option.bind_eq_none_iff
  rw [hoveredColumn_eq_findSome?, List.findSome?_eq_some_iff]
  constructor
  · rintro ⟨before, t, after, hsplit, hfound, hbefore⟩
    obtain ⟨declared, hlook, hcolumn⟩ := Option.bind_eq_some_iff.mp hfound
    exact ⟨before, t, after, declared, hsplit, hlook, hcolumn,
      fun u hu => (hnone u).mp (hbefore u hu)⟩
  · rintro ⟨before, t, after, declared, hsplit, hlook, hcolumn, hbefore⟩
    exact ⟨before, t, after, hsplit, Option.bind_eq_some_iff.mpr ⟨declared, hlook, hcolumn⟩,
      fun u hu => (hnone u).mpr (hbefore u hu)⟩

/-- A column is found if the schema declares one of that name in a table that the query uses. -/
theorem isSome_hoveredColumn_iff :
    (hoveredColumn schema parse name).isSome ↔ ∃ u ∈ parse.tables, ∃ declared,
      schema.table? u.name = some declared ∧ ∃ d ∈ declared.columns, d.name = name := by
  have hsome : ∀ u : TableUse, ((schema.table? u.name).bind (·.column? name)).isSome ↔
      ∃ declared, schema.table? u.name = some declared ∧ ∃ d ∈ declared.columns, d.name = name := by
    intro u
    cases schema.table? u.name <;> simp [Schema.Table.column?]
  rw [hoveredColumn_eq_findSome?, List.findSome?_isSome_iff]
  exact exists_congr fun u => and_congr_right fun _ => hsome u

end

/-! ### What is shown -/

/-- Everything that is shown about the word `w`, given the schema and the parse. -/
structure Shows (schema : Option Schema) (parse : Option Parse) (w : Word) (info : QuickInfo) :
    Prop where
  /-- The word. -/
  word_eq : info.word = w
  /-- Its topic. -/
  topic_eq : info.topic = topic? w.text
  /-- The table of its name, if the query uses one and the schema knows it. -/
  table_iff : ∀ t, info.table = some t ↔ ∃ s p, schema = some s ∧ parse = some p ∧
    (∃ u ∈ p.tables, u.name = w.text) ∧ s.table? w.text = some t
  /-- The column of its name in the first table that has one. -/
  column_iff : ∀ c, info.column = some c ↔ ∃ s p, schema = some s ∧ parse = some p ∧
    FirstColumn s p.tables w.text c
  /-- There is one if any table that the query uses has one. -/
  isSome_column_iff : info.column.isSome ↔ ∃ s p, schema = some s ∧ parse = some p ∧
    ∃ u ∈ p.tables, ∃ declared, s.table? u.name = some declared ∧
      ∃ d ∈ declared.columns, d.name = w.text

theorem shows_wordInfo (schema : Option Schema) (parse : Option Parse) (w : Word) :
    Shows schema parse w (wordInfo schema parse w) where
  word_eq := rfl
  topic_eq := rfl
  table_iff t := by
    cases schema <;> cases parse <;> simp [wordInfo, hoveredTable_eq_some_iff]
  column_iff c := by
    cases schema <;> cases parse <;> simp [wordInfo, hoveredColumn_eq_some_iff]
  isSome_column_iff := by
    cases schema <;> cases parse <;> simp [wordInfo, isSome_hoveredColumn_iff]

/-- What is shown is all there is. -/
theorem Shows.unique {schema : Option Schema} {parse : Option Parse} {w : Word}
    {info info' : QuickInfo} (h : Shows schema parse w info) (h' : Shows schema parse w info') :
    info = info' := by
  have htable : info.table = info'.table :=
    Option.ext fun t => (h.table_iff t).trans (h'.table_iff t).symm
  have hcolumn : info.column = info'.column :=
    Option.ext fun c => (h.column_iff c).trans (h'.column_iff c).symm
  obtain ⟨word, topic, table, column⟩ := info
  obtain ⟨word', topic', table', column'⟩ := info'
  obtain rfl : word = word' := h.word_eq.trans h'.word_eq.symm
  obtain rfl : topic = topic' := h.topic_eq.trans h'.topic_eq.symm
  cases htable
  cases hcolumn
  rfl

/-- The offset matters only through the word at it. -/
theorem Session.info_eq_map_locate (frontend : CountedFrontend) (session : Session)
    (query : String) (offset : Nat) (schema : Option Schema) :
    (session.info frontend query offset schema).2
      = (locate offset query).map (wordInfo schema (session.parse frontend query).2) := by
  unfold Session.info
  cases locate offset query with
  | none => rfl
  | some w =>
    cases schema with
    | none => rfl
    | some catalog => rfl

/-- **What is shown is determined by the word, the schema and the parse.**  There is nothing exactly
if no word touches the offset.  Word and topic depend on neither schema, session nor front end; two
offsets in one word show the same, in any sessions that have the same parse of the query. -/
theorem Session.info_determined_by_word (frontend : CountedFrontend) (session : Session)
    (query : String) (offset : Nat) (schema : Option Schema) :
    let parse := (session.parse frontend query).2
    let info := (session.info frontend query offset schema).2
    (info = none ↔ ∀ w ∈ words query, ¬(w.start ≤ offset ∧ offset ≤ w.stop)) ∧
      (∀ i, info = some i ↔ ∃ w, locate offset query = some w ∧ Shows schema parse w i) ∧
      (∀ (frontend' : CountedFrontend) (session' : Session) (schema' : Option Schema),
        (session'.info frontend' query offset schema').2.map (fun i => (i.word, i.topic))
          = info.map fun i => (i.word, i.topic)) ∧
      ∀ (frontend' : CountedFrontend) (session' : Session) (offset' : Nat),
        (session'.parse frontend' query).2 = parse →
          locate offset' query = locate offset query →
            (session'.info frontend' query offset' schema).2 = info := by
  intro parse info
  have hinfo : info = (locate offset query).map (wordInfo schema parse) :=
    info_eq_map_locate frontend session query offset schema
  refine ⟨?_, fun i => ?_, fun frontend' session' schema' => ?_,
    fun frontend' session' offset' hparse hlocate => ?_⟩
  · rw [hinfo, Option.map_eq_none_iff, locate_eq_find?, List.find?_eq_none]
    simp only [Word.encloses_iff]
  · rw [hinfo, Option.map_eq_some_iff]
    refine exists_congr fun w => and_congr_right fun _ => ?_
    constructor
    · rintro rfl
      exact shows_wordInfo schema parse w
    · intro h
      exact (shows_wordInfo schema parse w).unique h
  · rw [hinfo, info_eq_map_locate, Option.map_map, Option.map_map]
    rfl
  · rw [hinfo, info_eq_map_locate, hparse, hlocate]

/-- The second statement uses two tables, and the first statement one that the schema does not know.
From both ends of the word the column is found in the second table, the first one that has it, in a
fresh session and in one that keeps the parse. -/
theorem Session.info_determined_by_word_unknown_first :
    let query := "SELECT * FROM logs; SELECT name FROM tags, users"
    let p : Parse := .parsed
      [⟨.select, ⟨0, 18⟩, [⟨"logs", none, []⟩], none⟩,
        ⟨.select, ⟨19, 47⟩, [⟨"tags", none, []⟩, ⟨"users", none, []⟩], none⟩]
    let name : Schema.Column := .ofSqlType "name" "text" false
    let schema : Schema := .ofTables
      [⟨"posts", [.ofSqlType "name" "int" false]⟩, ⟨"users", [name]⟩, ⟨"tags", []⟩]
    let frontend : CountedFrontend := fun _ _ => .ok p
    let keeping : Session := (Session.initial.parse frontend query).1
    let info := (Session.initial.info frontend query 27 (some schema)).2
    (keeping.parse frontend query).2 = (Session.initial.parse frontend query).2 ∧
      locate 31 query = locate 27 query ∧
      (keeping.info frontend query 31 (some schema)).2 = info ∧
      info = some ⟨⟨"name", 27, 31⟩, none, none, some name⟩ := by
  intro query p name schema frontend keeping info
  have hparse : (keeping.parse frontend query).2 = (Session.initial.parse frontend query).2 := rfl
  have hlocate : locate 31 query = locate 27 query := by decide +kernel
  have hword : locate 27 query = some ⟨"name", 27, 31⟩ := by decide +kernel
  have hcolumn : hoveredColumn schema p "name" = some name := by
    rw [hoveredColumn_eq_findSome?]
    simp only [Schema.table?_eq_find?]
    rfl
  have htopic : topic? "name" = none := by decide +kernel
  obtain ⟨-, -, -, hsame⟩ :=
    Session.info_determined_by_word frontend Session.initial query 27 (some schema)
  refine ⟨hparse, hlocate, hsame frontend keeping 31 hparse hlocate, ?_⟩
  have hinfo : info = some (wordInfo (some schema) (some p) ⟨"name", 27, 31⟩) := by
    rw [← Option.map_some, ← hword]
    exact Session.info_eq_map_locate frontend Session.initial query 27 (some schema)
  rw [hinfo, ← hcolumn, ← htopic]
  rfl

end SqlAnalysis
