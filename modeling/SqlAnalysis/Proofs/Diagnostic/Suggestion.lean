import SqlAnalysis.Diagnostic
import SqlAnalysis.Proofs.Analysis.HoverAgreement
import SqlAnalysis.Proofs.Diagnostic.Closest

/-!
# Suggestions are right

A diagnostic about a word that is not understood, an unknown table or an unknown column asks
whether another name was meant.  The names in question are those that could stand there: keywords,
the tables of the schema, or the columns of the table at hand.  The one that is asked for is the
first of the closest ones, and the question is left out when there is none, or when that one is the
word itself up to case.  A word that is not understood is no keyword, so there is always something
to ask for.

## Main definitions

* `Suggests` — a message ends in the question for the right name, or in none.

## Main results

* `suggests_didYouMean` — the question behind a sentence is the right one.
* `isKeyword_eq_false_of_analyze` — a word that is not understood is no keyword.
* `suggests_of_mem_diagnose` — **the suggestions of diagnostics are right, and complete.**
-/

namespace SqlAnalysis

open Text Unicode

/-! ### Messages that ask for a name -/

/-- The message is the sentence, behind which it asks for exactly the name that it should: the
first of those in the pool at the least distance from the word, unless that is the word itself up
to ASCII case.  What it asks for resolves. -/
structure Suggests (sentence word : String) (pool : List String) (Resolves : String → Prop)
    (message : String) : Prop where
  /-- A name is asked for if it is the closest one, and not the word itself. -/
  asks_iff : ∀ c, message = sentence ++ (" Did you mean '" ++ c ++ "'?") ↔
    c ∈ pool.argmin (caselessDistance word) ∧ eqIgnoreAsciiCase c.toList word.toList = false
  /-- Nothing is asked for if there is no such name. -/
  bare_iff : message = sentence ↔
    ∀ c ∈ pool.argmin (caselessDistance word), eqIgnoreAsciiCase c.toList word.toList = true
  /-- The name that is asked for exists. -/
  resolves : ∀ c, message = sentence ++ (" Did you mean '" ++ c ++ "'?") → Resolves c

@[simp] theorem didYouMean_none : didYouMean none = "" := rfl

@[simp] theorem didYouMean_some (c : String) :
    didYouMean (some c) = " Did you mean '" ++ c ++ "'?" := rfl

theorem didYouMean_inj {a b : Option String} (h : didYouMean a = didYouMean b) : a = b := by
  cases a with
  | none =>
    cases b with
    | none => rfl
    | some c => simp at h
  | some c =>
    cases b with
    | none => simp at h
    | some d => simpa using h

/-- The question behind a sentence is the right one. -/
theorem suggests_didYouMean {word : String} {pool : List String} {Resolves : String → Prop}
    (hpool : ∀ c ∈ pool, Resolves c) (sentence : String) :
    Suggests sentence word pool Resolves (sentence ++ didYouMean (correction word pool)) := by
  have hbehind : ∀ o, sentence ++ didYouMean (correction word pool) = sentence ++ didYouMean o ↔
      correction word pool = o := by
    intro o
    constructor
    · intro h
      exact didYouMean_inj (by simpa using h)
    · intro h
      rw [h]
  have hasks : ∀ c, sentence ++ didYouMean (correction word pool)
      = sentence ++ (" Did you mean '" ++ c ++ "'?") ↔ correction word pool = some c :=
    fun c => hbehind (some c)
  refine ⟨fun c => (hasks c).trans correction_eq_some_iff, ?_, fun c h => ?_⟩
  · have hbare := hbehind none
    rw [didYouMean_none, String.append_empty, Option.eq_none_iff_forall_ne_some] at hbare
    simpa only [ne_eq, correction_eq_some_iff, not_and, Bool.not_eq_false] using hbare
  · exact hpool c (List.argmin_mem (correction_eq_some_iff.mp ((hasks c).mp h)).1)

/-! ### What is reported -/

/-- The schema declares the table of an unknown column. -/
theorem Violations.Violates.exists_declared {source : Source} {schema : Schema} {s : Statement}
    {column table : String} {span : Span}
    (h : Violates source schema s (.unknownColumn column table span)) :
    ∃ declared, schema.table? table = some declared := by
  cases h with
  | column _ _ hlook => exact ⟨_, hlook⟩

section

variable {query : String} {schema : Option Schema} {parse : Option Parse}

/-- A word that is not understood is no keyword. -/
theorem isKeyword_eq_false_of_analyze {word : String} {span : Span}
    (h : analyze query schema parse = some (.unknownToken word span)) :
    isKeyword word = false := by
  rcases exists_of_analyze h with h | ⟨problem, -, h⟩ | ⟨catalog, statements, -, -, hmem⟩
  · cases h
  · unfold classify at h
    split at h
    · cases h
    · rename_i blamed stop _
      simp only at h
      split at h
      · cases h
      · rename_i hkeyword
        cases h
        simpa using hkeyword
  · obtain ⟨s, -, -, hviolates⟩ := Violations.mem_violations_iff.mp hmem
    cases hviolates

/-- A problem that does not concern the text alone is a violation of a schema. -/
theorem exists_violates_of_analyze {p : Problem} (h : analyze query schema parse = some p)
    (hp : p.isSyntax = false) :
    ∃ catalog source s, schema = some catalog ∧ Violations.Violates source catalog s p := by
  rcases exists_of_analyze h with rfl | ⟨problem, -, rfl⟩ | ⟨catalog, statements, hs, -, hmem⟩
  · cases hp
  · rw [isSyntax_classify] at hp
    cases hp
  · obtain ⟨s, -, -, hviolates⟩ := Violations.mem_violations_iff.mp hmem
    exact ⟨catalog, _, s, hs, hviolates⟩

end

/-! ### The columns that resolve -/

theorem Schema.Table.isSome_column?_of_mem {declared : Schema.Table} {name : String}
    (h : name ∈ declared.columnNames) : (declared.column? name).isSome := by
  obtain ⟨c, hc, rfl⟩ := List.mem_map.mp h
  rw [Schema.Table.column?, List.find?_isSome]
  exact ⟨c, hc, beq_self_eq_true c.name⟩

/-! ### Diagnostics -/

/-- A diagnostic is that of the problem of the query. -/
theorem exists_of_mem_diagnose {query : String} {schema : Option Schema}
    {database : Option String} {parse : Option Parse} {d : Diagnostic}
    (h : d ∈ diagnose query schema database parse) :
    ∃ p, analyze query schema parse = some p ∧ p.code = d.code ∧
      d.message = Diagnostic.messageOf schema database p := by
  obtain ⟨p, hp, rfl⟩ := Option.map_eq_some_iff.mp (Option.mem_toList.mp h)
  exact ⟨p, hp, rfl, rfl⟩

/-- For a word that is no keyword there is always a keyword to ask for. -/
theorem exists_asked_of_not_keyword {sentence word message : String}
    (h : Suggests sentence word keywords (· ∈ keywords) message) (hword : isKeyword word = false) :
    ∃ c, message = sentence ++ (" Did you mean '" ++ c ++ "'?") := by
  have hne : keywords.argmin (caselessDistance word) ≠ none :=
    fun hnone => absurd (List.argmin_eq_none.mp hnone) (List.cons_ne_nil _ _)
  obtain ⟨c, hc⟩ := Option.ne_none_iff_exists'.mp hne
  have hdiffers : eqIgnoreAsciiCase c.toList word.toList = false := by
    simpa using List.any_eq_false.mp hword c (List.argmin_mem hc)
  exact ⟨c, (h.asks_iff c).mpr ⟨hc, hdiffers⟩⟩

/-- **The suggestions of diagnostics are right, and complete.**  A diagnostic with the code of a
word that is not understood, of an unknown table or of an unknown column asks for the first of the
names that are closest to the reported one, among the keywords, the tables of the schema, or the
columns of the reported table, unless it is the reported name itself up to ASCII case.  Such a name
resolves; and a word that is not understood never goes without one. -/
theorem suggests_of_mem_diagnose {query : String} {schema : Option Schema}
    {database : Option String} {parse : Option Parse} {d : Diagnostic}
    (hd : d ∈ diagnose query schema database parse) :
    (d.code = 1004 → ∃ word span,
      analyze query schema parse = some (.unknownToken word span) ∧
        let sentence := "MySQL Syntax Error. Unidentified word '" ++ word ++ "'."
        Suggests sentence word keywords (· ∈ keywords) d.message ∧
          ∃ c, d.message = sentence ++ (" Did you mean '" ++ c ++ "'?")) ∧
    (d.code = 1005 → ∃ table span catalog, schema = some catalog ∧
      analyze query schema parse = some (.unknownTable table span) ∧
        let place := database.elim "" fun name => " in database '" ++ name ++ "'"
        Suggests ("Table '" ++ table ++ "' does not exist" ++ place ++ ".") table
          (catalog.tables.map (·.name)) (fun c => (catalog.table? c).isSome) d.message) ∧
    (d.code = 1006 → ∃ column table span catalog declared, schema = some catalog ∧
      analyze query schema parse = some (.unknownColumn column table span) ∧
        catalog.table? table = some declared ∧
          Suggests ("Column '" ++ column ++ "' does not exist in table '" ++ table ++ "'.") column
            (declared.columns.map (·.name)) (fun c => (declared.column? c).isSome) d.message) := by
  obtain ⟨p, hp, hcode, hmessage⟩ := exists_of_mem_diagnose hd
  refine ⟨fun h => ?_, fun h => ?_, fun h => ?_⟩
  · rw [h] at hcode
    cases p with
    | unknownToken word span =>
      have hsuggests : Suggests ("MySQL Syntax Error. Unidentified word '" ++ word ++ "'.") word
          keywords (· ∈ keywords) d.message := by
        rw [hmessage]
        exact suggests_didYouMean (fun c hc => hc) _
      exact ⟨word, span, hp, hsuggests,
        exists_asked_of_not_keyword hsuggests (isKeyword_eq_false_of_analyze hp)⟩
    | _ => simp [Problem.code] at hcode
  · rw [h] at hcode
    cases p with
    | unknownTable table span =>
      obtain ⟨catalog, source, s, rfl, -⟩ := exists_violates_of_analyze hp rfl
      refine ⟨table, span, catalog, rfl, hp, ?_⟩
      rw [hmessage]
      cases database with
      | none => exact suggests_didYouMean (fun c hc => Schema.isSome_table?_of_mem hc) _
      | some name => exact suggests_didYouMean (fun c hc => Schema.isSome_table?_of_mem hc) _
    | _ => simp [Problem.code] at hcode
  · rw [h] at hcode
    cases p with
    | unknownColumn column table span =>
      obtain ⟨catalog, source, s, rfl, hviolates⟩ := exists_violates_of_analyze hp rfl
      obtain ⟨declared, hdeclared⟩ := hviolates.exists_declared
      have hpool : Problem.pool (some catalog) (.unknownColumn column table span)
          = declared.columns.map (·.name) := by
        simp [Problem.pool, hdeclared, Schema.Table.columnNames]
      refine ⟨column, table, span, catalog, declared, rfl, hp, hdeclared, ?_⟩
      have hasks : d.message
          = "Column '" ++ column ++ "' does not exist in table '" ++ table ++ "'."
            ++ didYouMean (correction column (declared.columns.map (·.name))) := by
        rw [hmessage, ← hpool]
        rfl
      rw [hasks]
      exact suggests_didYouMean (fun c hc => Schema.Table.isSome_column?_of_mem hc) _
    | _ => simp [Problem.code] at hcode

/-- Of two tables that are one edit away the first one is asked for, although the other one is only
a letter longer. -/
theorem suggests_first_of_two_tables :
    let query := "SELECT * FROM user"
    let statements : List Statement := [⟨.select, ⟨0, 18⟩, [⟨"user", none, []⟩], none⟩]
    let catalog : Schema := .ofTables [⟨"posts", []⟩, ⟨"uses", []⟩, ⟨"users", []⟩]
    let d : Diagnostic :=
      ⟨.warning, "Table 'user' does not exist in database 'app'. Did you mean 'uses'?", 14, 4, 1005⟩
    d ∈ diagnose query (some catalog) (some "app") (some (.parsed statements)) ∧
      "uses" ∈ ["posts", "uses", "users"].argmin (caselessDistance "user") ∧
        (catalog.table? "uses").isSome := by
  intro query statements catalog d
  have hquery : isBlankQuery query = false := by decide
  have hproblem : analyze query (some catalog) (some (.parsed statements))
      = some (.unknownTable "user" ⟨14, 18⟩) := by
    rw [analyze_parsed hquery, Violations.checkStatements_eq_head?]
    decide +kernel
  have hd : d ∈ diagnose query (some catalog) (some "app") (some (.parsed statements)) := by
    rw [diagnose, hproblem]
    decide +kernel
  obtain ⟨table, span, catalog', hcatalog, htable, hsuggests⟩ :=
    (suggests_of_mem_diagnose hd).2.1 rfl
  cases hcatalog
  rw [hproblem] at htable
  cases htable
  have hasked : d.message = "Table 'user' does not exist in database 'app'."
      ++ (" Did you mean '" ++ "uses" ++ "'?") := by decide
  exact ⟨hd, ((hsuggests.asks_iff "uses").mp hasked).1, hsuggests.resolves "uses" hasked⟩

end SqlAnalysis
