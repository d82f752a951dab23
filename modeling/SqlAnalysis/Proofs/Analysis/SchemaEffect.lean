import SqlAnalysis.Proofs.Analysis.Violations

/-!
# What a schema adds

The text of a query is judged first, and a schema is asked only about a query that has a parse.  So
the problem without a schema is the problem with every schema; what a schema adds, it adds where
nothing is wrong without it, and that never concerns the text alone and always has a place.

## Main definitions

* `added` — what a schema has against a query that is fine without one.

## Main results

* `analyze_some_eq_or` — the problem with a schema is the one without, or else what is added.
* `analyze_schema_adds` — **a schema only adds problems that are not of the text.**
-/

namespace SqlAnalysis

open Text

/-- What a schema has against a query that is fine without one: the first violation of its
statements, if it has a parse. -/
def added (query : String) (schema : Schema) : Option Parse → Option Problem
  | some (.parsed statements) => (violations query schema statements).head?
  | some (.rejected _) | none => none

/-- Without a schema only the text of a query is judged. -/
theorem isSyntax_of_analyze_none {query : String} {parse : Option Parse} {p : Problem}
    (h : analyze query none parse = some p) : p.isSyntax = true := by
  rcases exists_of_analyze h with rfl | ⟨problem, -, rfl⟩ | ⟨catalog, -, hcatalog, -, -⟩
  · rfl
  · exact isSyntax_classify query problem
  · cases hcatalog

/-- The problem with a schema is the one without, or else what the schema adds. -/
theorem analyze_some_eq_or (query : String) (schema : Schema) (parse : Option Parse) :
    analyze query (some schema) parse
      = (analyze query none parse).or (added query schema parse) := by
  cases hquery : isBlankQuery query with
  | true => simp [analyze, hquery]
  | false =>
    cases parse with
    | none => simp [analyze, hquery, analyzeParse, added]
    | some parse =>
      cases parse with
      | rejected problem => simp [analyze, hquery, analyzeParse]
      | parsed statements =>
        -- without a schema nothing is wrong, so all that is found is added
        have hfine : analyze query none (some (.parsed statements)) = none := by
          simp [analyze, hquery, analyzeParse]
        rw [hfine, Option.none_or, analyze_parsed hquery, Violations.checkStatements_eq_head?]
        rfl

/-- What a schema adds does not concern the text alone, and has a place. -/
theorem exists_span_of_added {query : String} {schema : Schema} {parse : Option Parse}
    {p : Problem} (h : added query schema parse = some p) :
    p.isSyntax = false ∧ ∃ s, p.span? = some s := by
  match parse, h with
  | some (.parsed statements), h =>
    obtain ⟨s, -, -, hviolates⟩ := Violations.mem_violations_iff.mp (List.mem_of_head? h)
    cases hviolates with
    | count | table | column | value => exact ⟨rfl, _, rfl⟩

/-- **A schema only adds problems that are not of the text.**  Whatever the front end says about a
query, and whatever the schema:

* a problem without a schema concerns the text alone, and is the problem with the schema too;
* if there is none without a schema, one with it does not concern the text alone, and has a place;
* a problem that concerns the text alone is there with every schema and without one. -/
theorem analyze_schema_adds (query : String) (parse : Option Parse) (schema : Schema) :
    (∀ p, analyze query none parse = some p →
      p.isSyntax = true ∧ analyze query (some schema) parse = some p) ∧
    (analyze query none parse = none → ∀ p, analyze query (some schema) parse = some p →
      p.isSyntax = false ∧ ∃ s, p.span? = some s) ∧
    (∀ p, analyze query (some schema) parse = some p → p.isSyntax = true →
      analyze query none parse = some p ∧
        ∀ other, analyze query (some other) parse = some p) := by
  have hevery : ∀ p, analyze query none parse = some p →
      ∀ other, analyze query (some other) parse = some p := by
    intro p hp other
    rw [analyze_some_eq_or, hp, Option.some_or]
  refine ⟨?_, ?_, ?_⟩
  · intro p hp
    exact ⟨isSyntax_of_analyze_none hp, hevery p hp schema⟩
  · intro hnone p hp
    rw [analyze_some_eq_or, hnone, Option.none_or] at hp
    exact exists_span_of_added hp
  · intro p hp hkind
    rw [analyze_some_eq_or] at hp
    cases hnone : analyze query none parse with
    | some q =>
      rw [hnone, Option.some_or] at hp
      cases hp
      exact ⟨rfl, hevery p hnone⟩
    | none =>
      -- what is added would not concern the text
      rw [hnone, Option.none_or] at hp
      have hnot := (exists_span_of_added hp).1
      rw [hkind] at hnot
      cases hnot

/-- A query that is rejected at a word is rejected there with a schema that lacks its table, and
with every other one; a query that has a parse is fine until a schema lacks its table. -/
theorem analyze_schema_adds_unknownTable :
    let query := "SELECT * FRM users"
    let problem : Problem := .unknownToken "FRM" ⟨9, 12⟩
    let rejected : Option Parse := some (.rejected ⟨"FRM", some 12⟩)
    let fine := "SELECT * FROM users"
    let missing : Problem := .unknownTable "users" ⟨14, 19⟩
    let parsed : Option Parse :=
      some (.parsed [⟨.select, ⟨0, 19⟩, [⟨"users", none, []⟩], none⟩])
    let empty : Schema := .ofTables []
    analyze query none rejected = some problem ∧ problem.isSyntax = true ∧
      analyze query (some empty) rejected = some problem ∧
      (∀ other, analyze query (some other) rejected = some problem) ∧
      analyze fine none parsed = none ∧ analyze fine (some empty) parsed = some missing ∧
      missing.isSyntax = false ∧ ∃ s, missing.span? = some s := by
  intro query problem rejected fine missing parsed empty
  obtain ⟨hsame, -, hevery⟩ := analyze_schema_adds query rejected empty
  obtain ⟨-, hadds, -⟩ := analyze_schema_adds fine parsed empty
  have hproblem : analyze query none rejected = some problem := by decide +kernel
  have hfine : analyze fine none parsed = none := by decide +kernel
  have hmissing : analyze fine (some empty) parsed = some missing := by
    rw [analyze_parsed (by decide), Violations.checkStatements_eq_head?]
    decide +kernel
  obtain ⟨hkind, hschema⟩ := hsame problem hproblem
  refine ⟨hproblem, hkind, hschema, (hevery problem hschema hkind).2, hfine,
    hmissing, ?_⟩
  exact hadds hfine missing hmissing

end SqlAnalysis
