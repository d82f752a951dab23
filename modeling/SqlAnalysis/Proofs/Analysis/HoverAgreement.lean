import SqlAnalysis.Hover
import SqlAnalysis.Proofs.Analysis.Violations
import SqlAnalysis.Proofs.Word.Local
import SqlAnalysis.Proofs.Word.WholeWord

/-!
# Hover and diagnostics agree on the word

A name that the schema does not know is searched for in the text of one statement; hover cuts the
whole query into words and takes the one that touches the cursor.  If statements stand between
semicolons, both see the same words, and the two ends of a word that begins with a word character
belong to no other word.  So hover shows the reported name from everywhere on the reported span.

## Main definitions

* `Problem.IsUnknown` — the schema does not know a name.

## Main results

* `mem_words_of_wholeWord` — what is found in a statement is a word of the query.
* `locate_of_analyze` — **hover shows the reported name on the whole reported span.**
-/

namespace SqlAnalysis

open Text Unicode

/-- The problem is that the schema does not know the name at the span, as that of a table or of a
column. -/
def Problem.IsUnknown (p : Problem) (name : String) (span : Span) : Prop :=
  p = .unknownTable name span ∨ ∃ table, p = .unknownColumn name table span

/-! ### What is reported -/

namespace Violations

variable {source : Source} {schema : Schema} {p : Problem} {name : String} {span : Span}

/-- An unknown name is found in the source as a whole word. -/
theorem Violates.wholeWord_eq {s : Statement} (h : Violates source schema s p)
    (hp : p.IsUnknown name span) :
    source.wholeWord name = some span ∧
      (p = .unknownTable name span → schema.table? name = none) := by
  cases h with
  | table _ _ hlook hplace =>
    rcases hp with hp | ⟨table, hp⟩
    · cases hp
      exact ⟨hplace, fun _ => hlook⟩
    · cases hp
  | column _ _ _ _ _ hplace =>
    rcases hp with hp | ⟨table, hp⟩
    · cases hp
    · cases hp
      exact ⟨hplace, fun h => by cases h⟩
  | count | value => rcases hp with hp | ⟨table, hp⟩ <;> cases hp

/-- A name that the schema does not know is found in the source of one of the statements. -/
theorem exists_wholeWord_of_mem_violations {query : String} {statements : List Statement}
    (h : p ∈ violations query schema statements) (hp : p.IsUnknown name span) :
    ∃ s ∈ statements, (Source.ofRange query s.range).wholeWord name = some span ∧
      (p = .unknownTable name span → schema.table? name = none) := by
  obtain ⟨s, hs, -, hviolates⟩ := mem_violations_iff.mp h
  exact ⟨s, hs, hviolates.wholeWord_eq hp⟩

end Violations

/-! ### Where it is found -/

/-- **What is found in a statement that stands between semicolons is a word of the query.** -/
theorem mem_words_of_wholeWord {query name : String} {range span : Span}
    (hrange : range.Separated query.toList)
    (h : (Source.ofRange query range).wholeWord name = some span) {d : Char}
    (hd : d ∈ name.toList.head?) (hword : isWordChar d = true) :
    (⟨name, span.start, span.stop⟩ : Word) ∈ words query := by
  obtain ⟨s, hfound, rfl⟩ := Option.map_eq_some_iff.mp h
  unfold Source.ofRange at hfound ⊢
  cases hslice : slice? range query.toList with
  | some t =>
    simp only [hslice] at hfound ⊢
    obtain ⟨w, hw, rfl, rfl⟩ := exists_mem_words_of_firstWholeWord hfound hd hword
    exact mem_words_of_mem_words_piece hrange (slice?_eq_some_iff.mp hslice) hw
  | none =>
    -- a range that is no part of the query stands for all of it
    simp only [hslice] at hfound ⊢
    obtain ⟨w, hw, rfl, rfl⟩ := exists_mem_words_of_firstWholeWord hfound hd hword
    exact hw

/-! ### Hover -/

/-- **Hover and diagnostics agree on the word.**  When statements stand between semicolons and
the analysis reports that the schema does not know a name that begins with a word character, then
from everywhere on the reported span, both ends included, exactly the word with this name and
this span is located in the whole query, and hover shows it, whatever it is given besides; and
given the same schema it shows no table there if the name is that of an unknown table. -/
theorem locate_of_analyze {query : String} {schema : Schema} {parse : Parse}
    (hranges : ∀ s ∈ parse.statements, s.range.Separated query.toList)
    {p : Problem} {name : String} {span : Span}
    (h : analyze query (some schema) (some parse) = some p) (hp : p.IsUnknown name span)
    {d : Char} (hd : d ∈ name.toList.head?) (hword : isWordChar d = true)
    {offset : Nat} (hstart : span.start ≤ offset) (hstop : offset ≤ span.stop) :
    locate offset query = some ⟨name, span.start, span.stop⟩ ∧
      ∀ (catalog : Option Schema) (known : Option Parse), ∃ info,
        quickInfo query offset catalog known = some info ∧
          info.word = ⟨name, span.start, span.stop⟩ ∧
          (p = .unknownTable name span → catalog = some schema → info.table = none) := by
  have hconcerns : p.isSyntax = false := by
    rcases hp with rfl | ⟨table, rfl⟩ <;> rfl
  obtain ⟨s, hs, hfound, hunknown⟩ := Violations.exists_wholeWord_of_mem_violations
    (mem_violations_of_analyze h hconcerns) hp
  have hmem := mem_words_of_wholeWord (hranges s hs) hfound hd hword
  have hlocated : locate offset query = some ⟨name, span.start, span.stop⟩ :=
    locate_of_mem_words hmem hd hword hstart hstop
  refine ⟨hlocated, fun catalog known => ?_⟩
  refine ⟨wordInfo catalog known ⟨name, span.start, span.stop⟩, ?_, rfl, ?_⟩
  · rw [quickInfo, hlocated]
    rfl
  · rintro htable rfl
    cases known with
    | none => rfl
    | some known =>
      show hoveredTable schema known name = none
      rw [hoveredTable, Option.bind_eq_none_iff]
      intro t ht
      -- whatever use of a table is hovered, its name is the one the schema does not know
      have hsame : t.name = name := by simpa using List.find?_some ht
      rw [hsame]
      exact hunknown htable

/-- The unknown table of the second statement is shown even from right behind its last character,
where the semicolon stands. -/
theorem locate_of_analyze_second_statement :
    let query := "SELECT a FROM t; SELECT a FROM nope; SELECT 1"
    let statements : List Statement :=
      [⟨.select, ⟨0, 15⟩, [⟨"t", none, [.reference "a"]⟩], none⟩,
       ⟨.select, ⟨16, 35⟩, [⟨"nope", none, [.reference "a"]⟩], none⟩]
    let schema : Schema := .ofTables [⟨"t", [⟨"a", "int", .number, false⟩]⟩]
    (∀ s ∈ statements, s.range.Separated query.toList) ∧
      analyze query (some schema) (some (.parsed statements))
        = some (.unknownTable "nope" ⟨31, 35⟩) ∧
      isWordChar 'n' = true ∧ locate 35 query = some ⟨"nope", 31, 35⟩ ∧
      ∃ info, quickInfo query 35 (some schema) (some (.parsed statements)) = some info ∧
        info.word = ⟨"nope", 31, 35⟩ ∧ info.table = none := by
  intro query statements schema
  have hranges : ∀ s ∈ (Parse.parsed statements).statements,
      s.range.Separated query.toList := by
    intro s hs
    rcases List.mem_cons.mp hs with rfl | hs
    · exact ⟨.inl rfl, .inr ⟨"SELECT a FROM t".toList, " SELECT a FROM nope; SELECT 1".toList,
        by decide, by decide⟩⟩
    · obtain rfl := List.mem_singleton.mp hs
      exact ⟨.inr ⟨"SELECT a FROM t".toList, " SELECT a FROM nope; SELECT 1".toList,
        by decide, by decide⟩, .inr ⟨"SELECT a FROM t; SELECT a FROM nope".toList,
        " SELECT 1".toList, by decide, by decide⟩⟩
  have hquery : isBlankQuery query = false := by decide
  have hproblem : analyze query (some schema) (some (.parsed statements))
      = some (.unknownTable "nope" ⟨31, 35⟩) := by
    have hchecks : checkStatements query schema statements
        = some (.unknownTable "nope" ⟨31, 35⟩) := by
      rw [Violations.checkStatements_eq_head?]
      decide +kernel
    simp only [analyze, hquery, analyzeParse, Option.bind_some, Bool.false_eq_true, if_false,
      hchecks]
  have hword : isWordChar 'n' = true := by decide +kernel
  obtain ⟨hlocated, hshown⟩ := locate_of_analyze hranges hproblem
    (.inl rfl) rfl hword (by decide) (by decide : 35 ≤ 35)
  obtain ⟨info, hinfo, hat, htable⟩ := hshown (some schema) (some (.parsed statements))
  exact ⟨hranges, hproblem, hword, hlocated, info, hinfo, hat, htable rfl rfl⟩

end SqlAnalysis
