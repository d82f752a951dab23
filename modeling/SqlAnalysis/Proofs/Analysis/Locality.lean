import Mathlib.Data.List.Basic
import SqlAnalysis.Proofs.Analysis.Violations
import SqlAnalysis.Proofs.Text.Slice

/-!
# Statements are judged on their own text

Names, the word `VALUES` and literals are searched for in the text of one statement, and what is
found is moved to where that text stands in the query.  So the problem of a statement is the one
that it has when its text is a query of its own, moved to the place of the statement; nothing that
surrounds the statement matters.

## Main definitions

* `Statement.Stands` — a statement stands in a query with a given text.
* `problemOf` — the problem of one statement in a query.
* `problemAlone` — the problem of a statement whose text is the whole query.

## Main results

* `checkStatement_eq_shift` — a check of a source is one of its text, moved to its offset.
* `problemOf_eq_shift` — the problem of a statement is the one it has alone, moved to its place.
* `analyze_eq_findSome?_problemAlone` — **the analysis reports the first problem that a statement
  has alone, and the surroundings of a statement do not matter.**
-/

namespace SqlAnalysis

open Text Unicode

/-! ### Moving spans -/

namespace Text.Span

@[simp] theorem shift_zero (s : Span) : s.shift 0 = s := rfl

theorem shift_shift (s : Span) (m n : Nat) : (s.shift m).shift n = s.shift (m + n) := by
  simp [shift, Nat.add_assoc]

end Text.Span

theorem Problem.shift_shift (p : Problem) (m n : Nat) :
    (p.shift m).shift n = p.shift (m + n) := by
  cases p <;> simp [Problem.shift, Span.shift_shift, Nat.add_assoc]

/-! ### Checks of a source -/

section

variable (source : Source)

/-- The text of a source, as if it stood at the start of the query. -/
def Source.atStart : Source :=
  ⟨source.text, 0⟩

theorem Source.wholeWord_eq_shift (target : String) :
    source.wholeWord target = (source.atStart.wholeWord target).map (·.shift source.offset) := by
  simp [Source.wholeWord, Source.atStart]

theorem Source.wholeWordIgnoreCase_eq_shift (target : String) :
    source.wholeWordIgnoreCase target
      = (source.atStart.wholeWordIgnoreCase target).map (·.shift source.offset) := by
  simp [Source.wholeWordIgnoreCase, Source.atStart]

theorem Source.literal_eq_shift (column : ColumnUse) (received : ValueType) :
    source.literal column received
      = (source.atStart.literal column received).map (·.shift source.offset) := by
  simp [Source.literal, Source.atStart]

theorem checkArity_eq_shift (arity : Option RowArity) :
    checkArity source arity
      = (checkArity source.atStart arity).map (·.shift source.offset) := by
  cases arity with
  | none => rfl
  | some a =>
    by_cases ha : a.agrees
    · simp [checkArity, ha]
    · simp only [checkArity, Option.bind_eq_bind, Option.bind_some, ha, Bool.false_eq_true,
        if_false, source.wholeWordIgnoreCase_eq_shift, Option.map_map]
      rfl

theorem checkColumn_eq_shift (table : Schema.Table) (column : ColumnUse) :
    checkColumn source table column
      = (checkColumn source.atStart table column).map (·.shift source.offset) := by
  unfold checkColumn
  cases table.column? column.name with
  | none =>
    simp only [source.wholeWord_eq_shift, Option.map_map]
    rfl
  | some declared =>
    cases column.valueType with
    | none => rfl
    | some received =>
      by_cases haccepts : declared.valueType.accepts received declared.optional
      · simp [haccepts]
      · simp only [Option.bind_eq_bind, Option.bind_some, haccepts, Bool.false_eq_true, if_false,
          source.literal_eq_shift, Option.map_map]
        rfl

theorem checkTable_eq_shift (schema : Schema) (table : TableUse) :
    checkTable source schema table
      = (checkTable source.atStart schema table).map (·.shift source.offset) := by
  unfold checkTable
  by_cases hdual : isDual table.name
  · simp [hdual]
  · cases schema.table? table.name with
    | none =>
      simp only [hdual, Bool.false_eq_true, if_false, source.wholeWord_eq_shift, Option.map_map]
      rfl
    | some declared =>
      simp only [hdual, Bool.false_eq_true, if_false, List.map_findSome?,
        funext (checkColumn_eq_shift source declared)]
      rfl

end

/-! ### One statement -/

/-- The statement stands in the query with the text `w`, which is not blank. -/
structure Statement.Stands (query : String) (s : Statement) (w : List Char) : Prop where
  /-- The text stands at the range of the statement. -/
  cuts : s.range.Cuts w query.toList
  /-- There is something besides blanks. -/
  not_blank : isBlankQuery (String.ofList w) = false

/-- The same statement as the only one of a query that is its text `w`. -/
def Statement.alone (s : Statement) (w : List Char) : Statement :=
  { s with range := ⟨0, byteLength w⟩ }

/-- The problem of one statement in a query. -/
def problemOf (query : String) (schema : Schema) (s : Statement) : Option Problem :=
  analyze query (some schema) (some (.parsed [s]))

/-- The problem of a statement when its text `w` is the whole query. -/
def problemAlone (schema : Schema) (s : Statement) (w : List Char) : Option Problem :=
  problemOf (String.ofList w) schema (s.alone w)

theorem Source.ofRange_of_cuts {query : String} {range : Span} {w : List Char}
    (h : range.Cuts w query.toList) :
    Source.ofRange query range = ⟨String.ofList w, range.start⟩ := by
  rw [Source.ofRange, slice?_eq_some_iff.mpr h]

/-- A text is a piece of itself. -/
theorem cuts_self (w : List Char) : (⟨0, byteLength w⟩ : Span).Cuts w (String.ofList w).toList :=
  ⟨[], [], by simp, rfl, by simp⟩

/-- The check of a statement is the one of its text, moved to its place. -/
theorem checkStatement_eq_shift {query : String} {s : Statement} {w : List Char}
    (h : s.range.Cuts w query.toList) (schema : Schema) :
    checkStatement query schema s
      = (checkStatement (String.ofList w) schema (s.alone w)).map (·.shift s.range.start) := by
  have hsource := Source.ofRange_of_cuts h
  have halone : Source.ofRange (String.ofList w) (s.alone w).range
      = (Source.ofRange query s.range).atStart := by
    rw [hsource]
    exact Source.ofRange_of_cuts (cuts_self w)
  have hoffset : (Source.ofRange query s.range).offset = s.range.start := by rw [hsource]
  unfold checkStatement
  by_cases hkind : s.kind = .ddl
  · simp [hkind, Statement.alone]
  · have hkind' : (s.alone w).kind ≠ .ddl := hkind
    rw [if_neg hkind, if_neg hkind', halone, ← hoffset]
    simp only [Option.map_or, List.map_findSome?,
      checkArity_eq_shift (Source.ofRange query s.range),
      funext (checkTable_eq_shift (Source.ofRange query s.range) schema)]
    rfl

/-- A query in which a statement stands is not blank. -/
theorem Statement.Stands.isBlankQuery_eq_false {query : String} {s : Statement} {w : List Char}
    (h : s.Stands query w) : isBlankQuery query = false := by
  obtain ⟨a, b, hquery, -, -⟩ := h.cuts
  have hw := h.not_blank
  rw [isBlankQuery, String.toList_ofList] at hw
  simp [isBlankQuery, hquery, hw]

theorem problemOf_eq_checkStatement {query : String} (hquery : isBlankQuery query = false)
    (schema : Schema) (s : Statement) :
    problemOf query schema s = checkStatement query schema s := by
  simp [problemOf, analyze, hquery, analyzeParse, checkStatements]

/-- **The problem of a statement is the one that it has alone, moved to its place.** -/
theorem problemOf_eq_shift {query : String} {s : Statement} {w : List Char}
    (h : s.Stands query w) (schema : Schema) :
    problemOf query schema s = (problemAlone schema s w).map (·.shift s.range.start) := by
  rw [problemOf_eq_checkStatement h.isBlankQuery_eq_false, problemAlone,
    problemOf_eq_checkStatement h.not_blank]
  exact checkStatement_eq_shift h.cuts schema

/-! ### All statements -/

/-- **Statements are judged on their own text.**  When every statement stands in the query with
some text, the problem of the query is the first one that a statement has when its text is the
whole query, moved to the place of the statement; a blank query has no statements.  So a
statement that stands in another query with the same text has the same problem there, at the
same distance from where it starts. -/
theorem analyze_eq_findSome?_problemAlone {query : String} (schema : Schema)
    {statements : List Statement} {text : Statement → List Char}
    (hstands : ∀ s ∈ statements, s.Stands query (text s)) :
    (isBlankQuery query = true → statements = []) ∧
    (isBlankQuery query = false →
      analyze query (some schema) (some (.parsed statements))
        = statements.findSome? fun s =>
            (problemAlone schema s (text s)).map (·.shift s.range.start)) ∧
    ∀ s ∈ statements, ∀ (other : String) (range : Span),
      { s with range := range }.Stands other (text s) →
        (problemOf other schema { s with range := range }).map (·.shift s.range.start)
          = (problemOf query schema s).map (·.shift range.start) := by
  refine ⟨fun hblank => ?_, fun hquery => ?_, fun s hs other range hother => ?_⟩
  · refine List.eq_nil_iff_forall_not_mem.mpr fun s hs => ?_
    rw [(hstands s hs).isBlankQuery_eq_false] at hblank
    cases hblank
  · simp only [analyze, hquery, analyzeParse, Option.bind_some, checkStatements,
      Bool.false_eq_true, if_false]
    rw [← List.head?_filterMap, ← List.head?_filterMap]
    refine congrArg List.head? (List.filterMap_congr fun s hs => ?_)
    rw [← problemOf_eq_checkStatement hquery, problemOf_eq_shift (hstands s hs)]
  · -- alone, the statement is the same wherever it stood; both moves add up to the same
    have halone : problemAlone schema { s with range := range } (text s)
        = problemAlone schema s (text s) := rfl
    rw [problemOf_eq_shift hother, problemOf_eq_shift (hstands s hs), halone, Option.map_map,
      Option.map_map]
    congr 1
    funext p
    exact (p.shift_shift _ _).trans ((p.shift_shift _ _).trans
      (congrArg p.shift (Nat.add_comm _ _))).symm

/-- The literal that does not fit is found in its own statement, although the statement in front
holds the same comparison; behind another statement it is found at the same distance. -/
theorem analyze_eq_findSome?_problemAlone_twice :
    let query := "SELECT * FROM t1 WHERE c = 1; SELECT * FROM t2 WHERE c = 1"
    let other := "SELECT 1; SELECT * FROM t2 WHERE c = 1"
    let c : ColumnUse := ⟨"c", .expression, some "=", some "1", some .number⟩
    let first : Statement := ⟨.select, ⟨0, 28⟩, [⟨"t1", none, [c]⟩], none⟩
    let second : Statement := ⟨.select, ⟨29, 58⟩, [⟨"t2", none, [c]⟩], none⟩
    let schema : Schema :=
      .ofTables [⟨"t1", [⟨"c", "int", .number, false⟩]⟩, ⟨"t2", [⟨"c", "text", .string, false⟩]⟩]
    let text : Statement → List Char := fun s => (slice? s.range query.toList).getD []
    (∀ s ∈ [first, second], s.Stands query (text s)) ∧
      { second with range := ⟨9, 38⟩ }.Stands other (text second) ∧
      analyze query (some schema) (some (.parsed [first, second]))
        = some (.typeMismatch .string .number ⟨57, 58⟩) ∧
      (problemOf other schema { second with range := ⟨9, 38⟩ }).map (·.shift 29)
        = (problemOf query schema second).map (·.shift 9) := by
  intro query other c first second schema text
  have hstands : ∀ s ∈ [first, second], s.Stands query (text s) := by
    intro s hs
    have hslice : slice? s.range query.toList = some (text s) ∧
        isBlankQuery (String.ofList (text s)) = false := by
      revert s
      decide +kernel
    exact ⟨slice?_eq_some_iff.mp hslice.1, hslice.2⟩
  have hother : { second with range := ⟨9, 38⟩ }.Stands other (text second) := by
    refine ⟨slice?_eq_some_iff.mp ?_, (hstands second (by simp)).not_blank⟩
    decide +kernel
  obtain ⟨-, hfirst, hmoved⟩ := analyze_eq_findSome?_problemAlone schema hstands
  refine ⟨hstands, hother, ?_, hmoved second (by simp) other ⟨9, 38⟩ hother⟩
  have halone : ∀ s ∈ [first, second], problemAlone schema s (text s)
      = (violations (String.ofList (text s)) schema [s.alone (text s)]).head? := by
    intro s hs
    rw [problemAlone, problemOf_eq_checkStatement (hstands s hs).not_blank,
      ← Violations.checkStatements_eq_head?]
    simp [checkStatements]
  have hnone : problemAlone schema first (text first) = none := by
    rw [halone first (by simp)]
    decide +kernel
  have hsome : problemAlone schema second (text second)
      = some (.typeMismatch .string .number ⟨28, 29⟩) := by
    rw [halone second (by simp)]
    decide +kernel
  rw [hfirst (by decide +kernel), List.findSome?_cons, hnone, Option.map_none,
    List.findSome?_cons, hsome]
  rfl

end SqlAnalysis
