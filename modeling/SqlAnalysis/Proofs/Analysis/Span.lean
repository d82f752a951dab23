import SqlAnalysis.Proofs.Analysis.LiteralPattern
import SqlAnalysis.Proofs.Analysis.Violations
import SqlAnalysis.Proofs.Sql.Blame
import SqlAnalysis.Proofs.Word.Locate
import SqlAnalysis.Sql.Frontend

/-!
# Every reported span is real

A problem is reported with the part of the query that is to blame.  That part really is in the
query, and it reads as the problem says: it is the reported word or name, or a spelling of the
literal that was recorded for a column.  For problems that concern a schema this holds for any
parse, however wrong its ranges are; for syntax problems it holds as soon as the parse comes
from lexemes and outlines, however wrong those are.

## Main definitions

* `Problem.Reads` — the text at the span of a problem is what the problem says.
* `Problem.IsReal` — besides, the span lies in the query, between two boundaries.
* `SafeCuts` — wherever the analysis cuts a text, there are boundaries.

## Main results

* `isReal_of_mem_violations` — every violation is real.
* `isReal_classify` — a syntax problem that fits the query is real.
* `isReal_of_analyze` — **every reported span is real.**
-/

namespace SqlAnalysis

open Text Unicode LiteralSearch

/-! ### Real problems -/

/-- All columns that the statements of a parse use. -/
def Parse.columns (p : Parse) : List ColumnUse :=
  p.tables.flatMap (·.columns)

/-- The query reads at the span of a problem as the problem says.  `columns` are the columns
whose literals the problem may be about. -/
def Problem.Reads (query : String) (columns : List ColumnUse) : Problem → Prop
  | .emptyQuery => True
  | .syntaxError position => position ≤ byteLength query.toList
  | .reservedKeyword keyword s =>
    slice? s query.toList = some keyword.toList ∧
      ∃ k ∈ keywords, eqIgnoreAsciiCase k.toList keyword.toList
  | .unknownToken word s =>
    slice? s query.toList = some word.toList ∧
      ¬∃ k ∈ keywords, eqIgnoreAsciiCase k.toList word.toList
  | .unknownTable table s => slice? s query.toList = some table.toList
  | .unknownColumn column _ s => slice? s query.toList = some column.toList
  | .typeMismatch _ received s =>
    ∃ c ∈ columns, ∃ value w, c.valueType = some received ∧ c.value = some value ∧
      Spells received value.toList w ∧ slice? s query.toList = some w
  | .countMismatch _ _ s =>
    ∃ w, slice? s query.toList = some w ∧ eqIgnoreAsciiCase w "VALUES".toList

/-- The span of a problem lies in the query, between two boundaries, and the query reads there
as the problem says. -/
def Problem.IsReal (query : String) (columns : List ColumnUse) (p : Problem) : Prop :=
  (∀ s, p.span? = some s →
    s.start ≤ s.stop ∧ s.stop ≤ byteLength query.toList ∧
      IsBoundary s.start query.toList ∧ IsBoundary s.stop query.toList) ∧
  p.Reads query columns

/-- A problem is real if its text is there; the bounds of its span follow. -/
theorem Problem.isReal_of_reads {query : String} {columns : List ColumnUse} {p : Problem}
    (h : p.Reads query columns) : p.IsReal query columns := by
  have hbounds : ∀ {s : Span} {w : List Char}, slice? s query.toList = some w →
      s.start ≤ s.stop ∧ s.stop ≤ byteLength query.toList ∧
        IsBoundary s.start query.toList ∧ IsBoundary s.stop query.toList := by
    intro s w hw
    have hcuts := slice?_eq_some_iff.mp hw
    exact ⟨hcuts.start_le_stop, hcuts.stop_le, hcuts.isBoundary_start, hcuts.isBoundary_stop⟩
  refine ⟨fun s hs => ?_, h⟩
  cases p with
  | emptyQuery | syntaxError position => simp [Problem.span?] at hs
  | reservedKeyword word t | unknownToken word t =>
    cases hs
    exact hbounds h.1
  | unknownTable table t | unknownColumn column table t =>
    cases hs
    exact hbounds h
  | typeMismatch expected received t =>
    cases hs
    obtain ⟨c, -, value, w, -, -, -, hw⟩ := h
    exact hbounds hw
  | countMismatch columns values t =>
    cases hs
    obtain ⟨w, hw, -⟩ := h
    exact hbounds hw

/-! ### Problems against a schema -/

/-- The source of a statement is a piece of the query. -/
theorem Source.exists_cuts_ofRange (query : String) (range : Span) :
    ∃ r : Span, r.start = (Source.ofRange query range).offset ∧
      r.Cuts (Source.ofRange query range).text.toList query.toList := by
  unfold Source.ofRange
  split
  · rename_i t hslice
    exact ⟨range, rfl, by simpa using slice?_eq_some_iff.mp hslice⟩
  · exact ⟨⟨0, byteLength query.toList⟩, rfl, [], [], by simp, rfl, by simp⟩

namespace Violations

section

variable {query : String} {range : Span} {columns : List ColumnUse}

/-- What is found in the source of a statement is in the query. -/
theorem slice?_shift {s : Span} {w : List Char}
    (h : s.Cuts w (Source.ofRange query range).text.toList) :
    slice? (s.shift (Source.ofRange query range).offset) query.toList = some w := by
  obtain ⟨r, hr, hcuts⟩ := Source.exists_cuts_ofRange query range
  rw [← hr]
  exact slice?_eq_some_iff.mpr (h.within hcuts)

theorem slice?_of_wholeWord {target : String} {s : Span}
    (h : (Source.ofRange query range).wholeWord target = some s) :
    slice? s query.toList = some target.toList := by
  obtain ⟨t, ht, rfl⟩ := Option.map_eq_some_iff.mp h
  exact slice?_shift (cuts_of_firstWholeWord ht)

/-- The query reads at the place of a violation as the violation says. -/
theorem Violates.reads {schema : Schema} {st : Statement} {p : Problem}
    (h : Violates (Source.ofRange query range) schema st p)
    (hcolumns : ∀ t ∈ st.tables, ∀ c ∈ t.columns, c ∈ columns) : p.Reads query columns := by
  cases h with
  | count _ _ hplace =>
    obtain ⟨t, ht, rfl⟩ := Option.map_eq_some_iff.mp hplace
    obtain ⟨w, hw, hsame⟩ := cuts_of_firstWholeWordIgnoreCase ht
    exact ⟨w.toList, slice?_shift hw, hsame⟩
  | table _ _ _ hplace => exact slice?_of_wholeWord hplace
  | column _ _ _ _ _ hplace => exact slice?_of_wholeWord hplace
  | value ht _ _ hc _ hreceived _ hplace =>
    obtain ⟨t, hlocated, rfl⟩ := Option.map_eq_some_iff.mp hplace
    obtain ⟨value, w, hvalue, hspells, hcuts⟩ := cuts_of_locateLiteral hlocated
    exact ⟨_, hcolumns _ ht _ hc, value, w, hreceived, hvalue, hspells, slice?_shift hcuts⟩

end

/-- **Every violation is real.** -/
theorem isReal_of_mem_violations {query : String} {schema : Schema}
    {statements : List Statement} {p : Problem} (h : p ∈ violations query schema statements) :
    p.IsReal query (Parse.parsed statements).columns := by
  obtain ⟨st, hst, -, hviolates⟩ := mem_violations_iff.mp h
  refine Problem.isReal_of_reads (hviolates.reads fun t ht c hc => ?_)
  have htable : t ∈ (Parse.parsed statements).tables := List.mem_flatMap.mpr ⟨st, hst, ht⟩
  exact List.mem_flatMap.mpr ⟨t, htable, hc⟩

end Violations

/-! ### Syntax problems -/

/-- The word to blame stands in front of its end. -/
theorem cuts_of_blamedWord? {query : String} {problem : SyntaxProblem} {word : String}
    {stop : Nat} (hfits : problem.Fits query.toList)
    (h : blamedWord? query problem = some (word, stop)) :
    (⟨stop - byteLength word.toList, stop⟩ : Span).Cuts word.toList query.toList := by
  obtain ⟨position, hposition, h⟩ := Option.bind_eq_some_iff.mp h
  split at h
  · obtain ⟨w, hw, hpair⟩ := Option.map_eq_some_iff.mp h
    cases hpair
    have hcuts := cuts_of_locate hw
    have hstart : w.stop - byteLength w.text.toList = w.start := by
      have := hcuts.stop_eq
      simp only [Word.span] at this
      omega
    rw [hstart]
    exact hcuts
  · cases h
    obtain ⟨start, hcuts⟩ := hfits _ hposition
    have hstart : stop - byteLength problem.near.toList = start := by
      have := hcuts.stop_eq
      simp only at this
      omega
    rw [hstart]
    exact hcuts

/-- A syntax problem that fits the query is real. -/
theorem isReal_classify {query : String} {problem : SyntaxProblem} {columns : List ColumnUse}
    (hfits : problem.Fits query.toList) : (classify query problem).IsReal query columns := by
  refine Problem.isReal_of_reads ?_
  have hkeyword : ∀ word : String, isKeyword word ↔
      ∃ k ∈ keywords, eqIgnoreAsciiCase k.toList word.toList := by
    intro word
    simp [isKeyword]
  unfold classify
  split
  · -- no word: the position is a boundary, or the end of the query
    show problem.position.getD (byteLength query.toList) ≤ byteLength query.toList
    cases hposition : problem.position with
    | none => exact Nat.le_refl _
    | some stop =>
      obtain ⟨start, hcuts⟩ := hfits stop hposition
      exact hcuts.stop_le
  · rename_i word stop hword
    have hslice := slice?_eq_some_iff.mpr (cuts_of_blamedWord? hfits hword)
    simp only
    split
    · rename_i hk
      exact ⟨hslice, (hkeyword word).mp hk⟩
    · rename_i hk
      exact ⟨hslice, fun hex => hk ((hkeyword word).mpr hex)⟩

/-! ### The analysis -/

/-- Wherever the analysis cuts a text at offsets that it computed, there are boundaries: around
the token to blame, and behind the word `VALUES` of the source of a statement. -/
structure SafeCuts (query : String) : Prop where
  /-- The token to blame is a slice, wherever it claims to end. -/
  token : ∀ (place : Sql.Location) (start : Nat) (x : Sql.Lexeme),
    offsetOf? place.line place.column query.toList = some start →
      ∃ w, slice? (Sql.tokenSpan query.toList start x) query.toList = some w
  /-- A text follows the word behind which the entries of a list are searched for. -/
  values : ∀ (range s : Span),
    firstWholeWordIgnoreCase (Source.ofRange query range).text "VALUES" = some s →
      ∃ r, dropBytes? s.stop (Source.ofRange query range).text.toList = some r

theorem safeCuts (query : String) : SafeCuts query where
  token := fun _ _ x hplace => Sql.exists_slice_tokenSpan (isBoundary_of_offsetOf? hplace) x
  values := fun _ _ hs => by
    obtain ⟨w, hcuts, -⟩ := cuts_of_firstWholeWordIgnoreCase hs
    exact isBoundary_iff_dropBytes?.mp hcuts.isBoundary_stop

/-- The columns of the parse of a query, if there is one. -/
def recordedColumns (parse : Option Parse) : List ColumnUse :=
  (parse.map Parse.columns).getD []

/-- A problem is real if it is a violation, or if the query is rejected by a problem that
fits. -/
theorem isReal_of_analyze_of_fits {query : String} {schema : Option Schema}
    {parse : Option Parse} {p : Problem}
    (hfits : ∀ problem, parse = some (.rejected problem) → p.isSyntax → problem.Fits query.toList)
    (h : analyze query schema parse = some p) : p.IsReal query (recordedColumns parse) := by
  unfold analyze at h
  split at h
  · cases h
    exact Problem.isReal_of_reads trivial
  · unfold analyzeParse at h
    split at h
    · simp at h
    · rename_i problem
      cases h
      refine isReal_classify (hfits problem rfl ?_)
      unfold classify
      split
      · rfl
      · simp only
        split <;> rfl
    · obtain ⟨catalog, -, hcheck⟩ := Option.bind_eq_some_iff.mp h
      rw [Violations.checkStatements_eq_head?] at hcheck
      exact Violations.isReal_of_mem_violations (List.mem_of_head? hcheck)

/-- What becomes of lexemes and outlines rejects a query only by a problem that fits it. -/
theorem fits_of_frontendOf {read : String → Sql.Reading} {limit : Nat} {query : String}
    {problem : SyntaxProblem}
    (h : (Sql.frontendOf read limit query).toOption = some (.rejected problem)) :
    problem.Fits query.toList := by
  unfold Sql.frontendOf Sql.Reading.parse at h
  split at h
  · split at h <;> cases h
    exact Sql.fits_syntaxProblem _ _ _
  · cases h

/-- **Every reported span is real.**  No text is cut outside its boundaries.  A problem that is
reported for a query is real, whatever lexemes and outlines the parse was made of; and if the
problem concerns the schema, it is real whatever the parse is. -/
theorem isReal_of_analyze (query : String) (schema : Option Schema) :
    SafeCuts query ∧
      (∀ (read : String → Sql.Reading) (limit : Nat) (p : Problem),
        analyze query schema (Sql.frontendOf read limit query).toOption = some p →
          p.IsReal query (recordedColumns (Sql.frontendOf read limit query).toOption)) ∧
      ∀ (parse : Option Parse) (p : Problem), analyze query schema parse = some p →
        p.isSyntax = false → p.IsReal query (recordedColumns parse) := by
  refine ⟨safeCuts query, fun read limit p h => ?_, fun parse p h hconcerns => ?_⟩
  · exact isReal_of_analyze_of_fits (fun problem hparse _ => fits_of_frontendOf hparse) h
  · refine isReal_of_analyze_of_fits (fun problem _ hp => ?_) h
    rw [hconcerns] at hp
    exact absurd hp (by simp)

/-- A keyword out of place is cut out where the lexer puts it; a literal behind a character of two
bytes is found although the statement claims a reversed range. -/
theorem isReal_reservedKeyword_typeMismatch :
    let read : String → Sql.Reading := fun _ =>
      ⟨.ok [⟨.word "SELECT" false, ⟨1, 10⟩, ⟨1, 16⟩⟩],
        .error (.rejected "found: SELECT at Line: 1, Column: 10")⟩
    let c : ColumnUse := ⟨"b", .expression, some "=", some "x", some .string⟩
    let statements : List Statement := [⟨.select, ⟨9, 3⟩, [⟨"a", none, [c]⟩], none⟩]
    let schema : Schema := .ofTables [⟨"a", [⟨"b", "int", .number, false⟩]⟩]
    let rejected := Sql.frontendOf read 100 "SELECT 1 SELECT"
    let misplaced : Problem := .reservedKeyword "SELECT" ⟨9, 15⟩
    let mismatch : Problem := .typeMismatch .number .string ⟨27, 30⟩
    (analyze "SELECT 1 SELECT" none rejected.toOption = some misplaced ∧
        misplaced.IsReal "SELECT 1 SELECT" []) ∧
      analyze "SELECT é FROM a WHERE b = 'x'" (some schema) (some (.parsed statements))
          = some mismatch ∧
        mismatch.IsReal "SELECT é FROM a WHERE b = 'x'" [c] := by
  intro read c statements schema rejected misplaced mismatch
  have hrejected : analyze "SELECT 1 SELECT" none rejected.toOption = some misplaced := by
    decide +kernel
  have hchecked : analyze "SELECT é FROM a WHERE b = 'x'" (some schema)
      (some (.parsed statements)) = some mismatch := by
    have hquery : isBlankQuery "SELECT é FROM a WHERE b = 'x'" = false := by decide
    simp only [analyze, hquery, analyzeParse, Option.bind_some,
      Violations.checkStatements_eq_head?]
    decide +kernel
  refine ⟨⟨hrejected, ?_⟩, hchecked, ?_⟩
  · exact (isReal_of_analyze "SELECT 1 SELECT" none).2.1 read 100 misplaced hrejected
  · exact (isReal_of_analyze _ (some schema)).2.2 _ mismatch hchecked rfl

end SqlAnalysis
