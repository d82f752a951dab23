import Mathlib
import SqlAnalysis.Proofs.Analysis.Locality
import SqlAnalysis.Proofs.Analysis.PlainEntry
import SqlAnalysis.Sql.Frontend

/-!
# The value that does not fit

If exactly one value of a plain insertion does not fit its column, the analysis reports the types
and points at the first entry of the query that is written like this value.  That is the value
itself, unless an earlier value is written in the same way or an earlier text reads like such
an entry.

## Main definitions

* `PlainInsertion.Takes` — a table takes a value for a column.

## Main results

* `exists_entry_at_place` — a value of the row is an entry, and the first one if all values in
  front of it are passed.
* `problem_eq_of_located` — the value that does not fit is the only violation.
* `problem_eq_first_entry` — **the analysis points at the first entry written like the value that
  does not fit.**
-/

namespace SqlAnalysis

open Text Unicode LiteralSearch

namespace PlainInsertion

variable (i : PlainInsertion)

/-! ### Entries of an insertion -/

/-- No entry begins in front of the bracket of the row. -/
theorem closed_opening (l : PlainLiteral) (hrow : i.row ≠ []) (t : List Char) :
    Closed l.valueType l.content i.opening ('(' :: t) := by
  rcases List.eq_nil_or_concat' i.row with hnil | ⟨ps, p, hps⟩
  · exact absurd hnil hrow
  -- only the last column is followed by a bracket, all others by a comma
  let ys := ps.map fun p => p.1.toList
  have hcolumns : i.row.map (fun p => p.1.toList) = ys ++ [p.1.toList] := by
    rw [hps, List.map_append, List.map_singleton]
  have hopening : i.opening = insertInto ++ i.table.toList ++ [' ']
      ++ ('(' :: ([] ++ (ys.flatMap (· ++ [',', ' ']) ++ p.1.toList))
        ++ ')' :: ' ' :: (valuesWord ++ [' '])) := by
    have hlast : joined [p.1.toList] = p.1.toList := List.intercalate_singleton
    rw [opening, hcolumns, joined_append_cons, hlast]
    simp only [List.append_assoc, List.cons_append, List.nil_append]
  have hnames : ∀ x ∈ ys ++ [p.1.toList], Passed l x := by
    intro x hx
    rw [← hcolumns] at hx
    obtain ⟨p', hp', rfl⟩ := List.mem_map.mp hx
    exact passed_of_isPlainName l (i.isPlainName_column p' hp')
  have hinsert : ∀ c ∈ insertInto ++ i.table.toList ++ [' '], c ≠ '(' ∧ c ≠ ',' := by
    have hwords : ∀ c ∈ insertInto, c ≠ '(' ∧ c ≠ ',' := by
      have hall : insertInto.all (fun c => c != '(' && c != ',') = true := by decide
      simpa using hall
    intro c hc
    rcases List.mem_append.mp hc with hc | hc
    · rcases List.mem_append.mp hc with hc | hc
      · exact hwords c hc
      · exact ne_opener_of_isWordChar (i.isPlainName_table.isWordChar c hc)
    · rw [List.mem_singleton.mp hc]
      decide
  rw [hopening]
  refine closed_append (closed_of_forall_ne hinsert) (closed_append ?_ ?_)
  · exact closed_items hnames '(' (by simp) (.inr rfl) _
  · exact closed_of_forall_ne (by simp [valuesWord])

/-- **A value of the row is an entry**, and the first one that is written like it if all values in
front of it are passed. -/
theorem exists_entry_at_place {k : Nat} {c : String} {l : PlainLiteral}
    (hk : i.row[k]? = some (c, l)) :
    ∃ e : Entry l.valueType l.content i.text, e.span = i.place k ∧
      ((∀ p ∈ i.row.take k, Passed l p.2.written) →
        ∀ e' : Entry l.valueType l.content i.text,
          byteLength e.front ≤ byteLength e'.front) := by
  obtain ⟨d, r, hd, htext⟩ := i.exists_text_eq hk
  have hplace : i.place k = ⟨byteLength (i.opening ++ '(' ::
      (i.row.take k).flatMap (·.2.written ++ [',', ' '])), byteLength (i.opening ++ '(' ::
      (i.row.take k).flatMap (·.2.written ++ [',', ' ']) ++ l.written)⟩ := by
    simp only [place, hk, Option.map_some, Option.getD_some, byteLength_append]
  have hrow : i.row ≠ [] := List.ne_nil_of_mem (List.mem_of_getElem? hk)
  rcases List.eq_nil_or_concat' (i.row.take k) with hnil | ⟨ps, p, hps⟩
  · -- the bracket stands in front of the first value
    rw [hnil, List.flatMap_nil, List.nil_append] at htext
    rw [hnil, List.flatMap_nil] at hplace
    refine ⟨⟨i.opening, '(', [], l.written, [], d, r, htext, .inl rfl, by simp, l.spells_written,
      by simp, hd⟩, hplace.symm, fun _ => ?_⟩
    exact (i.closed_opening l hrow _).le_front htext
  · -- a comma and a blank stand in front of every other one
    let front := '(' :: ([] ++ ((ps.map (·.2.written)).flatMap (· ++ [',', ' ']) ++ p.2.written))
    have hfront : '(' :: (i.row.take k).flatMap (·.2.written ++ [',', ' '])
        = front ++ ',' :: [' '] := by
      rw [hps]
      simp [front, List.flatMap_map]
    have htext' : i.text = i.opening ++ front ++ ',' :: ([' '] ++ (l.written ++ d :: r)) := by
      rw [htext, ← List.cons_append, hfront]
      simp
    rw [hfront] at hplace
    refine ⟨⟨i.opening ++ front, ',', [' '], l.written, [], d, r, htext', .inr rfl,
      List.forall_mem_singleton.mpr (by decide +kernel), l.spells_written, by simp, hd⟩, ?_,
      fun hpassed => ?_⟩
    · rw [hplace]
      simp [Entry.span]
    · have hvalues : ∀ x ∈ ps.map (·.2.written) ++ [p.2.written], Passed l x := by
        intro x hx
        obtain ⟨p', hp', rfl⟩ : ∃ p' ∈ i.row.take k, p'.2.written = x := by
          rw [hps]
          simpa [eq_comm] using hx
        exact hpassed p' hp'
      have hitems : Closed l.valueType l.content front
          (',' :: ([' '] ++ (l.written ++ d :: r))) :=
        closed_items hvalues '(' (by simp) (.inl rfl) _
      exact (closed_append (i.closed_opening l hrow _) hitems).le_front htext'

/-- The word `VALUES` stands in front of the row. -/
theorem exists_values_mem_words :
    ∃ w ∈ words i.query, eqIgnoreAsciiCase w.text.toList "VALUES".toList = true ∧
      w.stop ≤ byteLength i.opening := by
  let a := insertInto ++ i.table.toList ++ ' ' :: '(' ::
    (joined (i.row.map fun p => p.1.toList) ++ [')'])
  have hopening : i.opening = a ++ ' ' :: (valuesWord ++ [' ']) := by
    simp only [opening, a, List.append_assoc, List.cons_append, List.nil_append]
  obtain ⟨r, htext⟩ : ∃ r, i.query.toList = a ++ ' ' :: (valuesWord ++ ' ' :: r) := by
    refine ⟨'(' :: (joined (i.row.map fun p => p.2.written) ++ [')']), ?_⟩
    rw [query, String.toList_ofList, text, hopening]
    simp only [List.append_assoc, List.cons_append, List.nil_append]
  have hhead : Word.head? valuesWord = some (valuesWord, []) := by decide +kernel
  have hvalues : eqIgnoreAsciiCase (String.ofList valuesWord).toList "VALUES".toList = true := by
    decide
  have hblank : Word.cutsWords ' ' = true := by decide +kernel
  have hwords : words i.query = Word.scan 0 (a ++ ' ' :: (valuesWord ++ ' ' :: r)) := by
    rw [words, htext]
  -- no word goes on over a blank, so the words are those of the pieces between the two blanks
  rw [Word.scan_append_cons hblank 0 a, Word.scan_append_cons hblank _ valuesWord,
    Word.scan_of_head?_eq_some hhead] at hwords
  refine ⟨_, hwords ▸ List.mem_append_right _ (List.mem_append_left _ List.mem_cons_self),
    hvalues, ?_⟩
  rw [hopening]
  simp only [byteLength_append, byteLength_cons]
  omega

/-! ### The problem of an insertion -/

/-- A table takes a value for a column. -/
def Takes (declared : Schema.Table) (p : String × PlainLiteral) : Prop :=
  ∃ d, declared.column? p.1 = some d ∧ d.valueType.accepts p.2.valueType d.optional = true

section

variable {declared : Schema.Table} {p : String × PlainLiteral} {source : Source} {table : String}

/-- A value that is taken violates nothing. -/
theorem ofColumn_of_takes (h : Takes declared p) :
    Violations.ofColumn source table declared (use p) = [] := by
  obtain ⟨d, hd, haccepts⟩ := h
  have hfound : declared.columns.find? (·.name == (use p).name) = some d := hd
  simp only [Violations.ofColumn, hfound]
  exact if_pos haccepts

/-- A value that is refused is a violation where its literal is located. -/
theorem ofColumn_of_refused {d : Schema.Column} (hd : declared.column? p.1 = some d)
    (hrefused : d.valueType.accepts p.2.valueType d.optional = false) {s : Span}
    (hlocated : source.literal (use p) p.2.valueType = some s) :
    Violations.ofColumn source table declared (use p)
      = [.typeMismatch d.valueType p.2.valueType s] := by
  have hfound : declared.columns.find? (·.name == (use p).name) = some d := hd
  simp only [Violations.ofColumn, hfound]
  have hvalueType : (use p).valueType = some p.2.valueType := rfl
  simp only [hvalueType, hrefused, hlocated, Violations.located, Bool.false_eq_true, if_false]

end

/-- The violations of the insertion are those of the values. -/
theorem perm_ofStatement {schema : Schema} {declared : Schema.Table}
    (hdeclared : schema.table? i.table = some declared) :
    (Violations.ofStatement i.query schema i.statement).Perm
      ((i.row.map use).flatMap (Violations.ofColumn ⟨i.query, 0⟩ i.table declared)) := by
  have hsource : Source.ofRange i.query i.statement.range = ⟨i.query, 0⟩ :=
    Source.ofRange_of_cuts (cuts_self i.text)
  have harity : Violations.ofArity ⟨i.query, 0⟩ i.statement = [] := by
    unfold Violations.ofArity
    cases h : i.statement.rowArity with
    | none => rfl
    | some a => exact if_pos (i.rowArity_statement h)
  obtain ⟨cs, htables, hperm⟩ := i.exists_tables_statement
  have htable : Violations.ofTable ⟨i.query, 0⟩ schema ⟨i.table, none, cs⟩
      = cs.flatMap (Violations.ofColumn ⟨i.query, 0⟩ i.table declared) := by
    have hdual : eqIgnoreAsciiCase i.table.toList "dual".toList = false := i.isDual_table
    rw [Schema.table?_eq_find?] at hdeclared
    simp only [Violations.ofTable, hdual, hdeclared, Bool.false_eq_true, if_false]
  simp only [Violations.ofStatement, hsource, harity, htables, List.nil_append,
    List.flatMap_singleton, htable]
  exact hperm.flatMap_right _

/-- If one value does not fit its column and all others fit theirs, the problem is the one of this
value, where its literal is located. -/
theorem problem_eq_of_located {schema : Schema} {declared : Schema.Table}
    (hdeclared : schema.table? i.table = some declared) {k : Nat} {p : String × PlainLiteral}
    (hk : i.row[k]? = some p) {d : Schema.Column} (hd : declared.column? p.1 = some d)
    (hrefused : d.valueType.accepts p.2.valueType d.optional = false)
    (hothers : ∀ j q, j ≠ k → i.row[j]? = some q → Takes declared q) {s : Span}
    (hlocated : locateLiteral i.query (use p) p.2.valueType = some s) :
    i.problem schema = some (.typeMismatch d.valueType p.2.valueType s) := by
  -- neither in front of the value nor behind it anything is violated
  have hfront : (i.row.take k).flatMap
      (fun q => Violations.ofColumn ⟨i.query, 0⟩ i.table declared (use q)) = [] := by
    refine List.flatMap_eq_nil_iff.mpr fun q hq => ofColumn_of_takes ?_
    obtain ⟨j, hj⟩ := List.getElem?_of_mem hq
    rw [List.getElem?_take] at hj
    split at hj
    · exact hothers j q (by omega) hj
    · cases hj
  have hback : (i.row.drop (k + 1)).flatMap
      (fun q => Violations.ofColumn ⟨i.query, 0⟩ i.table declared (use q)) = [] := by
    refine List.flatMap_eq_nil_iff.mpr fun q hq => ofColumn_of_takes ?_
    obtain ⟨j, hj⟩ := List.getElem?_of_mem hq
    rw [List.getElem?_drop] at hj
    exact hothers (k + 1 + j) q (by omega) hj
  have hliteral : (⟨i.query, 0⟩ : Source).literal (use p) p.2.valueType = some s := by
    rw [Source.literal, hlocated]
    rfl
  have hviolations : Violations.ofStatement i.query schema i.statement
      = [.typeMismatch d.valueType p.2.valueType s] := by
    have hperm := i.perm_ofStatement hdeclared
    rw [List.flatMap_map, i.row_eq hk, List.flatMap_append, List.flatMap_cons, hfront, hback,
      ofColumn_of_refused hd hrefused hliteral] at hperm
    exact List.perm_singleton.mp hperm
  have hquery : isBlankQuery i.query = false := by
    refine List.all_eq_false.mpr ⟨'I', ?_, by decide +kernel⟩
    rw [query, String.toList_ofList]
    exact List.mem_append_left _ (List.mem_append_left _ (List.mem_append_left _ (by decide)))
  have hkind : i.statement.kind ≠ .ddl := (by decide : Statement.Kind.insert ≠ .ddl)
  show problemOf i.query schema i.statement = _
  rw [problemOf_eq_checkStatement hquery, Violations.checkStatement_eq_head? _ _ hkind,
    hviolations]
  rfl

/-- **The analysis points at the first entry written like the value that does not fit.**  If
exactly one value of a plain insertion does not fit its column, the analysis reports the types, at
the first entry of the query that is written like this value.  It stands at the place of the value
or in front of it; and it is the value itself if no value in front of it is written in the same way
or holds an opening bracket or a comma. -/
theorem problem_eq_first_entry {schema : Schema} {declared : Schema.Table}
    (hdeclared : schema.table? i.table = some declared) {k : Nat} {c : String} {l : PlainLiteral}
    (hk : i.row[k]? = some (c, l)) {d : Schema.Column} (hd : declared.column? c = some d)
    (hrefused : d.valueType.accepts l.valueType d.optional = false)
    (hothers : ∀ j q, j ≠ k → i.row[j]? = some q → Takes declared q) :
    (i.place k).Cuts l.written i.text ∧ ∃ e : Entry l.valueType l.content i.text,
      i.problem schema = some (.typeMismatch d.valueType l.valueType e.span) ∧
        (∀ e' : Entry l.valueType l.content i.text, e.span.start ≤ e'.span.start) ∧
        e.span.start ≤ (i.place k).start ∧
        ((∀ q ∈ i.row.take k,
          q.2.written ≠ l.written ∧ ∀ x ∈ q.2.written, x ≠ '(' ∧ x ≠ ',') →
            e.span = i.place k) := by
  obtain ⟨e₀, hplace, hfirst₀⟩ := i.exists_entry_at_place hk
  obtain ⟨w, hw, hvalues, hstop⟩ := i.exists_values_mem_words
  have hrow : i.row ≠ [] := List.ne_nil_of_mem (List.mem_of_getElem? hk)
  have hbehind : ∀ e : Entry l.valueType l.content i.text, w.stop ≤ byteLength e.front :=
    fun e => Nat.le_trans hstop ((i.closed_opening l hrow _).le_front rfl e)
  have hcontext : (use (c, l)).context = .list := rfl
  obtain ⟨e, hlocated, hfirst⟩ := locateLiteral_of_entries hcontext rfl hw hvalues hbehind e₀
  refine ⟨i.cuts_place hk, e, i.problem_eq_of_located hdeclared hk hd hrefused hothers hlocated,
    fun e' => Entry.start_le (hfirst e'), hplace ▸ Entry.start_le (hfirst e₀), fun hclear => ?_⟩
  have hpassed : ∀ q ∈ i.row.take k, Passed l q.2.written := fun q hq =>
    ⟨q.2.isToken_written, (hclear q hq).1, (hclear q hq).2⟩
  -- both are first, so they begin at the same place
  have hle := hfirst e₀
  have hge := hfirst₀ hpassed e
  have hfront : e.front = e₀.front :=
    (append_inj_of_byteLength (e.text_eq.symm.trans e₀.text_eq) (by omega)).1
  rw [Entry.span_eq_of_front_eq hfront, hplace]

/-- The insertion of two values into the columns `a` and `b` of the table `t`. -/
def ofPair (x y : PlainLiteral) : PlainInsertion where
  table := "t"
  row := [("a", x), ("b", y)]
  isPlainName_table := isPlainName_of_all (by decide +kernel) (by decide)
  isDual_table := by decide
  isPlainName_column := by
    have ha : IsPlainName "a" := isPlainName_of_all (by decide +kernel) (by decide)
    have hb : IsPlainName "b" := isPlainName_of_all (by decide +kernel) (by decide)
    intro p hp
    rcases List.mem_cons.mp hp with rfl | hp
    · exact ha
    · obtain rfl := List.mem_singleton.mp hp
      exact hb
  nodup_columns := (by decide : ["a", "b"].Nodup)

/-- If only the second of two values does not fit, the first one is taken. -/
theorem takes_ofPair {declared : Schema.Table} {x y : PlainLiteral} (h : Takes declared ("a", x)) :
    ∀ j q, j ≠ 1 → (ofPair x y).row[j]? = some q → Takes declared q := by
  intro j q hj hq
  match j with
  | 0 =>
    cases hq
    exact h
  | 1 => exact absurd rfl hj
  | j + 2 => cases hq

/-- The second of two different numbers is found where it stands. -/
theorem problem_eq_first_entry_second_value :
    let one : PlainLiteral := .number ['1'] (by decide) (by decide)
    let two : PlainLiteral := .number ['2'] (by decide) (by decide)
    let declared : Schema.Table :=
      ⟨"t", [⟨"a", "int", .number, false⟩, ⟨"b", "text", .string, false⟩]⟩
    let schema : Schema := .ofTables [declared]
    (ofPair one two).query = "INSERT INTO t (a, b) VALUES (1, 2)" ∧
      schema.table? "t" = some declared ∧
      (∀ j q, j ≠ 1 → (ofPair one two).row[j]? = some q → Takes declared q) ∧
      (ofPair one two).problem schema = some (.typeMismatch .string .number ⟨32, 33⟩) := by
  intro one two declared schema
  have hdeclared : schema.table? "t" = some declared := by
    rw [Schema.table?_eq_find?]
    rfl
  have hothers : ∀ j q, j ≠ 1 → (ofPair one two).row[j]? = some q → Takes declared q :=
    takes_ofPair ⟨⟨"a", "int", .number, false⟩, rfl, rfl⟩
  refine ⟨by decide +kernel, hdeclared, hothers, ?_⟩
  have hcolumn : declared.column? "b" = some ⟨"b", "text", .string, false⟩ := rfl
  obtain ⟨-, e, hproblem, -, -, hplace⟩ :=
    (ofPair one two).problem_eq_first_entry hdeclared (k := 1) rfl hcolumn rfl hothers
  have hclear : ∀ q ∈ (ofPair one two).row.take 1,
      q.2.written ≠ two.written ∧ ∀ x ∈ q.2.written, x ≠ '(' ∧ x ≠ ',' := by
    intro q hq
    obtain rfl := List.mem_singleton.mp hq
    exact ⟨by decide, List.forall_mem_singleton.mpr (by decide)⟩
  have hspan : (ofPair one two).place 1 = ⟨32, 33⟩ := by decide +kernel
  rw [hproblem, hplace hclear, hspan]
  rfl

/-- Of two equal numbers the first one is reported although the second one does not fit, and the
parser of this library does read the insertion like this. -/
theorem problem_ne_place_repeated :
    let one : PlainLiteral := .number ['1'] (by decide) (by decide)
    let declared : Schema.Table :=
      ⟨"t", [⟨"a", "int", .number, false⟩, ⟨"b", "text", .string, false⟩]⟩
    let schema : Schema := .ofTables [declared]
    (ofPair one one).query = "INSERT INTO t (a, b) VALUES (1, 1)" ∧
      (Sql.readQuery (ofPair one one).query).outlines = .ok [(ofPair one one).outline] ∧
      schema.table? "t" = some declared ∧
      (∀ j q, j ≠ 1 → (ofPair one one).row[j]? = some q → Takes declared q) ∧
      ¬Takes declared ("b", one) ∧
      (ofPair one one).problem schema = some (.typeMismatch .string .number ⟨29, 30⟩) ∧
      (ofPair one one).place 1 = ⟨32, 33⟩ := by
  intro one declared schema
  have hquery : (ofPair one one).query = "INSERT INTO t (a, b) VALUES (1, 1)" := by
    decide +kernel
  have houtline : (Sql.readQuery (ofPair one one).query).outlines
      = .ok [(ofPair one one).outline] := by
    rw [hquery]
    cbv
  have hdeclared : schema.table? "t" = some declared := by
    rw [Schema.table?_eq_find?]
    rfl
  have hothers : ∀ j q, j ≠ 1 → (ofPair one one).row[j]? = some q → Takes declared q :=
    takes_ofPair ⟨⟨"a", "int", .number, false⟩, rfl, rfl⟩
  have hrefused : ¬Takes declared ("b", one) := by
    rintro ⟨d, hd, haccepts⟩
    cases hd
    cases haccepts
  have hlocated : locateLiteral (ofPair one one).query (use ("b", one)) .number
      = some ⟨29, 30⟩ := by
    decide +kernel
  have hcolumn : declared.column? "b" = some ⟨"b", "text", .string, false⟩ := rfl
  refine ⟨hquery, houtline, hdeclared, hothers, hrefused, ?_, by decide +kernel⟩
  exact (ofPair one one).problem_eq_of_located hdeclared (k := 1) rfl hcolumn rfl hothers hlocated

end PlainInsertion

end SqlAnalysis
