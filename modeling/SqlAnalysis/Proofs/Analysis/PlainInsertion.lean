import SqlAnalysis.Analysis.Analyze
import SqlAnalysis.Proofs.Analysis.LiteralPattern
import SqlAnalysis.Proofs.Sql.Columns
import SqlAnalysis.Proofs.Sql.WrittenName
import SqlAnalysis.Proofs.Word.Maximal

/-!
# Plain insertions

An insertion of one row with plain names and plain literals, such as
`INSERT INTO t (a, b) VALUES (1, 'x')`: its text, the outline that a parser makes of it, and the
statement that is collected from this outline.

## Main definitions

* `IsPlainName`, `PlainLiteral` — what is written without quotes of its own, and literals without
  anything to unquote.
* `PlainInsertion` — an insertion of one row.
* `PlainInsertion.text`, `statement` — how it is written, and how the analysis sees it.
* `PlainInsertion.place` — where a value stands in the text.

## Main results

* `exists_tables_statement` — the statement uses one table, each column with its own literal.
-/

namespace SqlAnalysis

open Text Unicode

/-! ### Names and literals -/

/-- A name that needs no quotes: word characters, and not digits alone. -/
structure IsPlainName (name : String) : Prop where
  isWordChar : ∀ c ∈ name.toList, isWordChar c = true
  not_digits : ∃ c ∈ name.toList, isAsciiDigit c = false

theorem isPlainName_of_all {name : String} (hword : name.toList.all isWordChar = true)
    (hdigits : name.toList.all isAsciiDigit = false) : IsPlainName name := by
  refine ⟨List.all_eq_true.mp hword, ?_⟩
  obtain ⟨c, hc, hnot⟩ := List.all_eq_false.mp hdigits
  exact ⟨c, hc, Bool.eq_false_iff.mpr hnot⟩

/-- A literal that is written as it is. -/
inductive PlainLiteral
  /-- An unsigned integer. -/
  | number (digits : List Char) (ne_nil : digits ≠ [])
      (all_isAsciiDigit : digits.all isAsciiDigit = true)
  /-- A text between single quotes that holds neither quotes nor backslashes. -/
  | text (content : List Char) (plain : ∀ c ∈ content, ¬LiteralSearch.IsQuote c ∧ c ≠ '\\')

namespace PlainLiteral

/-- The literal without quotes. -/
def content : PlainLiteral → List Char
  | number digits _ _ => digits
  | text content _ => content

/-- The literal as it is written in a query. -/
def written : PlainLiteral → List Char
  | number digits _ _ => digits
  | text content _ => '\'' :: (content ++ ['\''])

/-- The literal as an expression. -/
def expr : PlainLiteral → Sql.Expr
  | number digits _ _ => .value (.number (String.ofList digits))
  | text content _ => .value (.text (String.ofList content))

/-- The type of the literal; a timestamp is a date. -/
def valueType : PlainLiteral → ValueType
  | number _ _ _ => .number
  | text content _ => Sql.textType (String.ofList content)

/-- The literal behind its expression. -/
theorem literal?_expr (l : PlainLiteral) :
    l.expr.literal? = some ⟨String.ofList l.content, l.valueType⟩ := by
  cases l <;> rfl

theorem visits_expr (l : PlainLiteral) : l.expr.visits = [.expr l.expr] := by
  cases l <;> rfl

theorem reference?_expr (l : PlainLiteral) : l.expr.reference? = none := by
  cases l <;> rfl

end PlainLiteral

/-! ### Insertions -/

/-- An insertion of one row into a table, with plain names and plain literals. -/
structure PlainInsertion where
  /-- The name of the table. -/
  table : String
  /-- The listed columns with the values for them. -/
  row : List (String × PlainLiteral)
  isPlainName_table : IsPlainName table
  isDual_table : isDual table = false
  isPlainName_column : ∀ p ∈ row, IsPlainName p.1
  nodup_columns : (row.map (·.1)).Nodup

namespace PlainInsertion

/-- The items of a list as they are written between its brackets. -/
def joined (items : List (List Char)) : List Char :=
  [',', ' '].intercalate items

/-- Every item in front of one is followed by a comma and a blank. -/
theorem joined_append_cons (as : List (List Char)) (x : List Char) (bs : List (List Char)) :
    joined (as ++ x :: bs) = as.flatMap (· ++ [',', ' ']) ++ joined (x :: bs) := by
  induction as with
  | nil => rfl
  | cons a as ih =>
    obtain ⟨y, ys, hne⟩ := List.exists_cons_of_ne_nil (List.append_ne_nil_of_right_ne_nil as
      (List.cons_ne_nil x bs))
    rw [List.cons_append, joined, hne, List.intercalate_cons_cons, ← hne, List.flatMap_cons,
      List.append_assoc _ _ (joined (x :: bs)), ← ih]
    rfl

/-- An item is followed by a comma or by the bracket behind the list. -/
theorem exists_joined_cons (x : List Char) (bs : List (List Char)) (t : List Char) :
    ∃ d r, (d = ',' ∨ d = ')') ∧ joined (x :: bs) ++ ')' :: t = x ++ d :: r := by
  cases bs with
  | nil => exact ⟨')', t, .inr rfl, by rw [joined, List.intercalate_singleton]⟩
  | cons b bs =>
    refine ⟨',', ' ' :: (joined (b :: bs) ++ ')' :: t), .inl rfl, ?_⟩
    rw [joined, List.intercalate_cons_cons]
    simp [joined]

variable (i : PlainInsertion)

/-- What stands in front of the table. -/
def insertInto : List Char :=
  "INSERT INTO ".toList

/-- The word in front of the row. -/
def valuesWord : List Char :=
  "VALUES".toList

/-- The text up to the bracket in front of the row. -/
def opening : List Char :=
  insertInto ++ i.table.toList ++ ' ' :: '(' ::
    (joined (i.row.map fun p => p.1.toList) ++ ')' :: ' ' :: (valuesWord ++ [' ']))

/-- The text of the insertion. -/
def text : List Char :=
  i.opening ++ '(' :: (joined (i.row.map fun p => p.2.written) ++ [')'])

/-- The insertion as a query. -/
def query : String :=
  String.ofList i.text

/-- The span of the value at the position `k`. -/
def place (k : Nat) : Span :=
  let start := byteLength (i.opening ++ '(' :: (i.row.take k).flatMap (·.2.written ++ [',', ' ']))
  ⟨start, start + byteLength ((i.row[k]?.map (·.2.written)).getD [])⟩

/-- What a parser makes of the insertion. -/
def outline : Sql.Outline :=
  ⟨.insert,
    .insertion [⟨i.table, none⟩] (i.row.map (·.1)) (some (i.row.map (·.2.expr))) ::
      .relation [⟨i.table, none⟩] :: .query [] :: i.row.map fun p => .expr p.2.expr⟩

/-- The statement that is collected from the insertion. -/
def statement : Statement :=
  i.outline.statement ⟨0, byteLength i.text⟩

/-- The problem of the insertion. -/
def problem (schema : Schema) : Option Problem :=
  analyze i.query (some schema) (some (.parsed [i.statement]))

/-- A value of the row as the literal of its column. -/
def use (p : String × PlainLiteral) : ColumnUse :=
  ⟨p.1, .list, none, some (String.ofList p.2.content), some p.2.valueType⟩

theorem row_eq {k : Nat} {p : String × PlainLiteral} (hk : i.row[k]? = some p) :
    i.row = i.row.take k ++ p :: i.row.drop (k + 1) := by
  obtain ⟨hlt, hget⟩ := List.getElem?_eq_some_iff.mp hk
  rw [← hget, List.getElem_cons_drop, List.take_append_drop]

/-- What stands around a value of the row. -/
theorem exists_text_eq {k : Nat} {p : String × PlainLiteral} (hk : i.row[k]? = some p) :
    ∃ d r, (d = ',' ∨ d = ')') ∧
      i.text = i.opening ++ '(' :: ((i.row.take k).flatMap (·.2.written ++ [',', ' '])
        ++ (p.2.written ++ d :: r)) := by
  obtain ⟨d, r, hd, hjoined⟩ :=
    exists_joined_cons p.2.written ((i.row.drop (k + 1)).map (·.2.written)) []
  refine ⟨d, r, hd, ?_⟩
  have hvalues : i.row.map (·.2.written)
      = (i.row.take k).map (·.2.written) ++ p.2.written ::
          (i.row.drop (k + 1)).map (·.2.written) := by
    conv => lhs; rw [i.row_eq hk]
    simp
  rw [text, hvalues, joined_append_cons, List.append_assoc, hjoined, List.flatMap_map]

/-- **The place of a value cuts it out of the text.** -/
theorem cuts_place {k : Nat} {p : String × PlainLiteral} (hk : i.row[k]? = some p) :
    (i.place k).Cuts p.2.written i.text := by
  obtain ⟨d, r, -, htext⟩ := i.exists_text_eq hk
  refine ⟨i.opening ++ '(' :: (i.row.take k).flatMap (·.2.written ++ [',', ' ']), d :: r, ?_, rfl,
    ?_⟩
  · simp [htext]
  · simp only [place, hk, Option.map_some, Option.getD_some, byteLength_append]

/-! ### What is collected -/

open Sql Sql.Collection

/-- Nothing is taken off the ends of a plain name. -/
theorem baseName?_of_isPlainName {name : String} (h : IsPlainName name) :
    baseName? [⟨name, none⟩] = some name := by
  have hquotes : ∀ c ∈ name.toList, isNameQuote c = false := by
    intro c hc
    have hbackquote : isWordChar '`' = false := Word.isWordChar_eq_false_of_isSeparator rfl
    have hquote : isWordChar '"' = false := Word.isWordChar_eq_false_of_isSeparator rfl
    have hword := h.isWordChar c hc
    rw [isNameQuote, Bool.or_eq_false_iff, decide_eq_false_iff_not, decide_eq_false_iff_not]
    constructor
    · rintro rfl
      rw [hbackquote] at hword
      cases hword
    · rintro rfl
      rw [hquote] at hword
      cases hword
  have hne : name ≠ "" := by
    rintro rfl
    obtain ⟨c, hc, -⟩ := h.not_digits
    simp at hc
  have hkept : Ident.KeepsName ⟨name, none⟩ :=
    ⟨⟨fun c hc => hquotes c (List.mem_of_mem_head? hc),
      fun c hc => hquotes c (List.mem_of_mem_getLast? hc)⟩, fun hquoted => by cases hquoted⟩
  exact (baseName?_eq_text_iff rfl hne (.inl rfl)).mpr hkept

theorem visitsAll_outline : visitsAll i.outline.parts = i.outline.parts := by
  have hvalues : ∀ row : List (String × PlainLiteral),
      visitsAll (row.map fun p => Part.expr p.2.expr) = row.map fun p => .expr p.2.expr := by
    intro row
    induction row with
    | nil => rfl
    | cons p row ih =>
      rw [List.map_cons, visitsAll, ih, Part.visits, p.2.visits_expr, List.singleton_append]
  simp [outline, visitsAll, Part.visits, hvalues]

/-- The insertion as it is read off its outline. -/
theorem insertion?_outline :
    insertion? i.outline.parts = some ⟨i.table, i.row.map (·.1),
      some (i.row.map fun p => some ⟨String.ofList p.2.content, p.2.valueType⟩)⟩ := by
  simp [insertion?, outline, Part.insertion?, baseName?_of_isPlainName i.isPlainName_table,
    PlainLiteral.literal?_expr]

theorem references_outline : references i.outline.parts = [] := by
  simp [references, outline, PlainLiteral.reference?_expr]

/-- The target of the insertion is its only table. -/
theorem tables_outline : tables i.outline.parts = [⟨i.table, none, []⟩] := by
  have hnames : queryNames i.outline.parts = [] := by
    refine List.flatMap_eq_nil_iff.mpr fun part hpart => ?_
    simp only [outline, List.mem_cons, List.mem_map] at hpart
    rcases hpart with rfl | rfl | rfl | ⟨p, -, rfl⟩ <;> rfl
  have hfactors : factors i.outline.parts = [] := by
    simp [factors, outline]
  have hvalues : ∀ row : List (String × PlainLiteral),
      relationsFrom true (row.map fun p => Part.expr p.2.expr) = [] := by
    intro row
    induction row with
    | nil => rfl
    | cons p row ih => exact ih
  have hrelations : relations i.outline.parts = [i.table, i.table] := by
    simp [relations, outline, relationsFrom, Part.insertion?, hvalues,
      baseName?_of_isPlainName i.isPlainName_table]
  rw [Collection.tables, hnames, hfactors, hrelations]
  simp [addRelation, mentions]

/-- The insertion that the target is the target of. -/
theorem insertionAt?_outline :
    insertionAt? i.outline.parts 0 = some ⟨i.table, i.row.map (·.1),
      some (i.row.map fun p => some ⟨String.ofList p.2.content, p.2.valueType⟩)⟩ := by
  simp [insertionAt?, insertion?_outline, tables_outline]

/-- The columns of the target are the listed ones. -/
theorem columnNames_outline : columnNames i.outline.parts 0 = i.row.map (·.1) := by
  -- distinct names stay as they are when duplicates are dropped
  have hnodup : ∀ names : List String, names.Nodup → names.eraseDups = names := by
    intro names h
    induction names with
    | nil => rfl
    | cons n ns ih =>
      obtain ⟨hn, hns⟩ := List.nodup_cons.mp h
      have hothers : (ns.filter fun m => !m == n) = ns :=
        List.filter_eq_self.mpr fun m hm => by
          have hne : m ≠ n := by
            rintro rfl
            exact hn hm
          simpa using hne
      rw [List.eraseDups_cons, hothers, ih hns]
  rw [columnNames, ownedReferences, references_outline, insertionAt?_outline]
  exact hnodup _ i.nodup_columns

/-- What the target knows about a listed column is the value for it. -/
theorem attached_outline {p : String × PlainLiteral} (hp : p ∈ i.row) :
    attached i.outline.parts 0 p.1 = use p := by
  obtain ⟨k, hk⟩ := List.getElem?_of_mem hp
  have hcolumn : (i.row.map (·.1))[k]? = some p.1 := by rw [List.getElem?_map, hk]; rfl
  have hlisting : ((insertionAt? i.outline.parts 0).bind (·.listing? p.1))
      = some (some ⟨String.ofList p.2.content, p.2.valueType⟩) := by
    rw [insertionAt?_outline, Option.bind_some, Insertion.listing?_eq_some_iff]
    refine ⟨k, hcolumn, fun k' hlt hk' => ?_, ?_⟩
    · have hlength := (List.getElem?_eq_some_iff.mp hcolumn).1
      have hsame := (List.getElem?_inj hlength i.nodup_columns).mp (hcolumn.trans hk'.symm)
      omega
    · simp [Insertion.row, Option.filter_some, hk]
  rw [attached, hlisting]
  rfl

/-- **The statement uses one table, each column with its own literal.** -/
theorem exists_tables_statement :
    ∃ cs, i.statement.tables = [⟨i.table, none, cs⟩] ∧ cs.Perm (i.row.map use) := by
  refine ⟨((columnNames i.outline.parts 0).mergeSort nameLE).map (attached i.outline.parts 0),
    ?_, ?_⟩
  · show ((filledTables (visitsAll i.outline.parts)).mergeSort
      fun a b => nameLE a.name b.name).map sortColumns = _
    rw [visitsAll_outline, filledTables_eq_mapIdx, tables_outline, List.mapIdx_cons,
      List.mapIdx_nil, List.mergeSort_singleton, List.map_singleton, sortColumns,
      mergeSort_map_attached]
  · rw [columnNames_outline]
    refine ((List.mergeSort_perm _ _).map _).trans (.of_eq ?_)
    rw [List.map_map]
    exact List.map_congr_left fun p hp => attached_outline i hp

/-- The row is as long as the list of columns. -/
theorem rowArity_statement {a : RowArity} (h : i.statement.rowArity = some a) :
    a.columns = a.values := by
  have harity : (insertion? (visitsAll i.outline.parts)).bind rowArity? = some a := h
  rw [visitsAll_outline, insertion?_outline, Option.bind_some, rowArity?] at harity
  split at harity
  · split at harity
    · cases harity
    · rename_i hvalues _
      cases hvalues
      cases harity
      simp
  · cases harity

end PlainInsertion

end SqlAnalysis
