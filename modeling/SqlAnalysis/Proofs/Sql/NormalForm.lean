import SqlAnalysis.Proofs.Sql.Target

/-!
# The normal form of statements

The passes that attach columns to tables look each column up before they add one, and each of them
writes only what belongs together.  So the tables of a statement come in the order of their names,
and no table has two columns of one name, however often the column is referred to, compared or
listed.  A column with an operator is compared with a value, and a value always has a type.  The
shape of an insertion is kept for the first insertion into a named table, if it lists columns and
its rows are written down.

## Main definitions

* `ColumnUse.Consistent` — the fields of a column fit together.
* `TableUse.Normal` — each column occurs once, in the order of names, and is consistent.
* `FirstInsertion` — an insertion is the first one into a named table.

## Main results

* `normal_of_mem_tables` — the tables of a statement are in normal form.
* `rowArity_collect_eq_some_iff` — what the shape of an insertion is taken from.
* `collect_isNormal` — **statements are in normal form.**
-/

namespace SqlAnalysis

/-- The fields of a column fit together. -/
structure ColumnUse.Consistent (c : ColumnUse) : Prop where
  /-- An operator stands in an expression, with a value behind it. -/
  compares : c.operator.isSome → c.context = .expression ∧ c.value.isSome
  /-- A value has a type, and there is no type without a value. -/
  typed : c.value.isSome ↔ c.valueType.isSome

/-- The columns of a table are in normal form. -/
structure TableUse.Normal (t : TableUse) : Prop where
  /-- The names increase strictly, so none occurs twice. -/
  increasing : t.columns.Pairwise fun a b => a.name < b.name
  /-- The fields of each column fit together. -/
  consistent : ∀ c ∈ t.columns, c.Consistent

/-- In normal form, a column is found by its name. -/
theorem TableUse.Normal.column?_name {t : TableUse} (h : t.Normal) {c : ColumnUse}
    (hc : c ∈ t.columns) : t.column? c.name = some c := by
  obtain ⟨front, back, hsplit⟩ := List.append_of_mem hc
  have hincreasing := h.increasing
  rw [hsplit, List.pairwise_append] at hincreasing
  -- no column in front has the name
  have hfront : ∀ b ∈ front, (b.name == c.name) = false := fun b hb =>
    beq_eq_false_iff_ne.mpr (String.ne_of_lt (hincreasing.2.2 b hb c List.mem_cons_self))
  rw [TableUse.column?, hsplit, List.find?_append,
    List.find?_eq_none.mpr fun b hb => by simp [hfront b hb]]
  simp

namespace Sql.Collection

variable {visits : List Part}

/-! ### Columns and tables -/

/-- What a table knows about a column fits together. -/
theorem consistent_attached (visits : List Part) (k : Nat) (name : String) :
    (attached visits k name).Consistent := by
  unfold attached
  split
  · exact ⟨by simp, by simp⟩
  · exact ⟨by simp, by simp⟩
  · exact ⟨by simp, by simp⟩
  · exact ⟨by simp, by simp⟩

/-- Names without repetitions increase strictly once they are sorted. -/
theorem pairwise_lt_mergeSort {names : List String} (hnames : names.Nodup) :
    (names.mergeSort nameLE).Pairwise (· < ·) := by
  have hdistinct : (names.mergeSort nameLE).Pairwise (· ≠ ·) :=
    (List.mergeSort_perm names nameLE).nodup_iff.mpr hnames
  exact ((pairwise_mergeSort id names).and hdistinct).imp fun h =>
    String.not_le.mp fun hle => h.2 (String.le_antisymm h.1 hle)

/-- A table has one column for each of its names, in the order of the names. -/
theorem map_name_sorted (visits : List Part) (k : Nat) :
    (((columnNames visits k).mergeSort nameLE).map (attached visits k)).map (·.name)
      = (columnNames visits k).mergeSort nameLE := by
  rw [List.map_map]
  exact (List.map_congr_left fun n _ => name_attached visits k n).trans (List.map_id _)

/-- The tables of a statement are in normal form. -/
theorem normal_of_mem_tables {kind : Statement.Kind} {range : Text.Span} {t : TableUse}
    (ht : t ∈ (collect kind range visits).tables) : t.Normal := by
  rw [mem_tables_collect, map_sortColumns_filledTables] at ht
  obtain ⟨k, -, rfl⟩ := List.mem_mapIdx.mp ht
  refine ⟨?_, fun c hc => ?_⟩
  · have hnames : (columnNames visits k).Nodup := nodup_eraseDups _
    have hsorted := pairwise_lt_mergeSort hnames
    rw [← map_name_sorted, List.pairwise_map] at hsorted
    exact hsorted
  · obtain ⟨name, -, rfl⟩ := List.mem_map.mp hc
    exact consistent_attached visits k name

/-- The tables of a statement are in the order of their names. -/
theorem pairwise_name_tables (kind : Statement.Kind) (range : Text.Span) (visits : List Part) :
    (collect kind range visits).tables.Pairwise fun a b => a.name ≤ b.name := by
  have hsorted := pairwise_mergeSort Prod.fst ((tables visits).map label)
  rw [← map_label_collect kind range, List.pairwise_map] at hsorted
  exact hsorted

/-! ### The shape of an insertion -/

/-- Of the visited insertions with a target that has a name, this is the first. -/
def FirstInsertion (visits : List Part) (target : List Ident) (columns : List String)
    (firstRow : Option (List Expr)) : Prop :=
  (baseName? target).isSome ∧ ∃ before after,
    visits = before ++ Part.insertion target columns firstRow :: after ∧
      ∀ t cs row, Part.insertion t cs row ∈ before → baseName? t = none

/-- The insertion that counts is the first one into a named table. -/
theorem insertion?_eq_some_iff {i : Insertion} :
    insertion? visits = some i ↔ ∃ target firstRow,
      FirstInsertion visits target i.columns firstRow ∧ baseName? target = some i.table ∧
        i.values = firstRow.map (·.map Expr.literal?) := by
  rw [insertion?, List.findSome?_eq_some_iff]
  constructor
  · rintro ⟨before, p, after, hsplit, hp, hbefore⟩
    cases p with
    | insertion target columns firstRow =>
      obtain ⟨table, htable, rfl⟩ := Option.map_eq_some_iff.mp hp
      refine ⟨target, firstRow, ⟨by simp [htable], before, after, hsplit, ?_⟩, htable, rfl⟩
      intro t cs row hmem
      exact Option.map_eq_none_iff.mp (hbefore _ hmem)
    | _ => cases hp
  · rintro ⟨target, firstRow, ⟨-, before, after, hsplit, hbefore⟩, htable, hvalues⟩
    refine ⟨before, _, after, hsplit, ?_, fun p hp => ?_⟩
    · simp only [Part.insertion?, htable, ← hvalues, Option.map_some]
    · cases p with
      | insertion t cs row => exact Option.map_eq_none_iff.mpr (hbefore t cs row hp)
      | _ => rfl

/-- The shape of an insertion says how long the column list and the first row are, if there are
both. -/
theorem rowArity?_eq_some_iff {i : Insertion} {a : RowArity} :
    rowArity? i = some a ↔
      i.columns ≠ [] ∧ ∃ row, i.values = some row ∧ a = ⟨i.columns.length, row.length⟩ := by
  unfold rowArity?
  cases i.values with
  | none => simp
  | some row =>
    by_cases h : i.columns = []
    · simp [h]
    · simp [h, @eq_comm _ a]

/-- The shape of an insertion is taken from the first insertion into a named table. -/
theorem rowArity_collect_eq_some_iff {kind : Statement.Kind} {range : Text.Span} {a : RowArity} :
    (collect kind range visits).rowArity = some a ↔
      ∃ target columns row, FirstInsertion visits target columns (some row) ∧
        columns ≠ [] ∧ a = ⟨columns.length, row.length⟩ := by
  have hshape : (collect kind range visits).rowArity = (insertion? visits).bind rowArity? := rfl
  rw [hshape, Option.bind_eq_some_iff]
  constructor
  · rintro ⟨i, hi, ha⟩
    obtain ⟨target, firstRow, hfirst, -, hvalues⟩ := insertion?_eq_some_iff.mp hi
    obtain ⟨hcolumns, literals, hliterals, rfl⟩ := rowArity?_eq_some_iff.mp ha
    obtain ⟨row, rfl, rfl⟩ := Option.map_eq_some_iff.mp (hvalues.symm.trans hliterals)
    exact ⟨target, i.columns, row, hfirst, hcolumns, by rw [List.length_map]⟩
  · rintro ⟨target, columns, row, hfirst, hcolumns, rfl⟩
    obtain ⟨table, htable⟩ := Option.isSome_iff_exists.mp hfirst.1
    refine ⟨⟨table, columns, some (row.map Expr.literal?)⟩, ?_, ?_⟩
    · exact insertion?_eq_some_iff.mpr ⟨target, some row, hfirst, htable, rfl⟩
    · exact rowArity?_eq_some_iff.mpr ⟨hcolumns, _, rfl, by rw [List.length_map]⟩

/-! ### The statement -/

/-- **Statements are in normal form.**  Tables are in the order of their names.  The names of the
columns of a table increase strictly, so a column occurs once, and is found by its name; it has a
value if it has an operator, which stands in an expression, and a type exactly if it has a value.
There is a shape of an insertion exactly if the first insertion into a named table lists columns
and has a first row, and then it says how many of each there are. -/
theorem collect_isNormal (kind : Statement.Kind) (range : Text.Span) (visits : List Part) :
    let statement := collect kind range visits
    (statement.tables.Pairwise fun a b => a.name ≤ b.name) ∧
    (∀ t ∈ statement.tables, t.Normal ∧ ∀ c ∈ t.columns, t.column? c.name = some c) ∧
    ∀ a, statement.rowArity = some a ↔
      ∃ target columns row, FirstInsertion visits target columns (some row) ∧
        columns ≠ [] ∧ a = ⟨columns.length, row.length⟩ := by
  intro statement
  refine ⟨pairwise_name_tables kind range visits, fun t ht => ?_, fun a => ?_⟩
  · have hnormal : t.Normal := normal_of_mem_tables ht
    exact ⟨hnormal, fun c hc => hnormal.column?_name hc⟩
  · exact rowArity_collect_eq_some_iff

/-- The column `b`, which is listed twice and compared twice, occurs once, beside a column that is
only referred to and one that is only listed.  An insertion without a name in front of the first
one, and another one behind it, leave no trace in the shape. -/
theorem collect_isNormal_repeated :
    let name : String → Expr := fun n => .column [⟨n, none⟩]
    let number : String → Expr := fun n => .value (.number n)
    let visits : List Part := visitsAll
      [.insertion [⟨"", none⟩] ["x"] (some []),
       .insertion [⟨"t", none⟩] ["b", "c", "b"] (some [number "1", number "2"]),
       .insertion [⟨"u", none⟩] ["d"] (some [number "1"]), .expr (name "a"),
       .expr (.comparison .less (name "b") (number "3")),
       .expr (.comparison .greater (name "b") (number "4"))]
    let t : TableUse := ⟨"t", none,
      [⟨"a", .expression, none, none, none⟩, ⟨"b", .expression, some "<", some "3", some .number⟩,
       ⟨"c", .list, none, none, none⟩]⟩
    let statement := collect .insert ⟨0, 99⟩ visits
    t ∈ statement.tables ∧ t.Normal ∧ t.column? "b" = t.columns[1]? ∧
      FirstInsertion visits [⟨"t", none⟩] ["b", "c", "b"] (some [number "1", number "2"]) ∧
        statement.rowArity = some ⟨3, 2⟩ := by
  intro name number visits t statement
  obtain ⟨-, hnormal, hshape⟩ := collect_isNormal .insert ⟨0, 99⟩ visits
  have hmet : tables visits = [⟨"t", none, []⟩] := by decide +kernel
  have hnames : columnNames visits 0 = ["a", "b", "c"] := by decide +kernel
  have hsorted : ["a", "b", "c"].mergeSort nameLE = ["a", "b", "c"] :=
    List.mergeSort_of_pairwise (by decide)
  have ht : t ∈ statement.tables := by
    rw [mem_tables_collect, map_sortColumns_filledTables, hmet, List.mapIdx_cons, List.mapIdx_nil,
      hnames, hsorted, List.mem_singleton]
    decide +kernel
  obtain ⟨ht', hfound⟩ := hnormal t ht
  have hb : t.column? "b" = t.columns[1]? := hfound _ (.tail _ (.head _))
  have hfirst : FirstInsertion visits [⟨"t", none⟩] ["b", "c", "b"]
      (some [number "1", number "2"]) := by
    refine ⟨by decide, [.insertion [⟨"", none⟩] ["x"] (some [])], _, rfl, fun t cs row h => ?_⟩
    obtain ⟨rfl, -⟩ := by simpa using h
    decide
  exact ⟨ht, ht', hb, hfirst, (hshape _).mpr ⟨_, _, _, hfirst, by decide, rfl⟩⟩

end Sql.Collection

end SqlAnalysis
