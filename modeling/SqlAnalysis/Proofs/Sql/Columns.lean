import SqlAnalysis.Proofs.Sql.Insertion
import SqlAnalysis.Proofs.Sql.Owner
import SqlAnalysis.Proofs.Sql.Visits

/-!
# The columns of a table

Columns come to a table in three passes: those that are referred to, then the column list of an
insertion, then the literals of comparisons.  Here it is said at once which columns a table ends
up with and what each of them carries, and the passes are shown to lead there.  Of several
comparisons of a column the first one counts; of several places in a column list, the last one;
and a literal from the list wins over any comparison.

## Main definitions

* `Lists` — the invariant of the passes: which columns a table has, and what they carry.
* `columnNames` — the names of the columns of a table.
* `attached` — what a table knows about a column.

## Main results

* `lists_passes` — the passes of a table lead to the columns that it is said to have.
* `filledTables_eq_mapIdx` — so do the passes over all tables.
* `tables_collect` — **the tables of a statement with all their columns.**
-/

namespace SqlAnalysis.Sql.Collection

open Text

/-! ### Names without repetitions -/

/-- Only a name that is not there yet is added to names without repetitions. -/
theorem eraseDups_concat (names : List String) (name : String) :
    (names ++ [name]).eraseDups
      = if name ∈ names then names.eraseDups else names.eraseDups ++ [name] := by
  rw [List.eraseDups_append]
  by_cases h : name ∈ names
  · simp [h, List.removeAll]
  · simp [h, List.removeAll, List.eraseDups_cons]

theorem nodup_eraseDups : (names : List String) → names.eraseDups.Nodup
  | [] => by simp
  | name :: names => by
    rw [List.eraseDups_cons]
    have hnew : name ∉ (names.filter fun n => !n == name).eraseDups := by
      simp [List.mem_eraseDups]
    exact List.nodup_cons.mpr ⟨hnew, nodup_eraseDups _⟩
  termination_by names => names.length
  decreasing_by exact Nat.lt_succ_of_le (List.length_filter_le _ _)

/-- Among columns with different names, changing the first one of a name changes that one. -/
theorem changeFirst_map {names : List String} (hnames : names.Nodup) {v : String → ColumnUse}
    (hv : ∀ n, (v n).name = n) (name : String) (q : ColumnUse → Bool)
    (f : ColumnUse → ColumnUse) :
    changeFirst (fun c => c.name == name && q c) f (names.map v)
      = names.map fun n => if n = name ∧ q (v n) then f (v n) else v n := by
  induction names with
  | nil => rfl
  | cons n ns ih =>
    obtain ⟨hn, hns⟩ := List.nodup_cons.mp hnames
    rw [List.map_cons, List.map_cons, changeFirst, hv]
    by_cases h : n = name ∧ q (v n)
    · -- no other column has the name
      have hrest : ∀ m ∈ ns, v m = if m = name ∧ q (v m) then f (v m) else v m := by
        intro m hm
        have hne : ¬m = name := by
          rintro rfl
          exact hn (h.1 ▸ hm)
        rw [if_neg fun hm => hne hm.1]
      rw [if_pos (by simpa using h), if_pos h, List.map_congr_left hrest]
    · rw [if_neg (by simpa using h), if_neg h, ih hns]

/-! ### The passes -/

/-- The column of a comparison, with the literal that it is compared with. -/
def comparedColumn (c : LiteralComparison) : ColumnUse :=
  ⟨c.reference.column, .expression, some c.operator.symbol, some c.literal.text,
    some c.literal.valueType⟩

/-- The columns of a table are those with the given names, each once, and `v` says what each of
them carries. -/
structure Lists (t : TableUse) (names : List String) (v : String → ColumnUse) : Prop where
  /-- Each name has one column. -/
  columns : t.columns = names.eraseDups.map v
  /-- A column carries its own name. -/
  name : ∀ n, (v n).name = n

namespace Lists

variable {t : TableUse} {names : List String} {v : String → ColumnUse}

theorem congr (h : Lists t names v) {w : String → ColumnUse} (hw : ∀ n, v n = w n) :
    Lists t names w :=
  funext hw ▸ h

theorem isSome_column?_iff (h : Lists t names v) {name : String} :
    (t.column? name).isSome ↔ name ∈ names := by
  unfold TableUse.column?
  rw [h.columns, List.find?_isSome]
  constructor
  · rintro ⟨c, hc, hname⟩
    obtain ⟨n, hn, rfl⟩ := List.mem_map.mp hc
    rw [h.name, beq_iff_eq] at hname
    exact hname ▸ List.mem_eraseDups.mp hn
  · intro hname
    exact ⟨v name, List.mem_map_of_mem (List.mem_eraseDups.mpr hname), by simp [h.name]⟩

/-- A column that is referred to is added as a reference. -/
theorem addReference (h : Lists t names .reference) (name : String) :
    Lists (Collection.addReference name t) (names ++ [name]) .reference := by
  refine ⟨?_, fun _ => rfl⟩
  unfold Collection.addReference
  rw [eraseDups_concat]
  by_cases hname : name ∈ names
  · rw [if_pos (h.isSome_column?_iff.mpr hname), if_pos hname, h.columns]
  · rw [if_neg fun hsome => hname (h.isSome_column?_iff.mp hsome), if_neg hname, h.columns,
      List.map_append, List.map_singleton]

/-- A column that is put takes the place of the one of its name. -/
theorem putColumn (h : Lists t names v) (c : ColumnUse) :
    Lists (Collection.putColumn t c) (names ++ [c.name])
      (fun n => if n = c.name then c else v n) := by
  refine ⟨?_, fun n => ?_⟩
  · unfold Collection.putColumn
    rw [eraseDups_concat]
    by_cases hname : c.name ∈ names
    · rw [if_pos (h.isSome_column?_iff.mpr hname), if_pos hname]
      have := changeFirst_map (nodup_eraseDups names) h.name c.name (fun _ => true) fun _ => c
      simpa [h.columns] using this
    · rw [if_neg fun hsome => hname (h.isSome_column?_iff.mp hsome), if_neg hname, h.columns,
        List.map_append, List.map_singleton, if_pos rfl]
      have hrest : ∀ n ∈ names.eraseDups, v n = if n = c.name then c else v n := by
        intro n hn
        have hne : n ≠ c.name := by
          rintro rfl
          exact hname (List.mem_eraseDups.mp hn)
        rw [if_neg hne]
      rw [List.map_congr_left hrest]
  · by_cases hn : n = c.name
    · rw [if_pos hn, hn]
    · rw [if_neg hn, h.name]

/-- A comparison changes the column of its name if that has no literal yet. -/
theorem addComparison (h : Lists t names v) (c : LiteralComparison) :
    Lists (Collection.addComparison c t) names (fun n =>
      if n = c.reference.column ∧ (v n).hasValue = false then comparedColumn c else v n) := by
  refine ⟨?_, fun n => ?_⟩
  · show changeFirst _ _ t.columns = _
    rw [h.columns, changeFirst_map (nodup_eraseDups names) h.name c.reference.column
      (fun col => !col.hasValue)]
    refine List.map_congr_left fun n _ => ?_
    by_cases hn : n = c.reference.column ∧ (v n).hasValue = false
    · rw [if_pos (by simpa using hn), if_pos hn, h.name, hn.1]
      rfl
    · rw [if_neg (by simpa using hn), if_neg hn]
  · split
    · rename_i hn
      exact hn.1.symm
    · exact h.name n

/-- References one after the other. -/
theorem foldl_addReference (h : Lists t names .reference) (rs : List Reference) :
    Lists (rs.foldl (fun t r => Collection.addReference r.column t) t)
      (names ++ rs.map (·.column)) .reference := by
  induction rs generalizing t names with
  | nil => simpa using h
  | cons r rs ih =>
    have hrest := ih (h.addReference r.column)
    rwa [List.append_assoc] at hrest

/-- Columns put one after the other: the last one of a name stays. -/
theorem foldl_putColumn (h : Lists t names v) (cs : List ColumnUse) :
    Lists (cs.foldl Collection.putColumn t) (names ++ cs.map (·.name))
      (fun n => (cs.reverse.find? (·.name == n)).getD (v n)) := by
  induction cs generalizing t names v with
  | nil => simpa using h
  | cons c cs ih =>
    have hrest := ih (h.putColumn c)
    rw [List.append_assoc] at hrest
    refine hrest.congr fun n => ?_
    rw [List.reverse_cons, List.find?_append]
    cases cs.reverse.find? (·.name == n) with
    | some d => rfl
    | none =>
      by_cases hn : n = c.name
      · simp [hn]
      · have hne : (c.name == n) = false := by simpa using Ne.symm hn
        simp [hn, hne]

/-- Comparisons one after the other: the first one of a column counts, unless the column has a
literal already. -/
theorem foldl_addComparison (h : Lists t names v) (cs : List LiteralComparison) :
    Lists (cs.foldl (fun t c => Collection.addComparison c t) t) names (fun n =>
      if (v n).hasValue then v n
      else ((cs.find? (·.reference.column == n)).map comparedColumn).getD (v n)) := by
  induction cs generalizing t v with
  | nil => simpa using h
  | cons c cs ih =>
    refine (ih (h.addComparison c)).congr fun n => ?_
    rw [List.find?_cons]
    by_cases hvalue : (v n).hasValue
    · simp [hvalue]
    · by_cases hn : n = c.reference.column
      · have hcompared : (comparedColumn c).hasValue = true := rfl
        simp [hn.symm, hvalue, hcompared]
      · have hne : (c.reference.column == n) = false := by simpa using Ne.symm hn
        simp [hn, hne, hvalue]

end Lists

/-! ### What belongs to a table -/

/-- Table names are added without columns. -/
theorem columns_foldl_addRelation (names relations : List String) {ts : List TableUse}
    (hts : ∀ t ∈ ts, t.columns = []) :
    ∀ t ∈ relations.foldl (addRelation names) ts, t.columns = [] := by
  induction relations generalizing ts with
  | nil => exact hts
  | cons r rs ih =>
    refine ih fun t ht => ?_
    unfold addRelation at ht
    split at ht
    · exact hts t ht
    · rcases List.mem_append.mp ht with ht | ht
      · exact hts t ht
      · rw [List.mem_singleton.mp ht]

section

variable (visits : List Part) (k : Nat)

/-- The references that belong to the table at the position `k`. -/
def ownedReferences : List Reference :=
  (references visits).filter fun r => owner? (tables visits) r.qualifier == some k

/-- The comparisons whose column belongs to the table at the position `k`. -/
def ownedComparisons : List LiteralComparison :=
  (comparisons visits).filter fun c => owner? (tables visits) c.reference.qualifier == some k

/-- The first insertion into a named table, if the table at the position `k` is the first one
named like its target. -/
def insertionAt? : Option Insertion :=
  (insertion? visits).filter fun i => (tables visits).findIdx? (·.name == i.table) == some k

/-- The names of the columns of the table at the position `k`: those of the references that
belong to it, and the column list of the insertion into it. -/
def columnNames : List String :=
  ((ownedReferences visits k).map (·.column)
    ++ ((insertionAt? visits k).map (·.columns)).getD []).eraseDups

/-- What the table at the position `k` knows about a column: the literal at its last place in
the column list; or else the first comparison of the column that belongs to the table; or else
only that it is listed, or referred to. -/
def attached (name : String) : ColumnUse :=
  match (insertionAt? visits k).bind (·.listing? name),
    (ownedComparisons visits k).find? (·.reference.column == name) with
  | some (some l), _ => ⟨name, .list, none, some l.text, some l.valueType⟩
  | _, some c =>
    ⟨name, .expression, some c.operator.symbol, some c.literal.text, some c.literal.valueType⟩
  | some none, none => ⟨name, .list, none, none, none⟩
  | none, none => ⟨name, .expression, none, none, none⟩

/-- The columns that the insertion puts into the table at the position `k`. -/
def listedAt : List ColumnUse :=
  ((insertionAt? visits k).map listedColumns).getD []

/-- The references that belong to the table at the position `k`, one after the other. -/
def refer (t : TableUse) : TableUse :=
  (ownedReferences visits k).foldl (fun t r => addReference r.column t) t

/-- The columns that are inserted into the table at the position `k`, one after the other. -/
def insert (t : TableUse) : TableUse :=
  (listedAt visits k).foldl putColumn t

/-- The comparisons that belong to the table at the position `k`, one after the other. -/
def compare (t : TableUse) : TableUse :=
  (ownedComparisons visits k).foldl (fun t c => addComparison c t) t

theorem keeps_refer : Keeps (refer visits k) :=
  Keeps.foldl (fun r : Reference => keeps_addReference r.column) (ownedReferences visits k)

theorem keeps_insert : Keeps (insert visits k) :=
  Keeps.foldl keeps_putColumn (listedAt visits k)

theorem keeps_compare : Keeps (compare visits k) :=
  Keeps.foldl keeps_addComparison (ownedComparisons visits k)

/-- The insertion changes the table at its target. -/
theorem addInsertion_mapIdx {f : Nat → TableUse → TableUse} (hf : ∀ k, Keeps (f k))
    {i : Insertion} (hi : insertion? visits = some i) :
    addInsertion ((tables visits).mapIdx f) i
      = (tables visits).mapIdx fun k t => insert visits k (f k t) := by
  have hname : ∀ (k : Nat) (t : TableUse), ((f k t).name == i.table) = (t.name == i.table) :=
    fun k t => by rw [(hf k t).1]
  rw [addInsertion, changeFirst_eq_mapIdx, findIdx?_mapIdx hname, List.mapIdx_mapIdx]
  congr 1
  funext k t
  simp only [Function.comp_apply, insert, listedAt, insertionAt?, hi, Option.filter_some,
    beq_iff_eq]
  split <;> rfl

/-- The passes over all tables are, for each table, its own passes. -/
theorem filledTables_eq_mapIdx_passes :
    filledTables visits
      = (tables visits).mapIdx fun k t =>
          compare visits k (insert visits k (refer visits k t)) := by
  have hreferred : (references visits).foldl
      (fun ts r => changeOwner r.qualifier (addReference r.column) ts) (tables visits)
        = (tables visits).mapIdx (refer visits) :=
    foldl_changeOwner (fun r : Reference => r.qualifier)
      (fun r => keeps_addReference r.column) (references visits) (tables visits)
  have howner : ∀ q, owner? ((tables visits).mapIdx fun k t =>
      insert visits k (refer visits k t)) q = owner? (tables visits) q :=
    owner?_mapIdx (fun k => (keeps_insert visits k).comp (keeps_refer visits k)) (tables visits)
  have hcompared : (comparisons visits).foldl
      (fun ts c => changeOwner c.reference.qualifier (addComparison c) ts)
        ((tables visits).mapIdx fun k t => insert visits k (refer visits k t))
        = (tables visits).mapIdx fun k t =>
            compare visits k (insert visits k (refer visits k t)) := by
    rw [foldl_changeOwner (fun c : LiteralComparison => c.reference.qualifier)
      keeps_addComparison, List.mapIdx_mapIdx]
    simp only [Function.comp_def, howner]
    rfl
  rw [filledTables, hreferred]
  cases hi : insertion? visits with
  | some i =>
    simp only [addInsertion_mapIdx visits (keeps_refer visits) hi]
    exact hcompared
  | none =>
    -- without an insertion nothing is put anywhere
    have hnone : ∀ k t, insert visits k t = t := by
      intro k t
      simp [insert, listedAt, insertionAt?, hi]
    simpa only [hnone] using hcompared

/-- The tables are met without columns. -/
theorem columns_tables {t : TableUse} (ht : t ∈ tables visits) : t.columns = [] := by
  refine columns_foldl_addRelation (queryNames visits) (relations visits) (fun t ht => ?_) t ht
  obtain ⟨p, -, hp⟩ := List.mem_filterMap.mp (List.mem_filter.mp ht).1
  split at hp
  · obtain ⟨n, -, rfl⟩ := Option.map_eq_some_iff.mp hp
    rfl
  · cases hp

/-! ### The columns of all tables -/

theorem map_name_listedAt :
    (listedAt visits k).map (·.name) = ((insertionAt? visits k).map (·.columns)).getD [] := by
  unfold listedAt
  cases insertionAt? visits k with
  | none => rfl
  | some i => exact map_name_listedColumns i

theorem find?_reverse_listedAt (name : String) :
    (listedAt visits k).reverse.find? (·.name == name)
      = ((insertionAt? visits k).bind (·.listing? name)).map (listedColumn name) := by
  unfold listedAt
  cases insertionAt? visits k with
  | none => rfl
  | some i => exact find?_reverse_listedColumns i name

/-- The passes of a table lead to the columns that it is said to have. -/
theorem lists_passes {t : TableUse} (ht : t.columns = []) :
    Lists (compare visits k (insert visits k (refer visits k t)))
      ((ownedReferences visits k).map (·.column)
        ++ ((insertionAt? visits k).map (·.columns)).getD []) (attached visits k) := by
  have hempty : Lists t [] .reference := ⟨by simp [ht], fun _ => rfl⟩
  have hreferred := hempty.foldl_addReference (ownedReferences visits k)
  have hinserted := hreferred.foldl_putColumn (listedAt visits k)
  have hcompared := hinserted.foldl_addComparison (ownedComparisons visits k)
  rw [map_name_listedAt, List.nil_append] at hcompared
  refine hcompared.congr fun name => ?_
  rw [find?_reverse_listedAt, attached]
  cases hfirst : (ownedComparisons visits k).find? (·.reference.column == name) with
  | none =>
    rcases (insertionAt? visits k).bind (·.listing? name) with _ | _ | l
    · rfl
    · rfl
    · rfl
  | some c =>
    -- a literal from the list is not replaced, anything else is
    have hname : c.reference.column = name := by simpa using List.find?_some hfirst
    rcases (insertionAt? visits k).bind (·.listing? name) with _ | _ | l
    · simp [ColumnUse.hasValue, ColumnUse.reference, comparedColumn, hname]
    · simp [ColumnUse.hasValue, listedColumn, comparedColumn, hname]
    · rfl

/-- The columns that the passes lead to. -/
theorem filledTables_eq_mapIdx :
    filledTables visits = (tables visits).mapIdx fun k t =>
      { t with columns := (columnNames visits k).map (attached visits k) } := by
  rw [filledTables_eq_mapIdx_passes, List.mapIdx_eq_mapIdx_iff]
  intro k hk
  have hempty := columns_tables visits (List.getElem_mem hk)
  have hcolumns := (lists_passes visits k hempty).columns
  obtain ⟨hname, halias⟩ := ((keeps_compare visits k).comp
    ((keeps_insert visits k).comp (keeps_refer visits k))) (tables visits)[k]
  cases hfilled : compare visits k (insert visits k (refer visits k (tables visits)[k])) with
  | mk name aliasName columns =>
    simp only [hfilled] at hcolumns hname halias
    rw [hname, halias, hcolumns, columnNames]

/-- A column carries its own name. -/
theorem name_attached (name : String) : (attached visits k name).name = name := by
  unfold attached
  split <;> rfl

/-- Columns are in the order of their names. -/
theorem mergeSort_map_attached :
    ((columnNames visits k).map (attached visits k)).mergeSort (fun a b => nameLE a.name b.name)
      = ((columnNames visits k).mergeSort nameLE).map (attached visits k) := by
  refine (List.map_mergeSort fun a _ b _ => ?_).symm
  rw [name_attached, name_attached]

/-- The tables with their columns in the order of their names. -/
theorem map_sortColumns_filledTables :
    (filledTables visits).map sortColumns = (tables visits).mapIdx fun k t =>
      { t with
        columns := ((columnNames visits k).mergeSort nameLE).map (attached visits k) } := by
  rw [filledTables_eq_mapIdx, eq_comm, List.mapIdx_eq_iff]
  intro k
  rw [List.getElem?_map, List.getElem?_mapIdx, Option.map_map]
  simp only [Function.comp_def, sortColumns, mergeSort_map_attached]

end

/-! ### The statement -/

/-- The column of a comparison that belongs to a table is one of its columns. -/
theorem column_mem_columnNames {visits : List Part} (hvisits : OperandsVisited visits) {k : Nat}
    {c : LiteralComparison} (hc : c ∈ ownedComparisons visits k) :
    c.reference.column ∈ columnNames visits k := by
  obtain ⟨hmem, howner⟩ := List.mem_filter.mp hc
  have howned : c.reference ∈ ownedReferences visits k :=
    List.mem_filter.mpr ⟨hvisits.reference_mem hmem, howner⟩
  exact List.mem_eraseDups.mpr (List.mem_append_left _ (List.mem_map_of_mem howned))

/-- **The tables of a statement with all their columns.**  Each table has the columns of the
references that belong to it and of the insertion into it, once each and in the order of their
names, and each column carries what is attached to it.  Tables are in the order of their names
as well, and those of the same name in the order in which they are met.  If the operands of
comparisons are visited, no comparison that belongs to a table is about a column that it does
not have. -/
theorem tables_collect (kind : Statement.Kind) (range : Span) (visits : List Part) :
    (collect kind range visits).tables
        = ((tables visits).mapIdx fun k t =>
            { t with
              columns := ((columnNames visits k).mergeSort nameLE).map (attached visits k) }
          ).mergeSort (fun a b => nameLE a.name b.name) ∧
      (OperandsVisited visits → ∀ k, ∀ c ∈ ownedComparisons visits k,
        c.reference.column ∈ columnNames visits k) := by
  refine ⟨?_, fun hvisits k c hc => column_mem_columnNames hvisits hc⟩
  have hcommute : ((filledTables visits).mergeSort
      fun a b => nameLE a.name b.name).map sortColumns
        = ((filledTables visits).map sortColumns).mergeSort fun a b => nameLE a.name b.name :=
    List.map_mergeSort fun a _ b _ => rfl
  rw [← map_sortColumns_filledTables, ← hcommute]
  rfl

/-- Of an insertion into `(b, a, b)` with the row `(1, a, 2)`, the column `b` has the literal at its
last place; `a` has none there, and takes the one that it is compared with first. -/
theorem tables_collect_insertion :
    let name : String → Expr := fun n => .column [⟨n, none⟩]
    let number : String → Expr := fun n => .value (.number n)
    let visits := visitsAll
      [.insertion [⟨"t", none⟩] ["b", "a", "b"] (some [number "1", name "a", number "2"]),
       .expr (.comparison .less (name "a") (number "3")),
       .expr (.comparison .greater (name "a") (number "4"))]
    OperandsVisited visits ∧
      (∀ c ∈ ownedComparisons visits 0, c.reference.column ∈ columnNames visits 0) ∧
      (collect .insert ⟨0, 75⟩ visits).tables
        = [⟨"t", none,
            [⟨"a", .expression, some "<", some "3", some .number⟩,
             ⟨"b", .list, none, some "2", some .number⟩]⟩] := by
  intro name number visits
  have hvisits : OperandsVisited visits := operandsVisited_visitsAll _
  obtain ⟨htables, howned⟩ := tables_collect .insert ⟨0, 75⟩ visits
  have hmet : tables visits = [⟨"t", none, []⟩] := by decide +kernel
  have hnames : columnNames visits 0 = ["a", "b"] := by decide +kernel
  have hsorted : ["a", "b"].mergeSort nameLE = ["a", "b"] :=
    List.mergeSort_of_pairwise (by decide)
  refine ⟨hvisits, howned hvisits 0, ?_⟩
  rw [htables, hmet, List.mapIdx_cons, List.mapIdx_nil, List.mergeSort_singleton, hnames, hsorted]
  decide +kernel

end SqlAnalysis.Sql.Collection
