import SqlAnalysis.Proofs.Schema.Store

/-!
# Schemas written back

A schema is read leniently, from objects or arrays with many parts left out, and is written in one
form with every part in place.  What is written reads as what it was written for, so nothing is lost
or guessed anew: a value type that was given stays, even where the declared type would give another
one, and one that was derived is written out.  Loading, writing back and loading again gives what
loading gave.

## Main definitions

* `Nameless` — a value that gives a table the empty name, whatever else stands in it.

## Main results

* `readTables?_writeTables` — what is written reads as what it was written for.
* `loadJson_eq_ok_iff` — a value loads as the tables that it reads as, if they all have names.
* `exists_error_of_nameless` — a table without a name spoils the whole value.
* `loadJson_written_back` — **schemas that are written back load to themselves.**
-/

namespace SqlAnalysis

/-- The label of a value type names that type. -/
theorem ValueType.ofExactLabel_label (t : ValueType) : ofExactLabel t.label = t := by
  cases t <;> rfl

namespace Schema

/-! ### What is written -/

/-- Parts that are written one by one are read as themselves. -/
theorem mapM_map_eq_some {α β : Type} {write : α → β} {read? : β → Option α}
    (h : ∀ a, read? (write a) = some a) (as : List α) : (as.map write).mapM read? = some as := by
  induction as with
  | nil => rfl
  | cons a as ih =>
    rw [List.map_cons, List.mapM_cons, h, ih]
    rfl

/-- A column that is written reads as itself; its value type stands there and is not derived. -/
theorem readColumn?_writeColumn (c : Column) : readColumn? (writeColumn c) = some c := by
  have htype : readOptionalValueType? (.string (some c.valueType.label))
      = some (some c.valueType) :=
    congrArg (fun t => some (some t)) (ValueType.ofExactLabel_label c.valueType)
  -- the four members are found by their keys
  change (readOptionalValueType? (.string (some c.valueType.label))).bind
      (fun valueType => some (columnOfFields c.name c.sqlType valueType c.optional)) = some c
  rw [htype]
  rfl

/-- A table that is written reads as itself. -/
theorem readTable?_writeTable (t : Table) : readTable? (writeTable t) = some t := by
  have hcolumns : readColumns? (.array (t.columns.map writeColumn)) = some t.columns :=
    mapM_map_eq_some readColumn?_writeColumn t.columns
  change (readColumns? (.array (t.columns.map writeColumn))).bind
      (fun columns => some ⟨t.name, columns⟩) = some t
  rw [hcolumns]
  rfl

/-- **What is written reads as what it was written for.** -/
theorem readTables?_writeTables (ts : List Table) : readTables? (writeTables ts) = some ts :=
  mapM_map_eq_some readTable?_writeTable ts

/-! ### What loads -/

/-- A value loads as the tables that it reads as, if they all have names. -/
theorem loadJson_eq_ok_iff {v : Json} {ts : List Table} :
    loadJson v = .ok ts ↔ readTables? v = some ts ∧ ∀ t ∈ ts, t.name ≠ "" := by
  unfold loadJson
  cases readTables? v with
  | none => simp
  | some tables =>
    rw [checkNames_eq_ok_iff, Option.some.injEq]
    constructor
    · rintro ⟨rfl, hnames⟩
      exact ⟨rfl, hnames⟩
    · rintro ⟨rfl, hnames⟩
      exact ⟨rfl, hnames⟩

/-- A value that gives a table the empty name, whatever else stands in it. -/
inductive Nameless : Json → Prop
  /-- An object with an empty name among its members. -/
  | object {members : List (Option String × Json)} (hname : (some "name", .text "") ∈ members) :
    Nameless (.object members)
  /-- An array with an empty name in front. -/
  | array (fields : List Json) : Nameless (.array (.text "" :: fields))

/-- What is found as a member is what stands there. -/
theorem eq_of_member? {members : List (Option String × Json)} {k : String} {found : Option Json}
    {v : Json} (h : member? members k = some found) (hmember : (some k, v) ∈ members) :
    found = some v := by
  have hv : (some k, v) ∈ members.filter (·.1 == some k) :=
    List.mem_filter.mpr ⟨hmember, by simp⟩
  unfold member? at h
  split at h
  · rename_i hnone
    rw [hnone] at hv
    cases hv
  · rename_i hone
    rw [hone] at hv
    cases List.mem_singleton.mp hv
    exact (Option.some.inj h).symm
  · cases h

/-- A value that gives a table the empty name is read as no other table, if it is read at all. -/
theorem name_eq_of_nameless {item : Json} (hitem : Nameless item) {t : Table}
    (h : readTable? item = some t) : t.name = "" := by
  cases hitem with
  | object hname =>
    unfold readTable? at h
    obtain ⟨-, -, h⟩ := Option.bind_eq_some_iff.mp h
    obtain ⟨found, hfound, h⟩ := Option.bind_eq_some_iff.mp h
    obtain ⟨name, hread, h⟩ := Option.bind_eq_some_iff.mp h
    obtain ⟨_, -, h⟩ := Option.bind_eq_some_iff.mp h
    obtain ⟨columns, -, ht⟩ := Option.bind_eq_some_iff.mp h
    rw [eq_of_member? hfound hname] at hread
    cases hread
    cases ht
    rfl
  | array fields =>
    cases fields with
    | nil =>
      cases h
      rfl
    | cons columns fields =>
      cases fields with
      | nil =>
        obtain ⟨_, -, ht⟩ := Option.bind_eq_some_iff.mp h
        cases ht
        rfl
      | cons _ _ => cases h

/-- What is read part by part has every part read. -/
theorem exists_of_mem_mapM {α β : Type} {read? : α → Option β} {as : List α} {bs : List β}
    (h : as.mapM read? = some bs) {a : α} (ha : a ∈ as) : ∃ b ∈ bs, read? a = some b := by
  induction as generalizing bs with
  | nil => cases ha
  | cons x as ih =>
    simp only [List.mapM_cons, Option.bind_eq_bind, Option.bind_eq_some_iff] at h
    obtain ⟨b, hb, rest, hrest, hbs⟩ := h
    cases hbs
    rcases List.mem_cons.mp ha with rfl | ha
    · exact ⟨b, List.mem_cons_self, hb⟩
    · obtain ⟨b', hb', hread⟩ := ih hrest ha
      exact ⟨b', List.mem_cons_of_mem b hb', hread⟩

/-- **A table without a name spoils the whole value**, whatever stands beside it. -/
theorem exists_error_of_nameless {items : List Json} {item : Json} (hmem : item ∈ items)
    (hitem : Nameless item) : ∃ e, loadJson (.array items) = .error e := by
  cases hload : loadJson (.array items) with
  | error e => exact ⟨e, rfl⟩
  | ok ts =>
    -- the item would have been read as one of the tables
    obtain ⟨hread, hnames⟩ := loadJson_eq_ok_iff.mp hload
    obtain ⟨t, ht, hitems⟩ := exists_of_mem_mapM hread hmem
    exact absurd (name_eq_of_nameless hitem hitems) (hnames t ht)

/-- **Schemas that are written back load to themselves.**

* Tables that all have names load, when they are written, as exactly the same tables.
* Whatever value tables were loaded from, they load as the same tables when they are written back.
* A value that gives a table no name is rejected as a whole, whatever else it holds. -/
theorem loadJson_written_back :
    (∀ ts, (∀ t ∈ ts, t.name ≠ "") → loadJson (writeTables ts) = .ok ts) ∧
    (∀ v ts, loadJson v = .ok ts → loadJson (writeTables ts) = .ok ts) ∧
    (∀ items item, item ∈ items → Nameless item → ∃ e, loadJson (.array items) = .error e) := by
  have hwritten : ∀ ts, (∀ t ∈ ts, t.name ≠ "") → loadJson (writeTables ts) = .ok ts :=
    fun ts hnames => loadJson_eq_ok_iff.mpr ⟨readTables?_writeTables ts, hnames⟩
  refine ⟨hwritten, ?_, ?_⟩
  · intro v ts hload
    exact hwritten ts (loadJson_eq_ok_iff.mp hload).2
  · intro items item hmem hitem
    exact exists_error_of_nameless hmem hitem

/-- A table is read from an array, with one column from an array without a value type and one from
an object with an unknown one, and another table of the same name from an object without columns;
written back they load as they were read.  A column of declared type `int` that is said to take
anything is still said so, and beside it a table without a name is rejected. -/
theorem loadJson_written_back_mixed :
    let short : Json := .array [.text "id", .text "int", .null]
    let named : Json := .object [(some "name", .text "a"), (some "tsType", .text "money")]
    let value : Json :=
      .array [.array [.text "t", .array [short, named]], .object [(some "name", .text "t")]]
    let id : Column := ⟨"id", "int", .number, false⟩
    let tables : List Table := [⟨"t", [id, ⟨"a", "", .any, false⟩]⟩, ⟨"t", []⟩]
    let anything : Table := ⟨"u", [⟨"id", "int", .any, true⟩]⟩
    let nameless : Json := .object [(some "columns", .null), (some "name", .text "")]
    loadJson value = .ok tables ∧ loadJson (writeTables tables) = .ok tables ∧
      (∀ t ∈ [anything], t.name ≠ "") ∧ loadJson (writeTables [anything]) = .ok [anything] ∧
      Nameless nameless ∧ ∃ e, loadJson (.array [writeTable anything, nameless]) = .error e := by
  intro short named value id tables anything nameless
  obtain ⟨hwritten, hback, hrejected⟩ := loadJson_written_back
  have hload : loadJson value = .ok tables :=
    loadJson_eq_ok_iff.mpr ⟨by decide +kernel, by decide⟩
  have hnames : ∀ t ∈ [anything], t.name ≠ "" := by decide
  have hnameless : Nameless nameless := .object (by simp)
  exact ⟨hload, hback value tables hload, hnames, hwritten [anything] hnames, hnameless,
    hrejected _ nameless (by simp) hnameless⟩

end Schema

end SqlAnalysis
