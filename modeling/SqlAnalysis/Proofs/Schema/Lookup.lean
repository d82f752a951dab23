import SqlAnalysis.Schema.Basic

/-!
# Looking tables up

The index of a schema is filled in one pass over the tables.  Each step of the pass adds the name of
one table with the position of that table, and a name that is there already keeps its position.
What holds between the steps is that the index answers like a search through the tables passed so
far, so a second table of a name is never reached and every position is that of a table.

## Main definitions

* `Schema.Indexes` — an index answers like a search through the tables.
* `Schema.FirstNamed` — a table, at its position, is the first one of its name.

## Main results

* `Schema.Indexes.insertIfNew` — a step of the pass keeps this.
* `Schema.indexes_index` — the index of a schema answers like a search through all its tables.
* `Schema.table?_eq_find?` — **a lookup finds the first table with the name.**
* `Schema.table?_ofTables_iff_firstNamed` — **lookups, positions and the order of the tables**, for
  the schema of any list of tables.
-/

namespace SqlAnalysis.Schema

/-! ### Filling the index -/

/-- The index gives every name the position of the first of these tables that has it, and knows no
other name. -/
def Indexes (index : Std.HashMap String Nat) (ts : List Table) : Prop :=
  ∀ name, index[name]? = ts.findIdx? (·.name == name)

section

variable {index : Std.HashMap String Nat} {seen : List Table}

theorem indexes_empty : Indexes ∅ [] := by
  intro name
  rw [Std.HashMap.getElem?_empty, List.findIdx?_nil]

/-- **A step of the pass**: the table behind those that have been seen. -/
theorem Indexes.insertIfNew (h : Indexes index seen) (t : Table) :
    Indexes (index.insertIfNew t.name seen.length) (seen ++ [t]) := by
  intro name
  rw [Std.HashMap.getElem?_insertIfNew, List.findIdx?_append, List.findIdx?_singleton, ← h name]
  by_cases hname : t.name = name
  · subst hname
    rw [if_pos (beq_self_eq_true t.name)]
    by_cases hknown : t.name ∈ index
    · -- a table that has been seen has the name, and its position stays
      obtain ⟨i, hi⟩ := Option.isSome_iff_exists.mp
        (Std.HashMap.mem_iff_isSome_getElem?.mp hknown)
      rw [if_neg fun hnew => hnew.2 hknown, hi, Option.some_or]
    · rw [if_pos ⟨beq_self_eq_true t.name, hknown⟩, Std.HashMap.getElem?_eq_none hknown,
        Option.none_or, Option.map_some, Nat.zero_add]
  · simp [hname]

/-- The rest of the pass. -/
theorem Indexes.indexFrom_append (h : Indexes index seen) (ts : List Table) :
    Indexes (indexFrom seen.length index ts) (seen ++ ts) := by
  induction ts generalizing seen index with
  | nil =>
    rw [indexFrom, List.append_nil]
    exact h
  | cons t ts ih =>
    have hrest : Indexes (indexFrom (seen ++ [t]).length (index.insertIfNew t.name seen.length) ts)
        (seen ++ [t] ++ ts) := ih (h.insertIfNew t)
    rw [List.length_append, List.length_singleton, ← List.append_cons] at hrest
    exact hrest

end

/-- The index of a schema answers like a search through all its tables. -/
theorem indexes_index (s : Schema) : Indexes s.index s.tables := by
  rw [s.index_eq]
  exact indexes_empty.indexFrom_append s.tables

/-! ### Lookups -/

/-- The table `t` stands at position `i`, and it is the first one called `name`. -/
structure FirstNamed (ts : List Table) (name : String) (i : Nat) (t : Table) : Prop where
  /-- This is the table at the position. -/
  getElem?_eq : ts[i]? = some t
  /-- It has the name. -/
  name_eq : t.name = name
  /-- The tables in front of it have other names. -/
  name_ne : ∀ (j : Nat) (u : Table), j < i → ts[j]? = some u → u.name ≠ name

theorem firstNamed_iff {ts : List Table} {name : String} {i : Nat} {t : Table} :
    FirstNamed ts name i t ↔ ts.findIdx? (·.name == name) = some i ∧ ts[i]? = some t := by
  rw [List.findIdx?_eq_some_iff_getElem]
  constructor
  · intro h
    obtain ⟨hi, ht⟩ := List.getElem?_eq_some_iff.mp h.getElem?_eq
    refine ⟨⟨hi, ?_, fun j hj => ?_⟩, h.getElem?_eq⟩
    · rw [ht, beq_iff_eq]
      exact h.name_eq
    · rw [beq_iff_eq]
      exact h.name_ne j _ hj (List.getElem?_eq_getElem (Nat.lt_trans hj hi))
  · rintro ⟨⟨hi, hname, hfront⟩, ht⟩
    obtain rfl : ts[i] = t := Option.some.inj ((List.getElem?_eq_getElem hi).symm.trans ht)
    refine ⟨ht, beq_iff_eq.mp hname, fun j u hj hu => ?_⟩
    obtain ⟨hlt, rfl⟩ := List.getElem?_eq_some_iff.mp hu
    exact fun h => hfront j hj (beq_iff_eq.mpr h)

section

variable {s : Schema} {name : String} {i : Nat} {t : Table}

/-- The index holds the positions of the first tables, and nothing else. -/
theorem index_eq_some_iff : s.index[name]? = some i ↔ ∃ t, FirstNamed s.tables name i t := by
  rw [indexes_index s name]
  constructor
  · intro h
    obtain ⟨hi, -, -⟩ := List.findIdx?_eq_some_iff_getElem.mp h
    exact ⟨s.tables[i], firstNamed_iff.mpr ⟨h, List.getElem?_eq_getElem hi⟩⟩
  · rintro ⟨t, ht⟩
    exact (firstNamed_iff.mp ht).1

theorem table?_eq_some_iff : s.table? name = some t ↔ ∃ i, FirstNamed s.tables name i t := by
  rw [table?, Option.bind_eq_some_iff, indexes_index s name]
  exact exists_congr fun i => firstNamed_iff.symm

/-- Every position in the index is one at which a table stands, and the lookup finds that table. -/
theorem exists_table?_of_index (h : s.index[name]? = some i) :
    ∃ hi : i < s.tables.length, s.table? name = some s.tables[i] := by
  obtain ⟨t, ht⟩ := index_eq_some_iff.mp h
  obtain ⟨hi, rfl⟩ := List.getElem?_eq_some_iff.mp ht.getElem?_eq
  exact ⟨hi, table?_eq_some_iff.mpr ⟨i, ht⟩⟩

end

/-- **A lookup finds the first table with the name.** -/
theorem table?_eq_find? (s : Schema) (name : String) :
    s.table? name = s.tables.find? (·.name == name) := by
  rw [table?, indexes_index s name, List.find?_eq_bind_findIdx?_getElem?]

/-- The table that a lookup finds has the name that was looked up. -/
theorem name_of_table? {s : Schema} {name : String} {t : Table} (h : s.table? name = some t) :
    t.name = name := by
  rw [table?_eq_find?] at h
  simpa using List.find?_some h

theorem table?_eq_none_iff {s : Schema} {name : String} :
    s.table? name = none ↔ ∀ t ∈ s.tables, t.name ≠ name := by
  rw [table?_eq_find?, List.find?_eq_none]
  simp only [beq_iff_eq, ne_eq]

/-- Every name in the list of names is found. -/
theorem isSome_table?_of_mem {s : Schema} {name : String} (h : name ∈ s.tableNames) :
    (s.table? name).isSome := by
  obtain ⟨t, ht, rfl⟩ := List.mem_map.mp h
  rw [table?_eq_find?, List.find?_isSome]
  exact ⟨t, ht, beq_self_eq_true t.name⟩

/-- **Lookups, positions and the order of the tables.**  In the schema of any tables, whatever their
names and however often these occur, a lookup finds the first table of the name, and nothing if
there is none.  The index holds the positions of these tables, so each of them is within the list
and a name that the index knows is found.  All tables stay in their order. -/
theorem table?_ofTables_iff_firstNamed (ts : List Table) :
    let s := ofTables ts
    (∀ name t, s.table? name = some t ↔ ∃ i, FirstNamed ts name i t) ∧
      (∀ name, s.table? name = none ↔ ∀ t ∈ ts, t.name ≠ name) ∧
      (∀ name i, s.index[name]? = some i ↔ ∃ t, FirstNamed ts name i t) ∧
      (∀ name i, s.index[name]? = some i →
        ∃ hi : i < s.tables.length, s.table? name = some s.tables[i]) ∧
      s.tables = ts ∧ s.tableNames = ts.map (·.name) := by
  intro s
  refine ⟨fun name t => ?_, fun name => ?_, fun name i => ?_, fun name i => ?_, rfl, rfl⟩
  · exact table?_eq_some_iff
  · exact table?_eq_none_iff
  · exact index_eq_some_iff
  · exact exists_table?_of_index

/-- A table declared twice, with one between them that has no name. -/
theorem table?_ofTables_declared_twice :
    let users : Table := ⟨"users", []⟩
    let nameless : Table := ⟨"", [.ofSqlType "n" "int" false]⟩
    let again : Table := ⟨"users", [.ofSqlType "id" "int" false]⟩
    let s := ofTables [users, nameless, again]
    s.index["users"]? = some 0 ∧ s.table? "users" = some users ∧
      s.index[""]? = some 1 ∧ s.table? "" = some nameless ∧ s.table? "Users" = none ∧
      s.tables = [users, nameless, again] ∧ s.tableNames = ["users", "", "users"] := by
  intro users nameless again s
  obtain ⟨-, hnone, hindex, hrange, htables, hnames⟩ :=
    table?_ofTables_iff_firstNamed [users, nameless, again]
  have husers : s.index["users"]? = some 0 :=
    (hindex "users" 0).mpr ⟨users, rfl, rfl, fun j u hj => absurd hj (Nat.not_lt_zero j)⟩
  have hnameless : s.index[""]? = some 1 := by
    refine (hindex "" 1).mpr ⟨nameless, rfl, rfl, fun j u hj hu => ?_⟩
    obtain rfl : j = 0 := by omega
    obtain rfl : users = u := Option.some.inj hu
    decide
  obtain ⟨_, hfirst⟩ := hrange "users" 0 husers
  obtain ⟨_, hsecond⟩ := hrange "" 1 hnameless
  exact ⟨husers, hfirst, hnameless, hsecond, (hnone "Users").mpr (by decide), htables, hnames⟩

end SqlAnalysis.Schema
