import SqlAnalysis.Sql.Collection

/-!
# The column list of an insertion

What an insertion says about a column: whether it is listed, and which literal the first row has
for it.  A name may be listed several times; the last place counts, as it does for the columns
that are put into the table one after the other.

## Main definitions

* `lastIdx?` — the last position of a name in a list.
* `Insertion.row` — the literals for the places of the list.
* `Insertion.listing?` — what an insertion holds for a column.

## Main results

* `Insertion.listing?_eq_some_iff` — a listing is the literal at the last place of the column.
* `Collection.find?_reverse_listedColumns` — the last listed column of a name has its listing.
-/

namespace SqlAnalysis.Sql

/-- The last position of a name in a list. -/
def lastIdx? (name : String) : List String → Option Nat
  | [] => none
  | n :: ns =>
    match lastIdx? name ns with
    | some p => some (p + 1)
    | none => if n = name then some 0 else none

theorem lastIdx?_eq_none_iff {name : String} {l : List String} :
    lastIdx? name l = none ↔ name ∉ l := by
  induction l with
  | nil => simp [lastIdx?]
  | cons n ns ih =>
    rw [lastIdx?, List.mem_cons, not_or, ← ih]
    cases lastIdx? name ns with
    | some r => simp
    | none => simp [eq_comm]

/-- The last position holds the name, and no later position does. -/
theorem lastIdx?_eq_some_iff {name : String} {l : List String} {p : Nat} :
    lastIdx? name l = some p ↔ l[p]? = some name ∧ ∀ p', p < p' → l[p']? ≠ some name := by
  induction l generalizing p with
  | nil => simp [lastIdx?]
  | cons n ns ih =>
    rw [lastIdx?]
    cases hrest : lastIdx? name ns with
    | some r =>
      obtain ⟨hr, hlast⟩ := ih.mp hrest
      constructor
      · intro h
        cases h
        refine ⟨by simpa using hr, fun p' hp' => ?_⟩
        obtain ⟨p', rfl⟩ := Nat.exists_eq_succ_of_ne_zero (by omega : p' ≠ 0)
        simpa using hlast p' (by omega)
      · rintro ⟨hp, hmax⟩
        have hle : ¬p < r + 1 := fun hlt => hmax (r + 1) hlt (by simpa using hr)
        obtain ⟨p, rfl⟩ := Nat.exists_eq_succ_of_ne_zero (by omega : p ≠ 0)
        have hge : ¬r < p := fun hlt => hlast p hlt (by simpa using hp)
        exact congrArg some (by omega)
    | none =>
      have hnot : ∀ i : Nat, ns[i]? ≠ some name :=
        fun i hi => lastIdx?_eq_none_iff.mp hrest (List.mem_of_getElem? hi)
      constructor
      · intro h
        obtain ⟨hn, rfl⟩ : n = name ∧ p = 0 := by simpa [eq_comm] using h
        refine ⟨by simp [hn], fun p' hp' => ?_⟩
        obtain ⟨p', rfl⟩ := Nat.exists_eq_succ_of_ne_zero (by omega : p' ≠ 0)
        simpa using hnot p'
      · rintro ⟨hp, -⟩
        cases p with
        | zero => simpa using hp
        | succ p => exact absurd (by simpa using hp) (hnot p)

/-- The literals for the places of the column list of an insertion: those of the first row, if
it is as long as the list, and none at all otherwise. -/
def Insertion.row (i : Insertion) : List (Option Literal) :=
  (i.values.filter fun row => row.length == i.columns.length).getD
    (List.replicate i.columns.length none)

/-- There is one literal, or none, for each place of the list. -/
theorem Insertion.length_row (i : Insertion) : i.row.length = i.columns.length := by
  unfold Insertion.row
  cases h : i.values.filter fun row => row.length == i.columns.length with
  | some row => simpa using (Option.filter_eq_some_iff.mp h).2
  | none => simp

/-- What an insertion holds for a column: nothing if the column is not listed, otherwise the
literal at its last place in the list, if there is one. -/
def Insertion.listing? (i : Insertion) (column : String) : Option (Option Literal) :=
  (lastIdx? column i.columns).map fun p => i.row[p]?.join

/-- A listing is the literal at the last place of the column, if there is one. -/
theorem Insertion.listing?_eq_some_iff {i : Insertion} {column : String}
    {v : Option Literal} :
    i.listing? column = some v ↔ ∃ p : Nat, i.columns[p]? = some column ∧
      (∀ p' : Nat, p < p' → i.columns[p']? ≠ some column) ∧ i.row[p]?.join = v := by
  rw [Insertion.listing?, Option.map_eq_some_iff]
  constructor
  · rintro ⟨p, hp, hv⟩
    obtain ⟨hcolumn, hlast⟩ := lastIdx?_eq_some_iff.mp hp
    exact ⟨p, hcolumn, hlast, hv⟩
  · rintro ⟨p, hcolumn, hlast, hv⟩
    exact ⟨p, lastIdx?_eq_some_iff.mpr ⟨hcolumn, hlast⟩, hv⟩

namespace Collection

/-- The listed columns take the literals for their places. -/
theorem listedColumns_eq_zipWith (i : Insertion) :
    listedColumns i = List.zipWith listedColumn i.columns i.row := by
  unfold listedColumns Insertion.row
  cases i.values.filter fun row => row.length == i.columns.length with
  | some row => rfl
  | none =>
    simp only [Option.getD_none]
    induction i.columns with
    | nil => rfl
    | cons n ns ih => rw [List.length_cons, List.replicate_succ, List.zipWith_cons_cons, ← ih,
        List.map_cons]

theorem map_name_zipWith (ns : List String) (row : List (Option Literal))
    (hlength : row.length = ns.length) :
    (List.zipWith listedColumn ns row).map (·.name) = ns := by
  induction ns generalizing row with
  | nil => simp
  | cons n ns ih =>
    obtain ⟨v, row, rfl⟩ := List.exists_cons_of_length_eq_add_one hlength
    rw [List.zipWith_cons_cons, List.map_cons, ih row (by simpa using hlength)]
    rfl

/-- The listed columns carry the names of the list. -/
theorem map_name_listedColumns (i : Insertion) :
    (listedColumns i).map (·.name) = i.columns := by
  rw [listedColumns_eq_zipWith]
  exact map_name_zipWith i.columns i.row i.length_row

/-- The last of the columns with a given name stands at the last position of the name. -/
theorem find?_reverse_zipWith (name : String) (ns : List String) (row : List (Option Literal))
    (hlength : row.length = ns.length) :
    (List.zipWith listedColumn ns row).reverse.find? (·.name == name)
      = (lastIdx? name ns).map fun p => listedColumn name row[p]?.join := by
  induction ns generalizing row with
  | nil => simp [lastIdx?]
  | cons n ns ih =>
    obtain ⟨v, row, rfl⟩ := List.exists_cons_of_length_eq_add_one hlength
    rw [List.zipWith_cons_cons, List.reverse_cons, List.find?_append,
      ih row (by simpa using hlength), lastIdx?]
    cases lastIdx? name ns with
    | some p => simp
    | none =>
      by_cases hn : n = name
      · simp [hn, listedColumn]
      · simp [hn, listedColumn]

/-- The last listed column of a name carries what the insertion holds for it. -/
theorem find?_reverse_listedColumns (i : Insertion) (name : String) :
    (listedColumns i).reverse.find? (·.name == name)
      = (i.listing? name).map (listedColumn name) := by
  rw [listedColumns_eq_zipWith, find?_reverse_zipWith name i.columns i.row i.length_row,
    Insertion.listing?, Option.map_map]
  rfl

end Collection

end SqlAnalysis.Sql
