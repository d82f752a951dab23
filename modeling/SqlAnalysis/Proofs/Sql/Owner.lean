import SqlAnalysis.Sql.Collection

/-!
# The owner of a column

The tables of a statement are changed one column at a time, each time at the table that the
column belongs to.  Which table that is depends on the names and aliases alone, and these never
change.  So the changes of all tables are, for each table, the changes of what it owns, in the
same order.

## Main definitions

* `owner?` — the position of the table that a column with a given qualifier belongs to.
* `Keeps` — a change that leaves the name and the alias of a table alone.

## Main results

* `changeOwner_eq_mapIdx` — changing the owner changes the table at its position.
* `foldl_changeOwner` — **the changes of all tables are, for each table, those it owns.**
-/

namespace SqlAnalysis.Sql.Collection

/-- The position of the table that a column with this qualifier belongs to: the first table that
answers to it; without a qualifier, the only table. -/
def owner? (tables : List TableUse) : Option String → Option Nat
  | some q => tables.findIdx? (·.answersTo q)
  | none => if tables.length = 1 then some 0 else none

/-- A list is not changed by changing none of its elements. -/
theorem mapIdx_id {α : Type} (l : List α) : (l.mapIdx fun _ a => a) = l := by
  simp [List.mapIdx_eq_iff]

/-- Changing the first element that satisfies `p` changes the element at its position. -/
theorem changeFirst_eq_mapIdx {α : Type} (p : α → Bool) (f : α → α) (l : List α) :
    changeFirst p f l = l.mapIdx fun k a => if l.findIdx? p = some k then f a else a := by
  induction l with
  | nil => rfl
  | cons a as ih =>
    rw [changeFirst, List.mapIdx_cons, List.findIdx?_cons]
    by_cases ha : p a
    · simp [ha, mapIdx_id]
    · simp [ha, ih]

/-- Changing the owner changes the table at its position. -/
theorem changeOwner_eq_mapIdx (qualifier : Option String) (f : TableUse → TableUse)
    (ts : List TableUse) :
    changeOwner qualifier f ts
      = ts.mapIdx fun k t => if owner? ts qualifier = some k then f t else t := by
  cases qualifier with
  | some q => exact changeFirst_eq_mapIdx _ f ts
  | none =>
    match ts with
    | [] => rfl
    | [t] => rfl
    | t :: t' :: ts => simp [changeOwner, owner?, mapIdx_id]

/-! ### Changes that keep names -/

/-- A change leaves the name and the alias of a table alone. -/
def Keeps (f : TableUse → TableUse) : Prop :=
  ∀ t, (f t).name = t.name ∧ (f t).aliasName = t.aliasName

theorem Keeps.comp {f g : TableUse → TableUse} (hg : Keeps g) (hf : Keeps f) :
    Keeps fun t => g (f t) :=
  fun t => ⟨(hg (f t)).1.trans (hf t).1, (hg (f t)).2.trans (hf t).2⟩

/-- Changes in a row keep names if each of them does. -/
theorem Keeps.foldl {α : Type} {f : TableUse → α → TableUse} (hf : ∀ x, Keeps fun t => f t x)
    (xs : List α) : Keeps fun t => xs.foldl f t := by
  intro t
  induction xs generalizing t with
  | nil => exact ⟨rfl, rfl⟩
  | cons x xs ih => exact Keeps.comp ih (hf x) t

theorem keeps_addReference (column : String) : Keeps (addReference column) := by
  intro t
  unfold addReference
  split <;> exact ⟨rfl, rfl⟩

theorem keeps_putColumn (c : ColumnUse) : Keeps fun t => putColumn t c := by
  intro t
  simp only [putColumn]
  split <;> exact ⟨rfl, rfl⟩

theorem keeps_addComparison (c : LiteralComparison) : Keeps (addComparison c) :=
  fun _ => ⟨rfl, rfl⟩

/-- A qualifier that names a table still names it after a change that keeps names. -/
theorem Keeps.answersTo {f : TableUse → TableUse} (hf : Keeps f) (t : TableUse) (q : String) :
    (f t).answersTo q = t.answersTo q := by
  unfold TableUse.answersTo
  rw [(hf t).1, (hf t).2]

/-- The first element that satisfies `p` keeps its position under changes that do not matter
for `p`. -/
theorem findIdx?_mapIdx {α : Type} {p : α → Bool} {f : Nat → α → α}
    (hf : ∀ k a, p (f k a) = p a) (l : List α) : (l.mapIdx f).findIdx? p = l.findIdx? p := by
  induction l generalizing f with
  | nil => rfl
  | cons a as ih =>
    rw [List.mapIdx_cons, List.findIdx?_cons, List.findIdx?_cons, hf,
      ih fun k b => hf (k + 1) b]

/-- Owners stay the same under changes that keep names. -/
theorem owner?_mapIdx {f : Nat → TableUse → TableUse} (hf : ∀ k, Keeps (f k))
    (ts : List TableUse) (qualifier : Option String) :
    owner? (ts.mapIdx f) qualifier = owner? ts qualifier := by
  cases qualifier with
  | some q => exact findIdx?_mapIdx (fun k t => (hf k).answersTo t q) ts
  | none => simp only [owner?, List.length_mapIdx]

/-- A change of one table keeps names if the change does. -/
theorem Keeps.ite {f : TableUse → TableUse} (hf : Keeps f) (c : Prop) [Decidable c] :
    Keeps fun t => if c then f t else t := by
  intro t
  by_cases hc : c
  · simpa only [if_pos hc] using hf t
  · simp only [if_neg hc, and_self]

/-- **The changes of all tables are, for each table, the changes of what it owns**, in the same
order. -/
theorem foldl_changeOwner {α : Type} (qualifier : α → Option String)
    {f : α → TableUse → TableUse} (hf : ∀ x, Keeps (f x)) (xs : List α) (ts : List TableUse) :
    xs.foldl (fun ts x => changeOwner (qualifier x) (f x) ts) ts
      = ts.mapIdx fun k t =>
          (xs.filter fun x => owner? ts (qualifier x) == some k).foldl (fun t x => f x t) t := by
  induction xs generalizing ts with
  | nil => exact (mapIdx_id ts).symm
  | cons x xs ih =>
    rw [List.foldl_cons, ih, changeOwner_eq_mapIdx, List.mapIdx_mapIdx]
    congr 1
    funext k t
    simp only [Function.comp_apply]
    -- the change at `x` moves no owner
    have howner : ∀ y, owner? (ts.mapIdx fun k t =>
        if owner? ts (qualifier x) = some k then f x t else t) (qualifier y)
          = owner? ts (qualifier y) :=
      fun y => owner?_mapIdx (fun _ => (hf x).ite _) ts (qualifier y)
    simp only [howner, List.filter_cons, beq_iff_eq]
    split <;> rfl

end SqlAnalysis.Sql.Collection
