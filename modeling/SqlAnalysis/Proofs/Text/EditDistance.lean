import Mathlib.Order.Lattice.Nat
import SqlAnalysis.Text.EditDistance

/-!
# Edit distance is the least number of edits

An edit inserts, deletes or replaces one character anywhere in a text.  The rows of the edit
distance are computed from the fronts of both texts on, so they hold the distances of prefixes,
each of which ends in the two characters that are compared last.  Turned around, a prefix begins
with its last character, and its distance to another one is a recursion on the heads of two lists.
That recursion is first shown to find a cheapest way, and then to be what the rows hold.

## Main definitions

* `Edit`, `Edits` — one edit, and a number of them in a row.
* `levenshtein` — the least number of edits from one text to another.
* `headDistance` — the recursion on the heads of two texts.
* `rowFrom` — the row that belongs to a prefix.

## Main results

* `Edit.headDistance_le` — one edit changes no distance by more than one.
* `foldl_nextRow` — the rows hold the distances of the prefixes.
* `editDistance_eq_levenshtein` — **the edit distance is the least number of edits.**
* `levenshtein_eq_zero_iff` — only equal texts need no edit.
-/

namespace SqlAnalysis.Text

/-! ### Edits -/

/-- One text becomes another by inserting, deleting or replacing one character. -/
inductive Edit : List Char → List Char → Prop
  | insert (u : List Char) (c : Char) (v : List Char) : Edit (u ++ v) (u ++ c :: v)
  | delete (u : List Char) (c : Char) (v : List Char) : Edit (u ++ c :: v) (u ++ v)
  | replace (u : List Char) (c d : Char) (v : List Char) : Edit (u ++ c :: v) (u ++ d :: v)

/-- One text becomes another by a number of edits. -/
inductive Edits : Nat → List Char → List Char → Prop
  | none (a : List Char) : Edits 0 a a
  | step {n : Nat} {a b c : List Char} (hedit : Edit a b) (hrest : Edits n b c) : Edits (n + 1) a c

/-- The least number of insertions, deletions and replacements of one character that turn one text
into another. -/
noncomputable def levenshtein (a b : List Char) : Nat :=
  sInf {n | Edits n a b}

theorem Edit.cons (x : Char) {a b : List Char} (h : Edit a b) : Edit (x :: a) (x :: b) := by
  cases h with
  | insert u c v => exact .insert (x :: u) c v
  | delete u c v => exact .delete (x :: u) c v
  | replace u c d v => exact .replace (x :: u) c d v

theorem Edit.reverse {a b : List Char} (h : Edit a b) : Edit a.reverse b.reverse := by
  cases h with
  | insert u c v => simpa using Edit.insert v.reverse c u.reverse
  | delete u c v => simpa using Edit.delete v.reverse c u.reverse
  | replace u c d v => simpa using Edit.replace v.reverse c d u.reverse

theorem Edits.cons (x : Char) {n : Nat} {a b : List Char} (h : Edits n a b) :
    Edits n (x :: a) (x :: b) := by
  induction h with
  | none a => exact .none (x :: a)
  | step hedit _ ih => exact .step (hedit.cons x) ih

theorem Edits.reverse {n : Nat} {a b : List Char} (h : Edits n a b) :
    Edits n a.reverse b.reverse := by
  induction h with
  | none a => exact .none a.reverse
  | step hedit _ ih => exact .step hedit.reverse ih

/-! ### Distances by the heads -/

/-- The distance of two texts by their heads: one of the heads is left out, or they are set
against each other. -/
def headDistance : List Char → List Char → Nat
  | [], b => b.length
  | a, [] => a.length
  | x :: a, y :: b =>
    min (min (headDistance (x :: a) b) (headDistance a (y :: b)) + 1)
      (headDistance a b + if x = y then 0 else 1)
  termination_by a b => a.length + b.length

@[simp] theorem headDistance_nil_left (b : List Char) : headDistance [] b = b.length := by
  rw [headDistance]

@[simp] theorem headDistance_nil_right (a : List Char) : headDistance a [] = a.length := by
  cases a <;> simp [headDistance]

theorem headDistance_cons_cons (x y : Char) (a b : List Char) :
    headDistance (x :: a) (y :: b)
      = min (min (headDistance (x :: a) b) (headDistance a (y :: b)) + 1)
          (headDistance a b + if x = y then 0 else 1) := by
  rw [headDistance]

theorem headDistance_self (a : List Char) : headDistance a a = 0 := by
  induction a with
  | nil => simp
  | cons x a ih =>
    rw [headDistance_cons_cons, ih, if_pos rfl]
    exact Nat.min_zero _

/-- A character more in front costs at most one edit. -/
theorem headDistance_cons_le (x : Char) (a c : List Char) :
    headDistance (x :: a) c ≤ headDistance a c + 1 := by
  cases c with
  | nil => simp
  | cons z c =>
    rw [headDistance_cons_cons]
    omega

theorem headDistance_le_cons (a : List Char) (z : Char) (c : List Char) :
    headDistance a (z :: c) ≤ headDistance a c + 1 := by
  cases a with
  | nil => simp
  | cons x a =>
    rw [headDistance_cons_cons]
    omega

/-- A character less in front costs at most one edit. -/
theorem headDistance_le_cons_left (x : Char) (a c : List Char) :
    headDistance a c ≤ headDistance (x :: a) c + 1 := by
  induction c with
  | nil =>
    rw [headDistance_nil_right, headDistance_nil_right, List.length_cons]
    omega
  | cons z c ih =>
    have hshort := headDistance_le_cons a z c
    rw [headDistance_cons_cons]
    omega

/-- Another character in front costs at most one edit. -/
theorem headDistance_replace_le (x y : Char) (a c : List Char) :
    headDistance (x :: a) c ≤ headDistance (y :: a) c + 1 := by
  induction c with
  | nil => simp
  | cons z c ih =>
    rw [headDistance_cons_cons, headDistance_cons_cons]
    split <;> split <;> omega

/-- What costs at most one edit still does behind the same character. -/
theorem headDistance_cons_le_cons {a b : List Char}
    (h : ∀ c, headDistance a c ≤ headDistance b c + 1) (x : Char) (c : List Char) :
    headDistance (x :: a) c ≤ headDistance (x :: b) c + 1 := by
  induction c with
  | nil => simpa using h []
  | cons z c ih =>
    have hboth := h c
    have hleft := h (z :: c)
    rw [headDistance_cons_cons, headDistance_cons_cons]
    omega

/-- One edit changes no distance by more than one. -/
theorem Edit.headDistance_le {a b : List Char} (h : Edit a b) (c : List Char) :
    headDistance a c ≤ headDistance b c + 1 := by
  have hbehind : ∀ {a b : List Char}, (∀ c, headDistance a c ≤ headDistance b c + 1) →
      ∀ (u c : List Char), headDistance (u ++ a) c ≤ headDistance (u ++ b) c + 1 := by
    intro a b h u
    induction u with
    | nil => exact h
    | cons x u ih => exact headDistance_cons_le_cons ih x
  cases h with
  | insert u x v => exact hbehind (headDistance_le_cons_left x v) u c
  | delete u x v => exact hbehind (headDistance_cons_le x v) u c
  | replace u x y v => exact hbehind (headDistance_replace_le x y v) u c

/-- No number of edits is below the distance. -/
theorem Edits.headDistance_le {n : Nat} {a b : List Char} (h : Edits n a b) :
    headDistance a b ≤ n := by
  induction h with
  | none a => rw [headDistance_self]
  | step hedit _ ih =>
    have hone := hedit.headDistance_le
    exact (hone _).trans (Nat.add_le_add_right ih 1)

theorem edits_nil_left (b : List Char) : Edits b.length [] b := by
  induction b with
  | nil => exact .none []
  | cons y b ih => exact .step (.insert [] y []) (ih.cons y)

theorem edits_nil_right (a : List Char) : Edits a.length a [] := by
  induction a with
  | nil => exact .none []
  | cons x a ih => exact .step (.delete [] x a) ih

/-- As many edits as the distance says do turn one text into the other. -/
theorem edits_headDistance (a b : List Char) : Edits (headDistance a b) a b := by
  fun_induction headDistance a b with
  | case1 b => exact edits_nil_left b
  | case2 a => exact edits_nil_right a
  | case3 x a y b ihb iha ih =>
    -- the first edit is the one at which the least distance is attained
    rcases Nat.le_total (min (headDistance (x :: a) b) (headDistance a (y :: b)) + 1)
      (headDistance a b + if x = y then 0 else 1) with hle | hle
    · rw [Nat.min_eq_left hle]
      rcases Nat.le_total (headDistance (x :: a) b) (headDistance a (y :: b)) with hle | hle
      · rw [Nat.min_eq_left hle]
        exact .step (.insert [] y (x :: a)) (ihb.cons y)
      · rw [Nat.min_eq_right hle]
        exact .step (.delete [] x a) iha
    · rw [Nat.min_eq_right hle]
      split
      · rename_i hxy
        subst hxy
        exact ih.cons x
      · exact .step (.replace [] x y a) (ih.cons y)

/-! ### What the rows hold -/

/-- The distances of `p` to `q`, and to `q` with the characters that follow set in front of it one
after the other. -/
def rowFrom (p q : List Char) : List Char → List Nat
  | [] => [headDistance p q]
  | c :: b => headDistance p q :: rowFrom p (c :: q) b

/-- The first row counts insertions. -/
theorem rowFrom_nil_left (q b : List Char) :
    rowFrom [] q b = List.range' q.length (b.length + 1) := by
  induction b generalizing q with
  | nil => simp [rowFrom]
  | cons c b ih => simp [rowFrom, ih, List.range'_succ]

theorem rowFrom_eq_cons (p q b : List Char) :
    rowFrom p q b = headDistance p q :: (rowFrom p q b).tail := by
  cases b <;> rfl

/-- The entries to the right of the first one are those of the next row. -/
theorem nextEntries_rowFrom (x : Char) (p q b : List Char) :
    nextEntries x (headDistance (x :: p) q) (rowFrom p q b) b = (rowFrom (x :: p) q b).tail := by
  induction b generalizing q with
  | nil => rfl
  | cons c b ih =>
    have hentry : min (min (headDistance (x :: p) q) (headDistance p (c :: q)) + 1)
        (headDistance p q + if x = c then 0 else 1) = headDistance (x :: p) (c :: q) :=
      (headDistance_cons_cons x c p q).symm
    rw [rowFrom, rowFrom_eq_cons p (c :: q) b, nextEntries]
    simp only [hentry]
    rw [← rowFrom_eq_cons p (c :: q) b, ih, ← rowFrom_eq_cons (x :: p) (c :: q) b]
    rfl

theorem nextRow_rowFrom (x : Char) (p b : List Char) :
    nextRow b (rowFrom p [] b) x = rowFrom (x :: p) [] b := by
  have hfirst : headDistance p [] + 1 = headDistance (x :: p) [] := by simp
  rw [rowFrom_eq_cons p [] b, nextRow, ← rowFrom_eq_cons p [] b, hfirst, nextEntries_rowFrom,
    ← rowFrom_eq_cons]

/-- The rows hold the distances of the prefixes, turned around. -/
theorem foldl_nextRow (a p b : List Char) :
    a.foldl (nextRow b) (rowFrom p [] b) = rowFrom (a.reverse ++ p) [] b := by
  induction a generalizing p with
  | nil => rfl
  | cons x a ih =>
    rw [List.foldl_cons, nextRow_rowFrom, ih, List.reverse_cons, List.append_assoc]
    rfl

theorem getLastD_rowFrom (p q b : List Char) :
    (rowFrom p q b).getLastD 0 = headDistance p (b.reverse ++ q) := by
  induction b generalizing q with
  | nil => rfl
  | cons c b ih =>
    have hlast : (rowFrom p q (c :: b)).getLastD 0 = (rowFrom p (c :: q) b).getLastD 0 := by
      rw [rowFrom, rowFrom_eq_cons p (c :: q) b]
      rfl
    rw [hlast, ih, List.reverse_cons, List.append_assoc]
    rfl

/-- The edit distance is the distance of the texts read backwards. -/
theorem editDistance_eq_headDistance (a b : List Char) :
    editDistance a b = headDistance a.reverse b.reverse := by
  have hstart : List.range (b.length + 1) = rowFrom [] [] b := by
    rw [rowFrom_nil_left, List.range_eq_range']
    rfl
  rw [editDistance, hstart, foldl_nextRow, getLastD_rowFrom, List.append_nil, List.append_nil]

/-- **The edit distance is the least number of edits.** -/
theorem editDistance_eq_levenshtein (a b : List Char) : editDistance a b = levenshtein a b := by
  have hedits : Edits (editDistance a b) a b := by
    have hback := (edits_headDistance a.reverse b.reverse).reverse
    rwa [List.reverse_reverse, List.reverse_reverse, ← editDistance_eq_headDistance] at hback
  refine le_antisymm ?_ (Nat.sInf_le hedits)
  -- the least number of edits also leads from one text to the other when both are turned around
  have hne : {n | Edits n a b}.Nonempty := ⟨editDistance a b, hedits⟩
  have hleast : Edits (levenshtein a b) a b := Nat.sInf_mem hne
  rw [editDistance_eq_headDistance]
  exact hleast.reverse.headDistance_le

/-- Only equal texts need no edit. -/
theorem levenshtein_eq_zero_iff {a b : List Char} : levenshtein a b = 0 ↔ a = b := by
  constructor
  · intro hzero
    have hne : {n | Edits n a b}.Nonempty := ⟨headDistance a b, edits_headDistance a b⟩
    have hleast : Edits (levenshtein a b) a b := Nat.sInf_mem hne
    rw [hzero] at hleast
    cases hleast
    rfl
  · rintro rfl
    exact Nat.le_zero.mp (Nat.sInf_le (Edits.none a))

end SqlAnalysis.Text
