import Mathlib.Data.List.DropRight
import SqlAnalysis.Proofs.Text.Slice

/-!
# Lines and columns

A place in a text is named by a line and a column or by an offset.  The text in front of a boundary
decides both names: the line counts its line feeds, the column its characters behind the last of
them, and the offset its bytes.  So the two ways to name a place translate into each other without
loss, and they put the places of a text into the same order.

## Main definitions

* `lineOf a`, `columnOf a` — the line and the column of the place behind the text `a`.

## Main results

* `offsetOf?_eq_some_iff` — **the offset of a line and a column is the length of the text in front
  of the place they name.**
* `isSome_offsetOf?_iff` — which lines and columns name a place.
* `lineOf_columnOf_lt` — what stands between two places moves the line or the column forward.
* `offsetOf?_bijection` — **lines and columns are in bijection with boundaries, in order.**
-/

namespace SqlAnalysis.Text

/-- The line of the place behind the text `a`, counted from one. -/
def lineOf (a : List Char) : Nat :=
  1 + a.count '\n'

/-- The column of the place behind the text `a`, counted from one. -/
def columnOf (a : List Char) : Nat :=
  1 + (a.rtakeWhile (· != '\n')).length

@[simp] theorem lineOf_nil : lineOf [] = 1 := rfl

@[simp] theorem columnOf_nil : columnOf [] = 1 := rfl

/-! ### The place behind two texts -/

theorem lineOf_append (a w : List Char) : lineOf (a ++ w) = lineOf a + w.count '\n' := by
  rw [lineOf, lineOf, List.count_append, Nat.add_assoc]

/-- Behind a line feed the column does not depend on what is in front of it. -/
theorem columnOf_append_of_mem (a : List Char) {w : List Char} (hw : '\n' ∈ w) :
    columnOf (a ++ w) = columnOf w := by
  have hstop : (w.reverse.takeWhile (· != '\n')).length ≠ w.reverse.length := by
    intro hlength
    have hall := List.takeWhile_eq_self_iff.mp ((List.takeWhile_sublist _).eq_of_length hlength)
    have hfeed := hall '\n' (List.mem_reverse.mpr hw)
    simp at hfeed
  simp only [columnOf, List.rtakeWhile, List.reverse_append, List.length_reverse]
  rw [List.takeWhile_append, if_neg hstop]

/-- Without a line feed every character is one column. -/
theorem columnOf_append_of_notMem (a : List Char) {w : List Char} (hw : '\n' ∉ w) :
    columnOf (a ++ w) = columnOf a + w.length := by
  have hall : ∀ c ∈ w.reverse, (c != '\n') = true := by
    intro c hc
    rw [bne_iff_ne]
    rintro rfl
    exact hw (List.mem_reverse.mp hc)
  simp only [columnOf, List.rtakeWhile, List.reverse_append, List.length_reverse]
  rw [List.takeWhile_append_of_pos hall, List.length_append, List.length_reverse]
  omega

/-- What stands between two places moves the line or the column forward. -/
theorem lineOf_columnOf_lt (a : List Char) {w : List Char} (hw : w ≠ []) :
    lineOf a < lineOf (a ++ w) ∨
      lineOf a = lineOf (a ++ w) ∧ columnOf a < columnOf (a ++ w) := by
  rw [lineOf_append]
  by_cases hfeed : '\n' ∈ w
  · have hcount := List.count_pos_iff.mpr hfeed
    left
    omega
  · have hlength := List.length_pos_iff.mpr hw
    right
    rw [List.count_eq_zero.mpr hfeed, columnOf_append_of_notMem a hfeed]
    omega

theorem lineOf_cons (c : Char) (a : List Char) :
    lineOf (c :: a) = if c = '\n' then lineOf a + 1 else lineOf a := by
  rw [lineOf, lineOf, List.count_cons]
  split <;> simp_all [Nat.add_assoc]

/-- A character counts for the column unless it is a line feed or in front of one. -/
theorem columnOf_cons (c : Char) (a : List Char) :
    columnOf (c :: a) = if c = '\n' ∨ '\n' ∈ a then columnOf a else columnOf a + 1 := by
  have hfront : c :: a = [c] ++ a := rfl
  by_cases hfeed : '\n' ∈ a
  · rw [if_pos (.inr hfeed), hfront, columnOf_append_of_mem [c] hfeed]
  · have hrest := columnOf_append_of_notMem [] hfeed
    rw [List.nil_append, columnOf_nil] at hrest
    rw [hfront, columnOf_append_of_notMem [c] hfeed, hrest]
    by_cases hc : c = '\n'
    · subst hc
      rw [if_pos (.inl rfl)]
      rfl
    · have hone : columnOf [c] = 2 :=
        columnOf_append_of_notMem [] (w := [c]) (by simpa using Ne.symm hc)
      rw [if_neg (by simp [hc, hfeed]), hone]
      omega

theorem lineOf_le (a : List Char) : lineOf a ≤ a.length + 1 := by
  have hcount := List.count_le_length (a := '\n') (l := a)
  rw [lineOf]
  omega

theorem columnOf_le (a : List Char) : columnOf a ≤ a.length + 1 := by
  have hsuffix := (List.rtakeWhile_suffix (· != '\n') a).length_le
  rw [columnOf]
  omega

/-! ### From places to offsets -/

theorem offsetOf?_one_one (t : List Char) : offsetOf? 1 1 t = some 0 := by
  cases t <;> rfl

/-- In the first line every character that is no line feed is one column. -/
theorem offsetOf?_one_cons (column : Nat) {c : Char} (hc : c ≠ '\n') (t : List Char) :
    offsetOf? 1 (column + 2) (c :: t)
      = (offsetOf? 1 (column + 1) t).map (· + c.utf8Size) := by
  simp [offsetOf?, hc]

/-- Every line but the first stands behind a line feed, where one line fewer is to be passed. -/
theorem offsetOf?_cons (line column : Nat) (c : Char) (t : List Char) :
    offsetOf? (line + 2) (column + 1) (c :: t)
      = (offsetOf? (if c = '\n' then line + 1 else line + 2) (column + 1) t).map
          (· + c.utf8Size) := by
  by_cases hc : c = '\n' <;> simp [offsetOf?, hc]

/-- **The place behind the front of a text has the length of the front as its offset.** -/
theorem offsetOf?_place (a b : List Char) :
    offsetOf? (lineOf a) (columnOf a) (a ++ b) = some (byteLength a) := by
  induction a with
  | nil => exact offsetOf?_one_one b
  | cons c a ih =>
    obtain ⟨line, hline⟩ : ∃ line, lineOf a = line + 1 := ⟨_, Nat.add_comm _ _⟩
    obtain ⟨column, hcolumn⟩ : ∃ column, columnOf a = column + 1 := ⟨_, Nat.add_comm _ _⟩
    have hlength : byteLength (c :: a) = byteLength a + c.utf8Size := by
      rw [byteLength_cons, Nat.add_comm]
    rw [lineOf_cons, columnOf_cons, hlength, List.cons_append]
    by_cases hc : c = '\n'
    · rw [if_pos hc, if_pos (.inl hc), hline, hcolumn, offsetOf?_cons, if_pos hc, ← hline,
        ← hcolumn, ih]
      rfl
    · rw [if_neg hc]
      by_cases hfeed : '\n' ∈ a
      · -- the place is behind a line feed, so not in the first line
        have hcount := List.count_pos_iff.mpr hfeed
        obtain ⟨k, rfl⟩ : ∃ k, line = k + 1 := ⟨line - 1, by unfold lineOf at hline; omega⟩
        rw [if_pos (.inr hfeed), hline, hcolumn, offsetOf?_cons, if_neg hc, ← hline, ← hcolumn, ih]
        rfl
      · have hfirst : lineOf a = 1 := by rw [lineOf, List.count_eq_zero.mpr hfeed]
        rw [if_neg (by simp [hc, hfeed]), hfirst, hcolumn, offsetOf?_one_cons column hc, ← hcolumn,
          ← hfirst, ih]
        rfl

/-! ### From offsets to places -/

/-- **The offset of a line and a column is the length of the text in front of the place that they
name.** -/
theorem offsetOf?_eq_some_iff {line column n : Nat} {t : List Char} :
    offsetOf? line column t = some n ↔
      ∃ a b, t = a ++ b ∧ byteLength a = n ∧ line = lineOf a ∧ column = columnOf a := by
  constructor
  · intro h
    fun_induction offsetOf? line column t generalizing n with
    | case1 | case2 | case4 | case5 => simp at h
    | case3 t =>
      rw [← Option.some.inj h]
      exact ⟨[], t, rfl, rfl, rfl, rfl⟩
    | case6 column c t hc ih =>
      obtain ⟨m, hm, rfl⟩ := Option.map_eq_some_iff.mp h
      obtain ⟨a, b, rfl, rfl, hline, hcolumn⟩ := ih hm
      -- the place is in the first line, so no line feed stands in front of it
      have hfeed : '\n' ∉ a := by
        intro hmem
        have hcount := List.count_pos_iff.mpr hmem
        unfold lineOf at hline
        omega
      refine ⟨c :: a, b, rfl, by rw [byteLength_cons, Nat.add_comm], ?_, ?_⟩
      · rw [lineOf_cons, if_neg hc, ← hline]
      · rw [columnOf_cons, if_neg (by simp [hc, hfeed]), ← hcolumn]
    | case7 line column t ih =>
      obtain ⟨m, hm, rfl⟩ := Option.map_eq_some_iff.mp h
      obtain ⟨a, b, rfl, rfl, hline, hcolumn⟩ := ih hm
      refine ⟨'\n' :: a, b, rfl, by rw [byteLength_cons, Nat.add_comm], ?_, ?_⟩
      · rw [lineOf_cons, if_pos rfl, ← hline]
      · rw [columnOf_cons, if_pos (.inl rfl), ← hcolumn]
    | case8 line column c t hc ih =>
      obtain ⟨m, hm, rfl⟩ := Option.map_eq_some_iff.mp h
      obtain ⟨a, b, rfl, rfl, hline, hcolumn⟩ := ih hm
      have hfeed : '\n' ∈ a := by
        rw [← List.count_pos_iff]
        unfold lineOf at hline
        omega
      refine ⟨c :: a, b, rfl, by rw [byteLength_cons, Nat.add_comm], ?_, ?_⟩
      · rw [lineOf_cons, if_neg hc, ← hline]
      · rw [columnOf_cons, if_pos (.inr hfeed), ← hcolumn]
  · rintro ⟨a, b, rfl, rfl, rfl, rfl⟩
    exact offsetOf?_place a b

/-- A line and a column name a place exactly if there is such a line and it has so many characters
that the column is at most one behind the last. -/
theorem isSome_offsetOf?_iff (i j : Nat) (t : List Char) :
    (offsetOf? (i + 1) (j + 1) t).isSome ↔
      ∃ content, (t.splitOn '\n')[i]? = some content ∧ j ≤ content.length := by
  induction t generalizing i j with
  | nil =>
    cases i with
    | zero => cases j <;> simp [offsetOf?]
    | succ i => simp [offsetOf?]
  | cons c t ih =>
    obtain ⟨p, ps, hlines⟩ := List.exists_cons_of_ne_nil (List.splitOn_ne_nil '\n' t)
    rw [hlines] at ih
    rw [List.splitOn_cons_eq_if_modifyHead, hlines]
    by_cases hc : c = '\n'
    · cases i with
      | zero => cases j <;> simp [offsetOf?, hc]
      | succ i => simp [offsetOf?_cons, hc, ih]
    · cases i with
      | zero =>
        cases j with
        | zero => simp [offsetOf?_one_one, hc]
        | succ j => simp [offsetOf?_one_cons j hc, hc, ih]
      | succ i => simp [offsetOf?_cons, hc, ih]

/-! ### The bijection -/

/-- Of two places of a text the one further on is in a later line, or further right in the same
line. -/
theorem byteLength_lt_iff {a b a' b' : List Char} (h : a ++ b = a' ++ b') :
    byteLength a < byteLength a' ↔
      lineOf a < lineOf a' ∨ lineOf a = lineOf a' ∧ columnOf a < columnOf a' := by
  rcases List.append_eq_append_iff.mp h with ⟨w, rfl, -⟩ | ⟨w, rfl, -⟩
  · by_cases hw : w = []
    · simp [hw]
    · have hplace := lineOf_columnOf_lt a hw
      have hlength := byteLength_pos hw
      rw [byteLength_append]
      omega
  · -- the second place is the first one or in front of it
    by_cases hw : w = []
    · simp [hw]
    · have hplace := lineOf_columnOf_lt a' hw
      have hlength := byteLength_pos hw
      rw [byteLength_append]
      omega

/-- **Lines and columns are in bijection with boundaries, in order.**  A boundary has exactly one
line and column, counted from the text in front of it.  Every line and column that has an offset
has a boundary, and those without are none of the text: a zero, a line behind the last, or a column
more than one behind the last character of its line.  The later place has the larger offset. -/
theorem offsetOf?_bijection (t : List Char) :
    (∀ a b, t = a ++ b → ∀ line column,
      offsetOf? line column t = some (byteLength a) ↔
        line = 1 + a.count '\n' ∧ column = 1 + (a.rtakeWhile (· != '\n')).length) ∧
    (∀ line column n, offsetOf? line column t = some n → IsBoundary n t) ∧
    (∀ line column, offsetOf? line column t = none ↔
      line = 0 ∨ column = 0 ∨ (t.splitOn '\n').length < line ∨
        ∃ content, (t.splitOn '\n')[line - 1]? = some content ∧ content.length + 1 < column) ∧
    ∀ line column n line' column' n', offsetOf? line column t = some n →
      offsetOf? line' column' t = some n' →
        (n < n' ↔ line < line' ∨ line = line' ∧ column < column') := by
  refine ⟨?_, fun _ _ _ h => isBoundary_of_offsetOf? h, ?_, ?_⟩
  · intro a b ht line column
    constructor
    · intro h
      obtain ⟨a', b', ht', hlength, hline, hcolumn⟩ := offsetOf?_eq_some_iff.mp h
      obtain ⟨rfl, -⟩ := append_inj_of_byteLength (ht'.symm.trans ht) hlength
      exact ⟨hline, hcolumn⟩
    · rintro ⟨hline, hcolumn⟩
      exact offsetOf?_eq_some_iff.mpr ⟨a, b, ht, rfl, hline, hcolumn⟩
  · intro line column
    cases line with
    | zero => simp [offsetOf?]
    | succ i =>
      cases column with
      | zero => simp [offsetOf?]
      | succ j =>
        rw [← Option.not_isSome_iff_eq_none, isSome_offsetOf?_iff, Nat.add_sub_cancel]
        cases hcontent : (t.splitOn '\n')[i]? with
        | none =>
          have hlast := List.getElem?_eq_none_iff.mp hcontent
          simp only [reduceCtorEq, false_and, exists_false, not_false_eq_true, true_iff]
          right; right; left
          omega
        | some content =>
          obtain ⟨hi, -⟩ := List.getElem?_eq_some_iff.mp hcontent
          simp only [Option.some.injEq, exists_eq_left']
          omega
  · intro line column n line' column' n' h h'
    obtain ⟨a, b, ht, rfl, rfl, rfl⟩ := offsetOf?_eq_some_iff.mp h
    obtain ⟨a', b', ht', rfl, rfl, rfl⟩ := offsetOf?_eq_some_iff.mp h'
    exact byteLength_lt_iff (ht.symm.trans ht')

/-- Behind a character of two bytes and two line feeds, the end of the text is the only place of
its last line; the place in front of it ends the line before. -/
theorem offsetOf?_bijection_empty_line :
    let t := ['é', '\n', 'b', '\n']
    (offsetOf? 3 1 t = some 5 ↔ 3 = 1 + 2 ∧ 1 = 1 + 0) ∧
      offsetOf? 3 1 t = some 5 ∧ IsBoundary 5 t ∧ offsetOf? 3 2 t = none ∧
        offsetOf? 2 2 t = some 4 ∧ (4 < 5 ↔ 2 < 3 ∨ 2 = 3 ∧ 2 < 1) := by
  intro t
  obtain ⟨hplace, hboundary, hnone, horder⟩ := offsetOf?_bijection t
  have hend : offsetOf? 3 1 t = some 5 := by decide
  have hline : offsetOf? 2 2 t = some 4 := by decide
  refine ⟨hplace t [] (by simp) 3 1, hend, hboundary 3 1 5 hend, (hnone 3 2).mpr ?_, hline,
    horder 2 2 4 3 1 5 hline hend⟩
  exact .inr (.inr (.inr ⟨[], by decide, by decide⟩))

end SqlAnalysis.Text
