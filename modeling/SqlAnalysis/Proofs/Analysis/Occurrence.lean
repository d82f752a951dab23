import SqlAnalysis.Proofs.Analysis.ComparedLiteral
import SqlAnalysis.Proofs.Analysis.ListEntry

/-!
# The occurrence that is located

The literal of a column occurs in a statement where the column is compared with it, or where it is
an entry of a bracketed list behind the word `VALUES`.  The search finds the leftmost of these
occurrences and nothing else: the literal that is compared with is no part of a longer one, and no
occurrence is passed over.

## Main definitions

* `Occurs` — the occurrences of the literal of a column.
* `Leftmost` — the span of the occurrence that begins first.

## Main results

* `locateLiteral_eq_leftmost` — **the literal is located at its leftmost occurrence, and not at all
  exactly if there is none.**
-/

namespace SqlAnalysis

open Text Unicode LiteralSearch

/-- The literal with the text `value` occurs with the span `s` in a statement as that of `column`,
and the occurrence begins at the offset `i`: with the name of a column that is compared, or with the
bracket or comma in front of an entry. -/
inductive Occurs (text : String) (column : ColumnUse) (received : ValueType) (value : String) :
    (i : Nat) → (s : Span) → Prop
  /-- A comparison of the column with the literal, anywhere in the statement. -/
  | comparison {operator : String} (hcontext : column.context = .expression)
    (hoperator : column.operator = some operator)
    (e : Compared column.name.toList operator.toList received value.toList text.toList) :
    Occurs text column received value (byteLength e.front) e.span
  /-- An entry of a list that begins behind the first word `VALUES`. -/
  | entry {v : Word} (hcontext : column.context = .list)
    (hvalues : (words text).find?
      (fun w => eqIgnoreAsciiCase w.text.toList "VALUES".toList) = some v)
    (e : Entry received value.toList text.toList) (hbehind : v.stop ≤ byteLength e.front) :
    Occurs text column received value (byteLength e.front) e.span

/-- The span of the occurrence that begins first. -/
def Leftmost (Occ : Nat → Span → Prop) (s : Span) : Prop :=
  ∃ i, Occ i s ∧ ∀ j s', Occ j s' → i ≤ j

/-- A search locates the leftmost occurrence, if what it finds are the occurrences. -/
theorem LiteralSearch.Finds.eq_leftmost {search : Cursor → List Span} {start : Cursor}
    {Found : List Char → Span → Prop} (hfinds : Finds search start Found)
    (honly : ∀ w s s', Found w s → Found w s' → s = s') {Occ : Nat → Span → Prop}
    (hocc : ∀ i s, Occ i s ↔ ∃ w, Found w s ∧ start.offset + byteLength w = i) :
    (∀ s, leftmostFrom search start.before start.offset start.rest = some s ↔ Leftmost Occ s) ∧
      (leftmostFrom search start.before start.offset start.rest = none ↔ ∀ i s, ¬Occ i s) := by
  constructor
  · intro s
    rw [hfinds.eq_some_iff honly]
    constructor
    · rintro ⟨w, hw, hfirst⟩
      refine ⟨_, (hocc _ s).mpr ⟨w, hw, rfl⟩, fun j s' hj => ?_⟩
      obtain ⟨w', hw', rfl⟩ := (hocc j s').mp hj
      exact Nat.add_le_add_left (hfirst w' s' hw') _
    · rintro ⟨i, hi, hfirst⟩
      obtain ⟨w, hw, rfl⟩ := (hocc i s).mp hi
      refine ⟨w, hw, fun w' s' hw' => ?_⟩
      exact Nat.le_of_add_le_add_left (hfirst _ s' ((hocc _ s').mpr ⟨w', hw', rfl⟩))
  · rw [hfinds.eq_none_iff]
    constructor
    · intro hnone i s hi
      obtain ⟨w, hw, -⟩ := (hocc i s).mp hi
      exact hnone w s hw
    · intro hnone w s hw
      exact hnone _ s ((hocc _ s).mpr ⟨w, hw, rfl⟩)

variable {text value : String} {column : ColumnUse} {received : ValueType}

/-- The literal that a column is compared with is located at its leftmost occurrence. -/
theorem locateLiteral_comparison_eq_leftmost (hcontext : column.context = .expression)
    (hvalue : column.value = some value) (hrecognizable : Recognizable received value.toList)
    {c : Char} {r : List Char} (hname : column.name.toList = c :: r) (hc : isWordChar c = true)
    {o : Sql.Comparison} (ho : column.operator = some o.symbol) :
    (∀ s, locateLiteral text column received = some s ↔
        Leftmost (Occurs text column received value) s) ∧
      (locateLiteral text column received = none ↔
        ∀ i s, ¬Occurs text column received value i s) := by
  have hlocate : locateLiteral text column received =
      leftmostFrom (comparison column.name.toList o.symbol.toList
        (literalPattern received value.toList)) none 0 text.toList := by
    simp only [locateLiteral, hcontext, hvalue, ho, Option.bind_eq_bind, Option.bind_some]
  rw [hlocate]
  refine (finds_comparison hname hc (t := text.toList)).eq_leftmost ?_ ?_
  · rintro w s s' ⟨e, rfl, rfl⟩ ⟨e', hfront, rfl⟩
    exact Compared.span_eq_of_front_eq hrecognizable hfront.symm
  · intro i s
    constructor
    · rintro (⟨-, hoperator, e⟩ | ⟨hlist, -, -, -⟩)
      · obtain rfl := Option.some.inj (ho.symm.trans hoperator)
        exact ⟨e.front, ⟨e, rfl, rfl⟩, Nat.zero_add _⟩
      · rw [hcontext] at hlist
        cases hlist
    · rintro ⟨w, ⟨e, rfl, rfl⟩, rfl⟩
      rw [Nat.zero_add]
      exact .comparison hcontext ho e

/-- An inserted literal occurs where an entry begins behind the first word `VALUES`. -/
theorem occurs_iff_entry (hcontext : column.context = .list) {i : Nat} {s : Span} :
    Occurs text column received value i s ↔
      ∃ v, (words text).find? (fun w => eqIgnoreAsciiCase w.text.toList "VALUES".toList) = some v ∧
        ∃ e : Entry received value.toList text.toList,
          v.stop ≤ byteLength e.front ∧ byteLength e.front = i ∧ e.span = s := by
  constructor
  · rintro (⟨hexpression, -, -⟩ | ⟨-, hvalues, e, hbehind⟩)
    · rw [hcontext] at hexpression
      cases hexpression
    · exact ⟨_, hvalues, e, hbehind, rfl, rfl⟩
  · rintro ⟨v, hvalues, e, hbehind, rfl, rfl⟩
    exact .entry hcontext hvalues e hbehind

/-- The literal of an inserted column is located at its leftmost occurrence. -/
theorem locateLiteral_entry_eq_leftmost (hcontext : column.context = .list)
    (hvalue : column.value = some value) (hrecognizable : Recognizable received value.toList) :
    (∀ s, locateLiteral text column received = some s ↔
        Leftmost (Occurs text column received value) s) ∧
      (locateLiteral text column received = none ↔
        ∀ i s, ¬Occurs text column received value i s) := by
  cases hvalues : (words text).find?
      (fun w => eqIgnoreAsciiCase w.text.toList "VALUES".toList) with
  | none =>
    have hnone : locateLiteral text column received = none := by
      simp only [locateLiteral, hcontext, hvalue, firstWholeWordIgnoreCase, hvalues,
        Option.bind_eq_bind, Option.bind_some, Option.map_none, Option.bind_none]
    have hnot : ∀ i s, ¬Occurs text column received value i s := by
      intro i s hoccurs
      obtain ⟨v, hv, -⟩ := (occurs_iff_entry hcontext).mp hoccurs
      rw [hvalues] at hv
      cases hv
    refine ⟨fun s => ?_, iff_of_true hnone hnot⟩
    rw [hnone]
    refine iff_of_false (by simp) ?_
    rintro ⟨i, hoccurs, -⟩
    exact hnot i s hoccurs
  | some v =>
    obtain ⟨a, b, htext, hstop, hlocate⟩ :=
      exists_locateLiteral_eq_leftmostFrom received hcontext hvalue hvalues
    rw [hlocate]
    refine (finds_entry ⟨none, v.stop, b⟩).eq_leftmost ?_ ?_
    · rintro w s s' ⟨e, rfl, rfl⟩ ⟨e', hfront, rfl⟩
      rw [hrecognizable.span_eq_of_front_eq hfront]
    · intro i s
      rw [occurs_iff_entry hcontext]
      simp only [hvalues, Option.some.injEq, exists_eq_left', hstop,
        Entry.exists_of_le_front_iff htext]
      constructor
      · rintro ⟨e, hfront, rfl⟩
        exact ⟨e.front, ⟨e, rfl, rfl⟩, hfront⟩
      · rintro ⟨w, ⟨e, rfl, rfl⟩, hfront⟩
        exact ⟨e, hfront, rfl⟩

/-- **The literal of a column is located at its leftmost occurrence, and not at all exactly if it
does not occur.**  A text or date may be anything; another literal must not begin with a blank.  A
column that is compared has a name that begins with a word character, and one of the operators. -/
theorem locateLiteral_eq_leftmost (text : String) (column : ColumnUse) (received : ValueType)
    {value : String} (hvalue : column.value = some value)
    (hrecognizable : Recognizable received value.toList)
    (hcompared : column.context = .expression →
      (∃ c ∈ column.name.toList.head?, isWordChar c = true) ∧
        ∃ o : Sql.Comparison, column.operator = some o.symbol) :
    (∀ s, locateLiteral text column received = some s ↔
        Leftmost (Occurs text column received value) s) ∧
      (locateLiteral text column received = none ↔
        ∀ i s, ¬Occurs text column received value i s) := by
  cases hcontext : column.context with
  | list => exact locateLiteral_entry_eq_leftmost hcontext hvalue hrecognizable
  | expression =>
    obtain ⟨⟨c, hhead, hc⟩, o, ho⟩ := hcompared hcontext
    obtain ⟨r, hname⟩ := List.head?_eq_some_iff.mp hhead
    exact locateLiteral_comparison_eq_leftmost hcontext hvalue hrecognizable hname hc ho

/-- Neither a longer number nor a longer name is mistaken for the comparison, and both ways to write
its operator are found; as an entry, what reads like one in a text is the leftmost occurrence. -/
theorem locateLiteral_eq_leftmost_behind_longer :
    let text := "SELECT * FROM t WHERE id <> 15 AND paid <> 1 AND `id` != 1"
    let column : ColumnUse := ⟨"id", .expression, some "<>", some "1", some .number⟩
    let equal : ColumnUse := ⟨"id", .expression, some "=", some "1", some .number⟩
    let insertion := "INSERT INTO t (a, b) VALUES ('(1)', 1)"
    let entry : ColumnUse := ⟨"b", .list, none, some "1", some .number⟩
    Recognizable .number "1".toList ∧
      locateLiteral text column .number = some ⟨57, 58⟩ ∧
        Leftmost (Occurs text column .number "1") ⟨57, 58⟩ ∧
          (∀ i s, ¬Occurs text equal .number "1" i s) ∧
            locateLiteral insertion entry .number = some ⟨31, 32⟩ ∧
              Leftmost (Occurs insertion entry .number "1") ⟨31, 32⟩ := by
  intro text column equal insertion entry
  have hrecognizable : Recognizable .number "1".toList := ⟨'1', [], rfl, by decide +kernel⟩
  have hname : ∃ c ∈ "id".toList.head?, isWordChar c = true := ⟨'i', rfl, by decide +kernel⟩
  have hlocated : locateLiteral text column .number = some ⟨57, 58⟩ := by decide +kernel
  have hnone : locateLiteral text equal .number = none := by decide +kernel
  have hentry : locateLiteral insertion entry .number = some ⟨31, 32⟩ := by decide +kernel
  exact ⟨hrecognizable, hlocated,
    ((locateLiteral_eq_leftmost text column .number rfl hrecognizable
      fun _ => ⟨hname, .notEqual, rfl⟩).1 _).mp hlocated,
    (locateLiteral_eq_leftmost text equal .number rfl hrecognizable
      fun _ => ⟨hname, .equal, rfl⟩).2.mp hnone,
    hentry,
    ((locateLiteral_eq_leftmost insertion entry .number rfl hrecognizable
      (by simp [entry])).1 _).mp hentry⟩

end SqlAnalysis
