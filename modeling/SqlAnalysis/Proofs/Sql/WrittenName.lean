import SqlAnalysis.Proofs.Text.Split
import SqlAnalysis.Sql.Outline

/-!
# Names and how they are written

The name of a table is taken from the last identifier in front of it as that is written out, with
backquotes and double quotes taken off both ends.  Writing doubles a backquote inside a name, and
taking quotes off the ends does not stop at the one that belongs to the writing.  So the name of a
table is the identifier only under two conditions: it neither begins nor ends with a quote, and
writing leaves its inside alone.  The second one holds if backquotes come in pairs, since a pair is
taken for one that is doubled already; a backslash in front of backquotes leaves them alone too.

## Main definitions

* `isNameQuote`, `trimmed` — quotes, and a text without those at its ends.
* `Unquoted` — a text without quotes at its ends.
* `QuoteRun`, `EvenRuns` — runs of backquotes, and that their lengths are even.
* `Ident.KeepsName` — writing an identifier and taking off quotes leads back to it.

## Main results

* `trimmed_eq_self_iff` — nothing is taken off a text without quotes at its ends.
* `doubleQuotes_eq_self_iff` — writing doubles nothing if the runs have even lengths.
* `baseName?_eq_text_iff` — **the name of a table is the identifier exactly if that keeps its
  name.**
-/

namespace SqlAnalysis.Sql

open Text Unicode

/-! ### Quotes at the ends -/

/-- A quote that is taken off the ends of a written name. -/
def isNameQuote (c : Char) : Bool :=
  c = '`' || c = '"'

/-- The text without quotes at its ends. -/
def trimmed (t : List Char) : List Char :=
  ((t.dropWhile isNameQuote).reverse.dropWhile isNameQuote).reverse

/-- The text neither begins nor ends with a quote. -/
structure Unquoted (t : List Char) : Prop where
  /-- It does not begin with one. -/
  head : ∀ c ∈ t.head?, isNameQuote c = false
  /-- It does not end with one. -/
  last : ∀ c ∈ t.getLast?, isNameQuote c = false

theorem unquoted_iff_bare {t : List Char} : Unquoted t ↔ Bare isNameQuote t :=
  ⟨fun h => ⟨h.head, h.last⟩, fun h => ⟨h.head, h.last⟩⟩

theorem unquoted_trimmed (t : List Char) : Unquoted (trimmed t) :=
  unquoted_iff_bare.mpr (bare_trimMatching isNameQuote t)

/-- Nothing is taken off exactly if there are no quotes at the ends. -/
theorem trimmed_eq_self_iff {t : List Char} : trimmed t = t ↔ Unquoted t :=
  trimMatching_eq_self_iff.trans unquoted_iff_bare.symm

/-- Quotes around a text are taken off together with those at its ends. -/
theorem trimmed_enclosed {q : Char} (hq : isNameQuote q = true) (t : List Char) :
    trimmed (q :: (t ++ [q])) = trimmed t := by
  have hopen : (q :: (t ++ [q])).dropWhile isNameQuote = (t ++ [q]).dropWhile isNameQuote :=
    List.dropWhile_cons_of_pos hq
  have hclose : [q].dropWhile isNameQuote = [] := List.dropWhile_cons_of_pos hq
  unfold trimmed
  rw [hopen, List.dropWhile_append]
  split
  · rename_i hempty
    rw [hclose, List.isEmpty_iff.mp hempty]
  · rw [List.reverse_append, List.reverse_singleton, List.singleton_append,
      List.dropWhile_cons_of_pos hq]

/-! ### Quotes inside -/

theorem head?_doubleQuotes (q before : Char) (t : List Char) :
    (doubleQuotes q before t).head? = t.head? := by
  fun_cases doubleQuotes q before t <;> rfl

theorem getLast?_doubleQuotes (q before : Char) (t : List Char) :
    (doubleQuotes q before t).getLast? = t.getLast? := by
  fun_induction doubleQuotes q before t with
  | case1 | case2 | case3 => rfl
  | case4 _ _ ih | case5 _ _ _ ih | case6 _ _ _ _ _ ih | case7 _ _ _ _ _ ih =>
    simp [List.getLast?_cons, ih]

/-- Writing out does not change the ends of a text. -/
theorem unquoted_doubleQuotes_iff {q before : Char} {t : List Char} :
    Unquoted (doubleQuotes q before t) ↔ Unquoted t := by
  constructor
  · intro ⟨hhead, hlast⟩
    rw [head?_doubleQuotes] at hhead
    rw [getLast?_doubleQuotes] at hlast
    exact ⟨hhead, hlast⟩
  · intro ⟨hhead, hlast⟩
    rw [← head?_doubleQuotes q before] at hhead
    rw [← getLast?_doubleQuotes q before] at hlast
    exact ⟨hhead, hlast⟩

/-- Between the texts `u` and `w` stand `n` backquotes, and none of `t` continues them. -/
structure QuoteRun (t u : List Char) (n : Nat) (w : List Char) : Prop where
  /-- The text with the run in it. -/
  split : t = u ++ (List.replicate n '`' ++ w)
  /-- The run does not begin further left. -/
  left : '`' ∉ u.getLast?
  /-- The run does not end further right. -/
  right : '`' ∉ w.head?

/-- Every run of backquotes has even length, unless there is a backslash in front of it; `before`
is the character in front of the text. -/
def EvenRuns (before : Char) (t : List Char) : Prop :=
  ∀ u n w, QuoteRun t u n w → u.getLast?.getD before ≠ '\\' → 2 ∣ n

variable {before c : Char} {t : List Char}

/-- A run that is not at the front stands in the rest. -/
theorem QuoteRun.of_cons {d : Char} {u w : List Char} {n : Nat}
    (h : QuoteRun (c :: t) (d :: u) n w) : d = c ∧ QuoteRun t u n w := by
  obtain ⟨hc, hsplit⟩ := List.cons.inj h.split
  refine ⟨hc.symm, hsplit, fun hlast => h.left ?_, h.right⟩
  rw [List.getLast?_cons, Option.mem_def.mp hlast]
  rfl

/-- A run stands in a longer text, if no backquote is put right in front of it. -/
theorem QuoteRun.cons {u w : List Char} {n : Nat} (h : QuoteRun t u n w)
    (hc : u = [] → c ≠ '`') : QuoteRun (c :: t) (c :: u) n w := by
  refine ⟨by rw [h.split, List.cons_append], fun hlast => ?_, h.right⟩
  rw [List.getLast?_cons, Option.mem_some_iff] at hlast
  cases hu : u.getLast? with
  | none =>
    rw [hu] at hlast
    exact hc (List.getLast?_eq_none_iff.mp hu) hlast
  | some x =>
    rw [hu] at hlast
    exact h.left (hlast ▸ hu)

theorem getD_getLast?_cons (c before : Char) (u : List Char) :
    (c :: u).getLast?.getD before = u.getLast?.getD c := by
  rw [List.getLast?_cons, Option.getD_some]

theorem getD_getLast?_of_ne_nil {u : List Char} (hu : u ≠ []) (c d : Char) :
    u.getLast?.getD c = u.getLast?.getD d := by
  rw [List.getLast?_eq_some_getLast hu, Option.getD_some, Option.getD_some]

theorem evenRuns_nil : EvenRuns before [] := by
  intro u n w hrun _
  obtain ⟨-, hzero, -⟩ : u = [] ∧ n = 0 ∧ w = [] := by
    simpa using congrArg List.length hrun.split.symm
  exact hzero ▸ Nat.dvd_zero 2

/-- A character that is no backquote is in no run. -/
theorem evenRuns_cons_of_ne (hc : c ≠ '`') : EvenRuns before (c :: t) ↔ EvenRuns c t := by
  constructor
  · intro h u n w hrun hu
    refine h (c :: u) n w (hrun.cons fun _ => hc) ?_
    rwa [getD_getLast?_cons]
  · intro h u n w hrun hu
    cases u with
    | nil =>
      cases n with
      | zero => exact Nat.dvd_zero 2
      | succ n => exact absurd (List.cons.inj hrun.split).1 hc
    | cons d u =>
      obtain ⟨rfl, hrest⟩ := hrun.of_cons
      rw [getD_getLast?_cons] at hu
      exact h u n w hrest hu

/-- A backquote behind a backslash does not count. -/
theorem evenRuns_escaped : EvenRuns '\\' ('`' :: t) ↔ EvenRuns '\\' t := by
  constructor
  · intro h u n w hrun hu
    -- only a run at the front has the backslash in front of it, and it may have any length
    have hne : u ≠ [] := by
      rintro rfl
      exact hu rfl
    refine h ('`' :: u) n w (hrun.cons fun hnil => absurd hnil hne) ?_
    rwa [getD_getLast?_cons, getD_getLast?_of_ne_nil hne '`' '\\']
  · intro h u n w hrun hu
    cases u with
    | nil => exact absurd rfl hu
    | cons d u =>
      have hd := hrun.of_cons.1
      have hne : u ≠ [] := by
        rintro rfl
        exact hrun.left (by simp [hd])
      rw [getD_getLast?_cons, getD_getLast?_of_ne_nil hne d '\\'] at hu
      exact h u n w hrun.of_cons.2 hu

/-- Two backquotes do not change whether a run is even. -/
theorem evenRuns_pair (hbefore : before ≠ '\\') :
    EvenRuns before ('`' :: '`' :: t) ↔ EvenRuns '`' t := by
  constructor
  · intro h u n w hrun hu
    cases u with
    | nil =>
      -- the pair makes the run longer by two
      have hsplit : '`' :: '`' :: t = [] ++ (List.replicate (n + 2) '`' ++ w) := by
        rw [hrun.split]
        rfl
      have heven : 2 ∣ n + 2 := h [] (n + 2) w ⟨hsplit, by simp, hrun.right⟩ hbefore
      omega
    | cons d u =>
      have hlonger := (hrun.cons (c := '`') (by simp)).cons (c := '`') (by simp)
      refine h _ n w hlonger ?_
      rwa [getD_getLast?_cons, getD_getLast?_cons]
  · intro h u n w hrun hu
    match u with
    | [] =>
      match n with
      | 0 => exact Nat.dvd_zero 2
      | 1 =>
        -- no run of one backquote begins here, since the second one continues it
        have hw : '`' :: t = w := (List.cons.inj hrun.split).2
        exact absurd rfl (hw ▸ hrun.right)
      | n + 2 =>
        have hsplit : t = List.replicate n '`' ++ w :=
          (List.cons.inj (List.cons.inj hrun.split).2).2
        have heven : 2 ∣ n := h [] n w ⟨hsplit, by simp, hrun.right⟩ (by decide)
        omega
    | [d] => exact absurd (by simp [hrun.of_cons.1]) hrun.left
    | d :: d' :: u =>
      obtain ⟨rfl, hrest⟩ := hrun.of_cons.2.of_cons
      rw [getD_getLast?_cons, getD_getLast?_cons] at hu
      exact h u n w hrest hu

/-- A backquote that stands alone is a run of odd length. -/
theorem not_evenRuns_single (hbefore : before ≠ '\\') (ht : '`' ∉ t.head?) :
    ¬EvenRuns before ('`' :: t) := by
  intro h
  have heven : 2 ∣ 1 := h [] 1 t ⟨rfl, by simp, ht⟩ hbefore
  omega

/-- **Writing doubles nothing if the runs of backquotes have even lengths.** -/
theorem doubleQuotes_eq_self_iff : doubleQuotes '`' before t = t ↔ EvenRuns before t := by
  -- the invariant of the writer: what is left is kept exactly if its runs are even, given the
  -- character that was written last
  fun_induction doubleQuotes '`' before t with
  | case1 before => simp [evenRuns_nil]
  | case2 before c hc =>
    obtain ⟨rfl, hbefore⟩ : c = '`' ∧ before ≠ '\\' := by simpa using hc
    simpa using not_evenRuns_single hbefore (by simp)
  | case3 before c hc =>
    by_cases hquote : c = '`'
    · obtain rfl : before = '\\' := by simpa [hquote] using hc
      rw [hquote, evenRuns_escaped]
      simp [evenRuns_nil]
    · rw [evenRuns_cons_of_ne hquote]
      simp [evenRuns_nil]
  | case4 d t ih => rw [List.cons.injEq, ih, evenRuns_escaped]; simp
  | case5 before t hbefore ih =>
    rw [List.cons.injEq, List.cons.injEq, ih, evenRuns_pair hbefore]
    simp
  | case6 before d t hbefore hd =>
    have hlone := not_evenRuns_single (t := d :: t) hbefore (by simpa using hd)
    simpa [Ne.symm hd] using hlone
  | case7 before c d t hc ih =>
    rw [List.cons.injEq, ih, evenRuns_cons_of_ne hc]
    simp

/-! ### Names of tables -/

/-- Writing the identifier and taking quotes off the ends leads back to it. -/
structure Ident.KeepsName (i : Ident) : Prop where
  /-- There are no quotes at its ends. -/
  unquoted : Unquoted i.text.toList
  /-- Between backquotes, those inside come in runs of even length. -/
  evenRuns : i.quote = some '`' → EvenRuns '\x00' i.text.toList

/-- The name of a table is what is left of the last identifier as it is written. -/
theorem baseName?_eq_some_iff {path : List Ident} {i : Ident} (hlast : path.getLast? = some i)
    {name : String} (hname : name ≠ "") :
    baseName? path = some name ↔ trimmed i.written = name.toList := by
  have hbase : baseName? path
      = if (trimmed i.written).isEmpty then none else some (String.ofList (trimmed i.written)) := by
    simp only [baseName?, hlast, Option.bind_eq_bind, Option.bind_some]
    rfl
  rw [hbase]
  split
  · rename_i hempty
    simpa [List.isEmpty_iff.mp hempty] using hname.symm
  · rw [Option.some.injEq, String.ext_iff, String.toList_ofList]

/-- An identifier as it is written, bare or between backquotes, keeps the text between its
quotes. -/
theorem trimmed_written {i : Ident} (hquote : i.quote = none ∨ i.quote = some '`') :
    trimmed i.written = i.text.toList ↔ i.KeepsName := by
  unfold Ident.written
  rcases hquote with hquote | hquote
  · simp only [hquote]
    rw [trimmed_eq_self_iff]
    exact ⟨fun h => ⟨h, fun h' => by simp [hquote] at h'⟩, fun h => h.unquoted⟩
  · simp only [hquote]
    rw [trimmed_enclosed rfl]
    constructor
    · intro h
      -- the text has no quotes at its ends, so nothing was taken off
      have hends : Unquoted i.text.toList := h ▸ unquoted_trimmed _
      have hinside : Unquoted (doubleQuotes '`' '\x00' i.text.toList) :=
        unquoted_doubleQuotes_iff.mpr hends
      rw [trimmed_eq_self_iff.mpr hinside] at h
      exact ⟨hends, fun _ => doubleQuotes_eq_self_iff.mp h⟩
    · intro ⟨hends, hruns⟩
      rw [doubleQuotes_eq_self_iff.mpr (hruns hquote), trimmed_eq_self_iff]
      exact hends

/-- **The name of a table is the identifier exactly if that keeps its name.** -/
theorem baseName?_eq_text_iff {path : List Ident} {i : Ident} (hlast : path.getLast? = some i)
    (hne : i.text ≠ "") (hquote : i.quote = none ∨ i.quote = some '`') :
    baseName? path = some i.text ↔ i.KeepsName :=
  (baseName?_eq_some_iff hlast hne).trans (trimmed_written hquote)

end SqlAnalysis.Sql
