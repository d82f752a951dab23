import SqlAnalysis.Analysis.LiteralSearch
import SqlAnalysis.Proofs.Unicode.Classes
import SqlAnalysis.Proofs.Word.Span

/-!
# What the patterns of the literal search match

A pattern leads from a place of a text to places further on.  What it matches is the text in
between, and each pattern is characterised by the texts that it reads.

## Main definitions

* `Cursor.Reads` — the text between two places.
* `Spells` — how a literal may be written in a query.
* `Recognizable` — a literal that blanks in front of it are told from.
* `Pattern.Advances` — a pattern that matches only what stands at the place.
* `Finds` — what there is to be found by a search.

## Main results

* `mem_literalPattern` — **a literal pattern reads exactly the spellings of the literal.**
* `Finds.eq_some_iff`, `Finds.eq_none_iff` — **a search from left to right gives the first of what
  there is to be found.**
* `cuts_of_locateLiteral` — **the literal of a column is found where it stands.**
-/

namespace SqlAnalysis

namespace LiteralSearch

open Text Unicode

/-! ### Reading a text -/

/-- The text `w` leads from the place `cur` to the place `next`. -/
structure Cursor.Reads (cur : Cursor) (w : List Char) (next : Cursor) : Prop where
  /-- The text stands at the place. -/
  rest : cur.rest = w ++ next.rest
  /-- The next place is behind it. -/
  offset : next.offset = cur.offset + byteLength w
  /-- The character before the next place is the last one of the text. -/
  before : next.before = w.getLast?.or cur.before

variable {cur mid next : Cursor}

@[simp] theorem Cursor.reads_nil : cur.Reads [] next ↔ next = cur := by
  constructor
  · rintro ⟨hrest, hoffset, hbefore⟩
    cases cur
    cases next
    simp_all
  · rintro rfl
    exact ⟨rfl, rfl, rfl⟩

/-- Reading a text starts with a step over its first character. -/
theorem Cursor.reads_cons {c : Char} {w : List Char} :
    cur.Reads (c :: w) next ↔ ∃ r, cur.rest = c :: r ∧ (cur.advance c r).Reads w next := by
  have hlast : ((c :: w).getLast?).or cur.before = w.getLast?.or (some c) := by
    cases w with
    | nil => rfl
    | cons d w => simp [List.getLast?_cons]
  constructor
  · rintro ⟨hrest, hoffset, hbefore⟩
    refine ⟨w ++ next.rest, hrest, ⟨rfl, ?_, ?_⟩⟩
    · rw [hoffset, byteLength_cons, Cursor.advance, Nat.add_assoc]
    · rw [hbefore, hlast, Cursor.advance]
  · rintro ⟨r, hcur, ⟨hrest, hoffset, hbefore⟩⟩
    simp only [Cursor.advance] at hrest hoffset hbefore
    refine ⟨?_, ?_, ?_⟩
    · rw [hcur, hrest, List.cons_append]
    · rw [hoffset, byteLength_cons, Nat.add_assoc]
    · rw [hbefore, hlast]

/-- At the end of the text there is nothing to read. -/
theorem Cursor.reads_of_nil {w : List Char} (hrest : cur.rest = []) :
    cur.Reads w next ↔ w = [] ∧ next = cur := by
  cases w with
  | nil => simp
  | cons c w => simp [Cursor.reads_cons, hrest]

/-- What is read in front of the character `d` is nothing, or starts with it. -/
theorem Cursor.reads_of_cons {d : Char} {r w : List Char} (hrest : cur.rest = d :: r) :
    cur.Reads w next ↔
      (w = [] ∧ next = cur) ∨ ∃ v, w = d :: v ∧ (cur.advance d r).Reads v next := by
  cases w with
  | nil => simp
  | cons c w =>
    simp only [Cursor.reads_cons, hrest, List.cons.injEq, reduceCtorEq, false_and, false_or]
    constructor
    · rintro ⟨_, ⟨rfl, rfl⟩, hreads⟩
      exact ⟨w, ⟨rfl, rfl⟩, hreads⟩
    · rintro ⟨_, ⟨rfl, rfl⟩, hreads⟩
      exact ⟨r, ⟨rfl, rfl⟩, hreads⟩

theorem Cursor.Reads.trans {v w : List Char} (hv : cur.Reads v mid) (hw : mid.Reads w next) :
    cur.Reads (v ++ w) next := by
  refine ⟨?_, ?_, ?_⟩
  · rw [hv.rest, hw.rest, List.append_assoc]
  · rw [hw.offset, hv.offset, byteLength_append, Nat.add_assoc]
  · rw [hw.before, hv.before, List.getLast?_append, Option.or_assoc]

/-- A text is read by reading its parts. -/
theorem Cursor.reads_append {v w : List Char} :
    cur.Reads (v ++ w) next ↔ ∃ mid, cur.Reads v mid ∧ mid.Reads w next := by
  constructor
  · rintro ⟨hrest, hoffset, hbefore⟩
    refine ⟨⟨v.getLast?.or cur.before, cur.offset + byteLength v, w ++ next.rest⟩,
      ⟨by rw [hrest, List.append_assoc], rfl, rfl⟩, rfl, ?_, ?_⟩
    · rw [hoffset, byteLength_append, Nat.add_assoc]
    · rw [hbefore, List.getLast?_append, Option.or_assoc]
  · rintro ⟨mid, hv, hw⟩
    exact hv.trans hw

/-- A text leads to one place. -/
theorem Cursor.Reads.unique {w : List Char} {next' : Cursor} (h : cur.Reads w next)
    (h' : cur.Reads w next') : next = next' := by
  have hrest := List.append_cancel_left (h.rest.symm.trans h'.rest)
  have hoffset := h.offset.trans h'.offset.symm
  have hbefore := h.before.trans h'.before.symm
  cases next
  cases next'
  simp_all

/-- Whatever stands at a place can be read. -/
theorem Cursor.exists_reads {w r : List Char} (h : cur.rest = w ++ r) :
    ∃ next, cur.Reads w next ∧ next.rest = r :=
  ⟨⟨w.getLast?.or cur.before, cur.offset + byteLength w, r⟩, ⟨h, rfl, rfl⟩, rfl⟩

/-! ### The patterns -/

theorem mem_oneChar {p : Char → Bool} :
    next ∈ oneChar p cur ↔ ∃ c, p c ∧ cur.Reads [c] next := by
  simp only [Cursor.reads_cons, Cursor.reads_nil]
  unfold oneChar
  constructor
  · intro h
    split at h
    · rename_i d r hrest
      split at h
      · rename_i hd
        exact ⟨d, hd, r, hrest, List.mem_singleton.mp h⟩
      · simp at h
    · simp at h
  · rintro ⟨c, hc, r, hrest, rfl⟩
    simp [hrest, hc]

/-- Characters that are the same up to `f` are read as texts that are the same up to `f`. -/
theorem mem_sameChars (f : Char → Char) : ∀ (t : List Char) (cur : Cursor),
    next ∈ sameChars (fun a b => f a == f b) t cur ↔
      ∃ w, w.map f = t.map f ∧ cur.Reads w next := by
  intro t
  induction t with
  | nil => intro cur; simp [sameChars]
  | cons c t ih =>
    intro cur
    rw [sameChars]
    cases hrest : cur.rest with
    | nil =>
      simp only [Cursor.reads_of_nil hrest, List.not_mem_nil, false_iff, not_exists, not_and]
      rintro _ hw rfl
      simp at hw
    | cons d r =>
      simp only [Cursor.reads_of_cons hrest, List.map_cons]
      constructor
      · intro h
        split at h
        · rename_i hd
          obtain ⟨w, hw, hreads⟩ := (ih _).mp h
          rw [beq_iff_eq] at hd
          exact ⟨d :: w, by rw [List.map_cons, hw, hd], .inr ⟨w, rfl, hreads⟩⟩
        · simp at h
      · rintro ⟨w, hw, ⟨rfl, -⟩ | ⟨v, rfl, hreads⟩⟩
        · simp at hw
        · rw [List.map_cons, List.cons.injEq] at hw
          rw [if_pos (beq_iff_eq.mpr hw.1.symm)]
          exact (ih _).mpr ⟨v, hw.2, hreads⟩

theorem mem_exactly {t : List Char} : next ∈ exactly t cur ↔ cur.Reads t next := by
  have h : next ∈ sameChars (fun a b => id a == id b) t cur ↔
      ∃ w, w.map id = t.map id ∧ cur.Reads w next := mem_sameChars id t cur
  simpa [exactly] using h

theorem mem_upToCase {t : List Char} :
    next ∈ upToCase t cur ↔ ∃ w, w.map foldChar = t.map foldChar ∧ cur.Reads w next :=
  mem_sameChars foldChar t cur

theorem mem_blanksFrom : ∀ (t : List Char) (before : Option Char) (offset : Nat),
    next ∈ blanksFrom before offset t ↔
      ∃ w, (∀ c ∈ w, isBlank c) ∧ Cursor.Reads ⟨before, offset, t⟩ w next := by
  intro t
  induction t with
  | nil =>
    intro before offset
    rw [blanksFrom, List.mem_singleton]
    constructor
    · rintro rfl
      exact ⟨[], by simp, Cursor.reads_nil.mpr rfl⟩
    · rintro ⟨w, -, hreads⟩
      exact ((Cursor.reads_of_nil rfl).mp hreads).2
  | cons c t ih =>
    intro before offset
    have hrest : (⟨before, offset, c :: t⟩ : Cursor).rest = c :: t := rfl
    simp only [Cursor.reads_of_cons hrest, blanksFrom]
    constructor
    · intro h
      split at h
      · rename_i hc
        rcases List.mem_append.mp h with h | h
        · obtain ⟨w, hw, hreads⟩ := (ih _ _).mp h
          exact ⟨c :: w, List.forall_mem_cons.mpr ⟨hc, hw⟩, .inr ⟨w, rfl, hreads⟩⟩
        · exact ⟨[], by simp, .inl ⟨rfl, List.mem_singleton.mp h⟩⟩
      · exact ⟨[], by simp, .inl ⟨rfl, List.mem_singleton.mp h⟩⟩
    · rintro ⟨w, hw, ⟨rfl, rfl⟩ | ⟨v, rfl, hreads⟩⟩
      · split <;> simp
      · obtain ⟨hc, hv⟩ := List.forall_mem_cons.mp hw
        rw [if_pos hc]
        exact List.mem_append_left _ ((ih _ _).mpr ⟨v, hv, hreads⟩)

theorem mem_blanks : next ∈ blanks cur ↔ ∃ w, (∀ c ∈ w, isBlank c) ∧ cur.Reads w next :=
  mem_blanksFrom cur.rest cur.before cur.offset

theorem mem_andThen {p q : Pattern} :
    next ∈ andThen p q cur ↔ ∃ mid ∈ p cur, next ∈ q mid := by
  simp [andThen]

theorem mem_optionally {p : Pattern} : next ∈ optionally p cur ↔ next ∈ p cur ∨ next = cur := by
  simp [optionally]

theorem mem_either {p q : Pattern} : next ∈ either p q cur ↔ next ∈ p cur ∨ next ∈ q cur := by
  simp [either]

theorem mem_wordBoundary : next ∈ wordBoundary cur ↔
    next = cur ∧ cur.before.any isWordChar ≠ cur.rest.head?.any isWordChar := by
  unfold wordBoundary
  split <;> simp_all

theorem mem_operatorPattern {operator : List Char} : next ∈ operatorPattern operator cur ↔
    cur.Reads operator next ∨ (operator = ['<', '>'] ∧ cur.Reads ['!', '='] next) := by
  unfold operatorPattern
  split
  · rename_i h
    simp [mem_either, mem_exactly, h]
  · rename_i h
    simp [mem_exactly, h]

/-! ### Literals -/

/-- A quote character of either kind. -/
def IsQuote (c : Char) : Prop :=
  c = '"' ∨ c = '\''

instance : DecidablePred IsQuote :=
  fun c => inferInstanceAs (Decidable (c = '"' ∨ c = '\''))

/-- How a literal with the text `value` may be written: a text or date between quotes of either
kind, a truth value or `null` up to simple case folding, everything else as it is. -/
def Spells (type : ValueType) (value w : List Char) : Prop :=
  match type with
  | .string | .date => ∃ p q, IsQuote p ∧ IsQuote q ∧ w = p :: (value ++ [q])
  | .null | .boolean => w.map foldChar = value.map foldChar
  | _ => w = value

theorem mem_quoteMark : next ∈ quoteMark cur ↔ ∃ c, IsQuote c ∧ cur.Reads [c] next := by
  simp [quoteMark, mem_oneChar, IsQuote]

/-- The text between quotes. -/
theorem mem_quoted {value : List Char} :
    next ∈ andThen quoteMark (andThen (exactly value) quoteMark) cur ↔
      ∃ w, (∃ p q, IsQuote p ∧ IsQuote q ∧ w = p :: (value ++ [q])) ∧ cur.Reads w next := by
  simp only [mem_andThen, mem_quoteMark, mem_exactly]
  constructor
  · rintro ⟨m, ⟨p, hp, hm⟩, m', hvalue, q, hq, hnext⟩
    exact ⟨_, ⟨p, q, hp, hq, rfl⟩, hm.trans (hvalue.trans hnext)⟩
  · rintro ⟨w, ⟨p, q, hp, hq, rfl⟩, hreads⟩
    obtain ⟨r, hrest, hreads⟩ := Cursor.reads_cons.mp hreads
    refine ⟨cur.advance p r, ⟨p, hp, Cursor.reads_cons.mpr ⟨r, hrest, by simp⟩⟩, ?_⟩
    -- the place behind the value is the one in front of the closing quote
    refine ⟨⟨value.getLast?.or (cur.advance p r).before,
      (cur.advance p r).offset + byteLength value, q :: next.rest⟩, ⟨?_, rfl, rfl⟩, q, hq, ?_⟩
    · simpa using hreads.rest
    · refine ⟨rfl, ?_, ?_⟩
      · rw [hreads.offset, byteLength_append, Nat.add_assoc]
      · rw [hreads.before]
        simp

/-- **A literal pattern reads exactly the spellings of the literal.** -/
theorem mem_literalPattern {type : ValueType} {value : List Char} :
    next ∈ literalPattern type value cur ↔ ∃ w, Spells type value w ∧ cur.Reads w next := by
  cases type with
  | string | date => exact mem_quoted
  | null | boolean => exact mem_upToCase
  | number | object | any => simp [literalPattern, Spells, mem_exactly]

theorem isBlank_eq_false_of_isQuote {c : Char} (h : IsQuote c) : isBlank c = false := by
  rcases h with rfl | rfl <;> decide +kernel

/-- A literal that blanks in front of it are told from: between quotes every text is one, and
otherwise the text must not begin with a blank. -/
def Recognizable (type : ValueType) (value : List Char) : Prop :=
  match type with
  | .string | .date => True
  | _ => ∃ c r, value = c :: r ∧ isBlank c = false

variable {type : ValueType} {value w w' : List Char}

/-- However a recognizable literal is written, it does not begin with a blank. -/
theorem Recognizable.exists_cons_of_spells (h : Recognizable type value)
    (hw : Spells type value w) : ∃ c r, w = c :: r ∧ isBlank c = false := by
  cases type with
  | string | date =>
    obtain ⟨p, q, hp, -, rfl⟩ := hw
    exact ⟨p, value ++ [q], rfl, isBlank_eq_false_of_isQuote hp⟩
  | null | boolean =>
    obtain ⟨c, r, rfl, hc⟩ := h
    have hfold : w.map foldChar = (c :: r).map foldChar := hw
    cases w with
    | nil => cases hfold
    | cons d w =>
      have hd : foldChar d = foldChar c := (List.cons.inj hfold).1
      exact ⟨d, w, rfl, by rw [← isBlank_foldChar, hd, isBlank_foldChar, hc]⟩
  | number | object | any =>
    obtain rfl : w = value := hw
    exact h

/-- However a literal is written, it has the same number of characters. -/
theorem length_eq_of_spells (hw : Spells type value w) (hw' : Spells type value w') :
    w.length = w'.length := by
  cases type with
  | string | date =>
    obtain ⟨p, q, -, -, rfl⟩ := hw
    obtain ⟨p', q', -, -, rfl⟩ := hw'
    rw [List.length_cons, List.length_cons, List.length_append, List.length_append]
    rfl
  | null | boolean =>
    have hfold : w.map foldChar = w'.map foldChar := Eq.trans hw (Eq.symm hw')
    rw [← List.length_map (f := foldChar), hfold, List.length_map]
  | number | object | any =>
    have hsame : w = w' := Eq.trans hw (Eq.symm hw')
    rw [hsame]

/-- At one place there is at most one spelling. -/
theorem eq_of_spells_append {r r' : List Char} (hw : Spells type value w)
    (hw' : Spells type value w') (h : w ++ r = w' ++ r') : w = w' :=
  List.append_inj_left h (length_eq_of_spells hw hw')

/-! ### Searching -/

/-- What the pattern matches is a text that stands there. -/
def Pattern.Advances (p : Pattern) : Prop :=
  ∀ cur next, next ∈ p cur → ∃ w, cur.Reads w next

namespace Pattern.Advances

theorem andThen {p q : Pattern} (hp : p.Advances) (hq : q.Advances) :
    (LiteralSearch.andThen p q).Advances := by
  intro cur next h
  obtain ⟨mid, hmid, hnext⟩ := mem_andThen.mp h
  obtain ⟨v, hv⟩ := hp cur mid hmid
  obtain ⟨w, hw⟩ := hq mid next hnext
  exact ⟨v ++ w, hv.trans hw⟩

theorem optionally {p : Pattern} (hp : p.Advances) : (LiteralSearch.optionally p).Advances := by
  intro cur next h
  rcases mem_optionally.mp h with h | rfl
  · exact hp cur next h
  · exact ⟨[], Cursor.reads_nil.mpr rfl⟩

theorem oneChar (p : Char → Bool) : (LiteralSearch.oneChar p).Advances := by
  intro cur next h
  obtain ⟨c, -, hreads⟩ := mem_oneChar.mp h
  exact ⟨[c], hreads⟩

theorem exactly (t : List Char) : (LiteralSearch.exactly t).Advances :=
  fun _ _ h => ⟨t, mem_exactly.mp h⟩

theorem blanks : LiteralSearch.blanks.Advances := by
  intro cur next h
  obtain ⟨w, -, hreads⟩ := mem_blanks.mp h
  exact ⟨w, hreads⟩

theorem wordBoundary : LiteralSearch.wordBoundary.Advances :=
  fun _ _ h => ⟨[], Cursor.reads_nil.mpr (mem_wordBoundary.mp h).1⟩

theorem operatorPattern (operator : List Char) :
    (LiteralSearch.operatorPattern operator).Advances := by
  intro cur next h
  rcases mem_operatorPattern.mp h with hreads | ⟨-, hreads⟩
  · exact ⟨_, hreads⟩
  · exact ⟨_, hreads⟩

end Pattern.Advances

/-- **A literal between two patterns is found where it is read**, if the pattern in front leads
there and the one behind matches. -/
theorem mem_between {front back : Pattern} {s : Span} :
    s ∈ between front (literalPattern type value) back cur ↔
      ∃ start ∈ front cur, ∃ w stop, Spells type value w ∧ start.Reads w stop ∧ back stop ≠ [] ∧
        s = ⟨start.offset, stop.offset⟩ := by
  simp only [between, List.mem_flatMap, mem_literalPattern]
  constructor
  · rintro ⟨start, hstart, stop, ⟨w, hw, hreads⟩, hs⟩
    split at hs
    · cases hs
    · rename_i hback
      exact ⟨start, hstart, w, stop, hw, hreads, by simpa using hback, List.mem_singleton.mp hs⟩
  · rintro ⟨start, hstart, w, stop, hw, hreads, hback, rfl⟩
    refine ⟨start, hstart, stop, ⟨w, hw, hreads⟩, ?_⟩
    rw [if_neg (by simpa using hback)]
    exact List.mem_singleton_self _

/-- Such a literal stands somewhere behind the place. -/
theorem exists_of_mem_between {front back : Pattern} {s : Span} (hfront : front.Advances)
    (h : s ∈ between front (literalPattern type value) back cur) :
    ∃ v start w stop, cur.Reads v start ∧ start.Reads w stop ∧ Spells type value w ∧
      s = ⟨start.offset, stop.offset⟩ := by
  obtain ⟨start, hstart, w, stop, hw, hreads, -, hs⟩ := mem_between.mp h
  obtain ⟨v, hv⟩ := hfront cur start hstart
  exact ⟨v, start, w, stop, hv, hreads, hw, hs⟩

/-- A search from left to right gives a result of a place of the text, and finds nothing at the
places in front of that. -/
theorem exists_of_leftmostFrom {search : Cursor → List Span} {s : Span} :
    ∀ {t : List Char} {before : Option Char} {offset : Nat},
      leftmostFrom search before offset t = some s →
        ∃ w next, Cursor.Reads ⟨before, offset, t⟩ w next ∧ s ∈ search next ∧
          ∀ v mid, Cursor.Reads ⟨before, offset, t⟩ v mid → byteLength v < byteLength w →
            search mid = [] := by
  intro t
  induction t with
  | nil =>
    intro before offset h
    exact ⟨[], _, Cursor.reads_nil.mpr rfl, List.mem_of_head? h, by simp⟩
  | cons c t ih =>
    intro before offset h
    rw [leftmostFrom] at h
    split at h
    · rename_i s' ss hsearch
      cases h
      exact ⟨[], _, Cursor.reads_nil.mpr rfl, by rw [hsearch]; exact List.mem_cons_self, by simp⟩
    · rename_i hsearch
      obtain ⟨w, next, hreads, hs, hfirst⟩ := ih h
      refine ⟨c :: w, next, Cursor.reads_cons.mpr ⟨t, rfl, hreads⟩, hs, fun v mid hv hlt => ?_⟩
      rcases (Cursor.reads_of_cons rfl).mp hv with ⟨-, rfl⟩ | ⟨v, rfl, hrest⟩
      · exact hsearch
      · exact hfirst v mid hrest (Nat.lt_of_add_lt_add_left hlt)

/-- A search from left to right succeeds if there is a result at some place of the text. -/
theorem isSome_leftmostFrom {search : Cursor → List Span} {s : Span} :
    ∀ {t : List Char} {before : Option Char} {offset : Nat} {w : List Char} {next : Cursor},
      Cursor.Reads ⟨before, offset, t⟩ w next → s ∈ search next →
        (leftmostFrom search before offset t).isSome := by
  intro t
  induction t with
  | nil =>
    intro before offset w next hreads hs
    obtain ⟨-, rfl⟩ := (Cursor.reads_of_nil rfl).mp hreads
    rw [leftmostFrom, List.isSome_head?]
    exact List.ne_nil_of_mem hs
  | cons c t ih =>
    intro before offset w next hreads hs
    rw [leftmostFrom]
    split
    · rfl
    · rename_i hsearch
      rcases (Cursor.reads_of_cons rfl).mp hreads with ⟨-, rfl⟩ | ⟨w, rfl, hrest⟩
      · rw [hsearch] at hs
        cases hs
      · exact ih hrest hs

/-- What there is to be found by a search behind the place `start`: at the place behind the text `w`
are exactly the spans `s` with `Found w s`. -/
structure Finds (search : Cursor → List Span) (start : Cursor)
    (Found : List Char → Span → Prop) : Prop where
  mem_iff : ∀ w next s, start.Reads w next → (s ∈ search next ↔ Found w s)
  reads : ∀ w s, Found w s → w <+: start.rest

namespace Finds

variable {search : Cursor → List Span} {start : Cursor} {Found : List Char → Span → Prop}
  {s : Span}

/-- What is found stands in front of everything else. -/
theorem exists_first (hfinds : Finds search start Found)
    (h : leftmostFrom search start.before start.offset start.rest = some s) :
    ∃ w, Found w s ∧ ∀ w' s', Found w' s' → byteLength w ≤ byteLength w' := by
  obtain ⟨w, next, hreads, hs, hfirst⟩ := exists_of_leftmostFrom h
  refine ⟨w, (hfinds.mem_iff w next s hreads).mp hs, fun w' s' hfound => ?_⟩
  obtain ⟨r, hr⟩ := hfinds.reads w' s' hfound
  obtain ⟨mid, hmid, -⟩ := Cursor.exists_reads hr.symm
  by_contra hlt
  have hs' := (hfinds.mem_iff w' mid s' hmid).mpr hfound
  rw [hfirst w' mid hmid (by omega)] at hs'
  cases hs'

theorem isSome (hfinds : Finds search start Found) {w : List Char} (hfound : Found w s) :
    (leftmostFrom search start.before start.offset start.rest).isSome := by
  obtain ⟨r, hr⟩ := hfinds.reads w s hfound
  obtain ⟨next, hnext, -⟩ := Cursor.exists_reads hr.symm
  exact isSome_leftmostFrom hnext ((hfinds.mem_iff w next s hnext).mpr hfound)

/-- **A search from left to right fails exactly if there is nothing to be found.** -/
theorem eq_none_iff (hfinds : Finds search start Found) :
    leftmostFrom search start.before start.offset start.rest = none ↔ ∀ w s, ¬Found w s := by
  constructor
  · intro hnone w s hfound
    have hsome := hfinds.isSome hfound
    rw [hnone] at hsome
    cases hsome
  · intro hnot
    rw [← Option.not_isSome_iff_eq_none, Option.isSome_iff_exists]
    rintro ⟨s, hs⟩
    obtain ⟨w, hfound, -⟩ := hfinds.exists_first hs
    exact hnot w s hfound

/-- **A search from left to right gives the first of what there is to be found**, if that is one
span at each place. -/
theorem eq_some_iff (hfinds : Finds search start Found)
    (honly : ∀ w s s', Found w s → Found w s' → s = s') :
    leftmostFrom search start.before start.offset start.rest = some s ↔
      ∃ w, Found w s ∧ ∀ w' s', Found w' s' → byteLength w ≤ byteLength w' := by
  refine ⟨hfinds.exists_first, ?_⟩
  rintro ⟨w, hfound, hfirst⟩
  obtain ⟨s', hs'⟩ := Option.isSome_iff_exists.mp (hfinds.isSome hfound)
  obtain ⟨w', hfound', hfirst'⟩ := hfinds.exists_first hs'
  -- two fronts of one length are the same
  obtain ⟨r, hr⟩ := hfinds.reads w s hfound
  obtain ⟨r', hr'⟩ := hfinds.reads w' s' hfound'
  have hlength := Nat.le_antisymm (hfirst w' s' hfound') (hfirst' w s hfound)
  obtain ⟨rfl, -⟩ := append_inj_of_byteLength (hr.trans hr'.symm) hlength
  rw [hs', honly w s s' hfound hfound']

end Finds

/-- A literal that is searched for behind the front `a` of a text is cut out by its span. -/
theorem exists_cuts_of_leftmostFrom {front back : Pattern} {type : ValueType}
    {value a t : List Char} {before : Option Char} {s : Span} (hfront : front.Advances)
    (h : leftmostFrom (between front (literalPattern type value) back) before (byteLength a) t
      = some s) :
    ∃ w, Spells type value w ∧ s.Cuts w (a ++ t) := by
  obtain ⟨u, cur, hcur, hs, -⟩ := exists_of_leftmostFrom h
  obtain ⟨v, start, w, stop, hv, hw, hspells, rfl⟩ := exists_of_mem_between hfront hs
  have hstart := hcur.trans hv
  refine ⟨w, hspells, a ++ (u ++ v), stop.rest, ?_, ?_, ?_⟩
  · have ht : t = u ++ v ++ start.rest := hstart.rest
    rw [ht, hw.rest]
    simp
  · show start.offset = _
    rw [hstart.offset, byteLength_append a]
  · show stop.offset = _
    rw [hw.offset, hstart.offset, byteLength_append (a ++ (u ++ v)), byteLength_append a]

end LiteralSearch

open Text LiteralSearch

/-- **The literal of a column is found where it stands.**  The span that is located cuts a
spelling of the recorded value out of the text. -/
theorem cuts_of_locateLiteral {text : String} {column : ColumnUse} {received : ValueType}
    {s : Span} (h : locateLiteral text column received = some s) :
    ∃ value w, column.value = some value ∧ Spells received value.toList w ∧
      s.Cuts w text.toList := by
  unfold locateLiteral at h
  obtain ⟨value, hvalue, h⟩ := Option.bind_eq_some_iff.mp h
  cases hcontext : column.context with
  | expression =>
    simp only [hcontext] at h
    obtain ⟨operator, -, h⟩ := Option.bind_eq_some_iff.mp h
    obtain ⟨w, hw, hcuts⟩ := exists_cuts_of_leftmostFrom (a := [])
      (.andThen .wordBoundary <| .andThen (.exactly _) <| .andThen (.optionally (.oneChar _)) <|
        .andThen .blanks <| .andThen (.operatorPattern _) .blanks) h
    exact ⟨value, w, hvalue, hw, hcuts⟩
  | list =>
    simp only [hcontext] at h
    obtain ⟨values, -, h⟩ := Option.bind_eq_some_iff.mp h
    obtain ⟨rest, hrest, h⟩ := Option.bind_eq_some_iff.mp h
    obtain ⟨a, htext, ha⟩ := dropBytes?_eq_some_iff.mp hrest
    rw [← ha] at h
    obtain ⟨w, hw, hcuts⟩ := exists_cuts_of_leftmostFrom (.andThen (.oneChar _) .blanks) h
    exact ⟨value, w, hvalue, hw, htext ▸ hcuts⟩

end SqlAnalysis
