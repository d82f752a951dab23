import SqlAnalysis.Proofs.Text.LineColumn
import SqlAnalysis.Sql.Token

/-!
# Where lexemes stand

A lexeme tells by two locations where its characters begin and where they end.  When both are true,
they name the two ends of a piece of the query, and lexemes that are listed in order have pieces
that follow each other.  Nothing is said about what is between the pieces, so a list may leave
lexemes out.

## Main definitions

* `Location.IsAt` — the location of an offset of a query.
* `Lexeme.StandsAt` — the span that a lexeme with true locations has in a query.
* `Placed` — lexemes with true locations, in the order of the query.

## Main results

* `Location.isAt_iff` — locations are resolved to the offsets that they name.
* `Placed.standsAt` — each of the lexemes has a span.
* `Placed.find?_eq_some` — **no two lexemes begin at the same place.**
-/

namespace SqlAnalysis.Sql

open Text

/-! ### Locations -/

/-- `l` is the location of the place with the offset `n` in a query. -/
def Location.IsAt (l : Location) (n : Nat) (query : List Char) : Prop :=
  ∃ a b, query = a ++ b ∧ byteLength a = n ∧ l = ⟨lineOf a, columnOf a⟩

/-- **Locations are resolved to the offsets that they name.** -/
theorem Location.isAt_iff {l : Location} {n : Nat} {query : List Char} :
    l.IsAt n query ↔ offsetOf? l.line l.column query = some n := by
  obtain ⟨line, column⟩ := l
  simp only [Location.IsAt, offsetOf?_eq_some_iff, Location.mk.injEq]

theorem Location.IsAt.isBoundary {l : Location} {n : Nat} {query : List Char}
    (h : l.IsAt n query) : IsBoundary n query := by
  obtain ⟨a, b, hquery, hlength, -⟩ := h
  exact ⟨a, b, hquery, hlength⟩

/-- A location names one place. -/
theorem Location.IsAt.unique {l : Location} {m n : Nat} {query : List Char}
    (hm : l.IsAt m query) (hn : l.IsAt n query) : m = n := by
  rw [Location.isAt_iff] at hm hn
  exact Option.some.inj (hm.symm.trans hn)

/-! ### Lexemes -/

/-- The lexeme `x` tells the truth about a query: its characters are the piece that `s` cuts out.
The end mark has no characters and stands at the end, every other token has at least one, and a
semicolon is written as one. -/
structure Lexeme.StandsAt (x : Lexeme) (s : Span) (query : List Char) : Prop where
  start : x.start.IsAt s.start query
  stop : x.stop.IsAt s.stop query
  start_lt_stop : x.token ≠ .endMark → s.start < s.stop
  at_end : x.token = .endMark → s = ⟨byteLength query, byteLength query⟩
  semicolon : x.token = .symbol ";" → slice? s query = some [';']

namespace Lexeme.StandsAt

variable {x : Lexeme} {s s' : Span} {query : List Char}

theorem unique (h : x.StandsAt s query) (h' : x.StandsAt s' query) : s = s' := by
  have hstart := h.start.unique h'.start
  have hstop := h.stop.unique h'.stop
  cases s
  cases s'
  simp_all

theorem stop_le (h : x.StandsAt s query) : s.stop ≤ byteLength query :=
  h.stop.isBoundary.le

theorem start_le_stop (h : x.StandsAt s query) : s.start ≤ s.stop := by
  by_cases hend : x.token = .endMark
  · rw [h.at_end hend]
  · exact Nat.le_of_lt (h.start_lt_stop hend)

/-- Only the end mark begins where the query ends. -/
theorem token_eq_endMark_iff (h : x.StandsAt s query) :
    x.token = .endMark ↔ s.start = byteLength query := by
  constructor
  · intro hend
    rw [h.at_end hend]
  · intro hstart
    by_contra hend
    have hlt := h.start_lt_stop hend
    have hle := h.stop_le
    omega

/-- A semicolon has one byte. -/
theorem stop_of_semicolon (h : x.StandsAt s query) (hx : x.token = .symbol ";") :
    s.stop = s.start + 1 :=
  (slice?_eq_some_iff.mp (h.semicolon hx)).stop_eq

end Lexeme.StandsAt

/-- The lexemes of a query from the offset `n` on, as far as they are listed: each has true
locations, and each begins at or behind the end of the one before. -/
inductive Placed (query : List Char) : Nat → List Lexeme → Prop
  /-- There need not be any more lexemes. -/
  | nil {n : Nat} : Placed query n []
  /-- The next lexeme, and those behind it. -/
  | cons {n : Nat} {x : Lexeme} {s : Span} {xs : List Lexeme} :
    x.StandsAt s query → n ≤ s.start → Placed query s.stop xs → Placed query n (x :: xs)

namespace Placed

variable {query : List Char} {n : Nat} {xs : List Lexeme}

theorem exists_of_cons {x : Lexeme} (h : Placed query n (x :: xs)) :
    ∃ s, x.StandsAt s query ∧ n ≤ s.start ∧ Placed query s.stop xs := by
  cases h with
  | cons hs hle hplaced => exact ⟨_, hs, hle, hplaced⟩

/-- Each of the lexemes has a span. -/
theorem standsAt (h : Placed query n xs) {x : Lexeme} (hx : x ∈ xs) :
    ∃ s, x.StandsAt s query ∧ n ≤ s.start := by
  induction h with
  | nil => cases hx
  | cons hy hle _ ih =>
    rcases List.mem_cons.mp hx with rfl | hx
    · exact ⟨_, hy, hle⟩
    · obtain ⟨s, hs, hbehind⟩ := ih hx
      have hspan := hy.start_le_stop
      exact ⟨s, hs, by omega⟩

/-- What is listed behind a lexeme stands behind it. -/
theorem of_append {ys : List Lexeme} {x : Lexeme} (h : Placed query n (ys ++ x :: xs)) :
    ∃ s, x.StandsAt s query ∧ Placed query s.stop xs := by
  generalize hzs : ys ++ x :: xs = zs at h
  induction h generalizing ys with
  | nil => simp at hzs
  | cons hy _ hrest ih =>
    cases ys with
    | nil =>
      obtain ⟨rfl, rfl⟩ := List.cons.inj hzs
      exact ⟨_, hy, hrest⟩
    | cons y ys => exact ih (List.cons.inj hzs).2

/-- **No two lexemes begin at the same place**, so whichever way a lexeme with characters is
searched for by its place, it is found. -/
theorem find?_eq_some (h : Placed query n xs) {p : Lexeme → Bool} {l : Location}
    (hp : ∀ y, p y → y.start = l) {x : Lexeme} (hx : x ∈ xs) (hpx : p x)
    (htoken : x.token ≠ .endMark) : xs.find? p = some x := by
  obtain ⟨y, hy⟩ := Option.isSome_iff_exists.mp (List.find?_isSome.mpr ⟨x, hx, hpx⟩)
  obtain ⟨hpy, before, behind, rfl, hbefore⟩ := List.find?_eq_some_iff_append.mp hy
  rcases List.mem_append.mp hx with hx | hx
  · -- nothing in front of the one that is found is searched for
    have hnot := hbefore x hx
    simp [hpx] at hnot
  rcases List.mem_cons.mp hx with rfl | hx
  · exact hy
  · obtain ⟨s, hs, hplaced⟩ := h.of_append
    obtain ⟨s', hs', hle⟩ := hplaced.standsAt hx
    -- both begin at the same place, so the one in front has no characters and ends the query
    have hsame : s.start = s'.start := by
      have hlocation : y.start = x.start := (hp y hpy).trans (hp x hpx).symm
      exact hs.start.unique (hlocation ▸ hs'.start)
    have hlt := hs'.start_lt_stop htoken
    have hstop := hs'.stop_le
    by_cases hend : y.token = .endMark
    · have hat := hs.token_eq_endMark_iff.mp hend
      omega
    · have hspan := hs.start_lt_stop hend
      omega

end Placed

end SqlAnalysis.Sql
