import SqlAnalysis.Proofs.Sql.Blame
import SqlAnalysis.Proofs.Sql.LexerPlaces
import SqlAnalysis.Proofs.Sql.Mention

/-!
# Which token is blamed

A message that ends in a place blames what stands there in the query, and nothing else in the
message matters.  When the lexemes have true locations, the token that begins at the place is told
from its location alone, and its text is a piece of the query that ends at the reported position.

## Main definitions

* `Blames query lexemes l p` — the problem `p` is what a rejection at the location `l` means.

## Main results

* `syntaxProblem_append_suffix` — **what a message says in front of its place does not matter.**
* `problemAt_eq_iff` — the problem at a place is the one that is meant.
* `syntaxProblem_eq_iff_blames` — **a rejected query blames what stands at the place that its
  message ends in.**
-/

namespace SqlAnalysis.Sql

open Text

variable {query : List Char} {lexemes : Except String (List Lexeme)} {l : Location}

/-- What a rejection at the location `l` means for a query.  White space and comments are no tokens
here, and the end mark has no text. -/
inductive Blames (query : List Char) (lexemes : Except String (List Lexeme)) (l : Location) :
    SyntaxProblem → Prop
  /-- A token begins there: its text is named, and the problem is at its end. -/
  | token {xs : List Lexeme} {x : Lexeme} {s : Span} {w : List Char} :
    lexemes = .ok xs → x ∈ xs → x.token.isBlank = false → x.token ≠ .endMark → x.start = l →
      x.StandsAt s query → slice? s query = some w →
      Blames query lexemes l ⟨String.ofList w, some s.stop⟩
  /-- Only the end mark is there. -/
  | endMark {xs : List Lexeme} {x : Lexeme} :
    lexemes = .ok xs → x ∈ xs → x.token = .endMark → x.start = l →
      Blames query lexemes l ⟨"", none⟩
  /-- The query has no such place. -/
  | nowhere : (∀ n, ¬l.IsAt n query) → Blames query lexemes l ⟨"", none⟩
  /-- No token begins there. -/
  | noToken {xs : List Lexeme} {n : Nat} :
    lexemes = .ok xs → (∀ x ∈ xs, x.start = l → x.token.isBlank = true) → l.IsAt n query →
      Blames query lexemes l ⟨"", some n⟩
  /-- The query has no tokens. -/
  | unread {message : String} {n : Nat} :
    lexemes = .error message → l.IsAt n query → Blames query lexemes l ⟨"", some n⟩

/-! ### The place of a message -/

/-- The numbers of a location are not greater than the number of places. -/
theorem Location.IsAt.line_column_le {n : Nat} (h : l.IsAt n query) :
    l.line ≤ byteLength query + 1 ∧ l.column ≤ byteLength query + 1 := by
  obtain ⟨a, b, rfl, -, rfl⟩ := h
  have hlength := length_le_byteLength a
  have hline := lineOf_le a
  have hcolumn := columnOf_le a
  rw [byteLength_append]
  constructor
  · show lineOf a ≤ _
    omega
  · show columnOf a ≤ _
    omega

/-- **What a message says in front of its place does not matter.** -/
theorem syntaxProblem_append_suffix (query : String) (lexemes : Except String (List Lexeme))
    (hquery : byteLength query.toList + 1 < numberLimit) (l : Location) (front : String) :
    syntaxProblem query lexemes (front ++ l.suffix) = problemAt query.toList lexemes l := by
  rw [syntaxProblem, String.toList_append, lastLocation?_append_suffix]
  by_cases hfits : l.line < numberLimit ∧ l.column < numberLimit
  · rw [if_pos hfits]
  · -- a place whose numbers do not fit is outside the query
    rw [if_neg hfits, problemAt]
    cases hplace : offsetOf? l.line l.column query.toList with
    | none => rfl
    | some n =>
      obtain ⟨hline, hcolumn⟩ := (Location.isAt_iff.mpr hplace).line_column_le
      exact absurd ⟨by omega, by omega⟩ hfits

/-! ### The token at a place -/

/-- A token with true locations has its own span. -/
theorem Lexeme.StandsAt.tokenSpan_eq {x : Lexeme} {s : Span} (h : x.StandsAt s query)
    (hx : x.token ≠ .endMark) : tokenSpan query s.start x = s := by
  have hlt := h.start_lt_stop hx
  rw [tokenSpan, Location.isAt_iff.mp h.stop]
  simp [Option.filter, hlt]

/-- The problem at a place is one that is meant. -/
theorem blames_problemAt (hplaced : ∀ xs, lexemes = .ok xs → Placed query 0 xs) :
    Blames query lexemes l (problemAt query lexemes l) := by
  unfold problemAt
  cases hplace : offsetOf? l.line l.column query with
  | none =>
    refine .nowhere fun n hn => ?_
    rw [Location.isAt_iff, hplace] at hn
    cases hn
  | some n =>
    have hl := Location.isAt_iff.mpr hplace
    cases lexemes with
    | error message => exact .unread rfl hl
    | ok xs =>
      dsimp only
      split
      · rename_i hnone
        refine .noToken rfl (fun x hx hstart => ?_) hl
        simpa [hstart] using List.find?_eq_none.mp hnone x hx
      · rename_i x hfound
        have hx := List.mem_of_find?_eq_some hfound
        obtain ⟨hblank, rfl⟩ : x.token.isBlank = false ∧ x.start = l := by
          simpa using List.find?_some hfound
        split
        · rename_i hend
          exact .endMark rfl hx hend rfl
        · rename_i hend
          obtain ⟨s, hs, -⟩ := (hplaced xs rfl).standsAt hx
          obtain rfl := hl.unique hs.start
          obtain ⟨w, hw⟩ := exists_slice_tokenSpan hl.isBoundary x
          rw [hs.tokenSpan_eq hend] at hw ⊢
          rw [hw, Option.getD_some]
          exact .token rfl hx hblank hend rfl hs hw

/-- Only one problem is meant. -/
theorem Blames.problemAt_eq (hplaced : ∀ xs, lexemes = .ok xs → Placed query 0 xs)
    {p : SyntaxProblem} (h : Blames query lexemes l p) : problemAt query lexemes l = p := by
  unfold problemAt
  cases h with
  | @token xs x s w hlexemes hx hblank hend hstart hs hw =>
    subst hlexemes hstart
    have hfound : xs.find? (fun y => !y.token.isBlank && y.start == x.start) = some x := by
      refine (hplaced xs rfl).find?_eq_some (l := x.start) ?_ hx (by simp [hblank]) hend
      intro y hy
      simp only [Bool.and_eq_true, beq_iff_eq] at hy
      exact hy.2
    rw [Location.isAt_iff.mp hs.start]
    dsimp only
    rw [hfound]
    dsimp only
    rw [if_neg hend, hs.tokenSpan_eq hend, hw, Option.getD_some]
  | @endMark xs x hlexemes hx hend hstart =>
    subst hlexemes hstart
    obtain ⟨s, hs, -⟩ := (hplaced xs rfl).standsAt hx
    have hblank : x.token.isBlank = false := by rw [hend]; rfl
    rw [Location.isAt_iff.mp hs.start]
    dsimp only
    split
    · rename_i hnone
      have hx' := List.find?_eq_none.mp hnone x hx
      simp [hblank] at hx'
    · rename_i y hfound
      -- whatever is found there begins where the query ends
      have hy := List.find?_some hfound
      simp only [Bool.and_eq_true, beq_iff_eq] at hy
      obtain ⟨s', hs', -⟩ := (hplaced xs rfl).standsAt (List.mem_of_find?_eq_some hfound)
      have hsame := hs.start.unique (hy.2 ▸ hs'.start)
      rw [if_pos (hs'.token_eq_endMark_iff.mpr (hsame ▸ hs.token_eq_endMark_iff.mp hend))]
      rfl
  | nowhere hnowhere =>
    cases hplace : offsetOf? l.line l.column query with
    | none => rfl
    | some n => exact absurd (Location.isAt_iff.mpr hplace) (hnowhere n)
  | @noToken xs n hlexemes hnone hl =>
    subst hlexemes
    have hnotFound : xs.find? (fun y => !y.token.isBlank && y.start == l) = none := by
      rw [List.find?_eq_none]
      intro y hy htest
      simp only [Bool.and_eq_true, Bool.not_eq_true', beq_iff_eq] at htest
      have hblank := hnone y hy htest.2
      rw [htest.1] at hblank
      cases hblank
    rw [Location.isAt_iff.mp hl]
    dsimp only
    rw [hnotFound]
  | unread hlexemes hl =>
    rw [Location.isAt_iff.mp hl, hlexemes]

/-- **A rejected query blames what stands at the place that its message ends in**, whatever the
message says in front of it, and nothing else.  The lines and columns of the query have to fit into
64 bits, as those of every text in memory do. -/
theorem syntaxProblem_eq_iff_blames (query : String) (lexemes : Except String (List Lexeme))
    (hquery : byteLength query.toList + 1 < numberLimit)
    (hplaced : ∀ xs, lexemes = .ok xs → Placed query.toList 0 xs) (l : Location) (front : String)
    (p : SyntaxProblem) :
    syntaxProblem query lexemes (front ++ l.suffix) = p ↔ Blames query.toList lexemes l p := by
  rw [syntaxProblem_append_suffix query lexemes hquery]
  constructor
  · rintro rfl
    exact blames_problemAt hplaced
  · exact Blames.problemAt_eq hplaced

/-- A message that quotes a place from the query still blames the token at its end, and a place
behind the last line blames the end of the query. -/
theorem syntaxProblem_quoted_place :
    let query := "SELECT 'at Line: 1, Column: 1' FRM users"
    let front := "Expected: end of statement, found: 'at Line: 1, Column: 1'"
    byteLength query.toList + 1 < numberLimit ∧
      (∀ xs, lex query = .ok xs → Placed query.toList 0 xs) ∧
        Blames query.toList (lex query) ⟨1, 32⟩ ⟨"FRM", some 34⟩ ∧
          syntaxProblem query (lex query) (front ++ (⟨1, 32⟩ : Location).suffix) =
              ⟨"FRM", some 34⟩ ∧
            syntaxProblem query (lex query) (front ++ (⟨2, 1⟩ : Location).suffix) = ⟨"", none⟩ := by
  intro query front
  have hquery : byteLength query.toList + 1 < numberLimit := by decide
  have hplaced : ∀ xs, lex query = .ok xs → Placed query.toList 0 xs := fun _ => placed_lex
  have hblamed : syntaxProblem query (lex query) (front ++ (⟨1, 32⟩ : Location).suffix) =
      ⟨"FRM", some 34⟩ := by decide +kernel
  have hnowhere : ∀ n, ¬(⟨2, 1⟩ : Location).IsAt n query.toList := by
    intro n hn
    have hplace : offsetOf? 2 1 query.toList = none := by decide +kernel
    rw [Location.isAt_iff, hplace] at hn
    cases hn
  exact ⟨hquery, hplaced,
    (syntaxProblem_eq_iff_blames query (lex query) hquery hplaced ⟨1, 32⟩ front _).mp hblamed,
    hblamed,
    (syntaxProblem_eq_iff_blames query (lex query) hquery hplaced ⟨2, 1⟩ front _).mpr
      (.nowhere hnowhere)⟩

end SqlAnalysis.Sql
