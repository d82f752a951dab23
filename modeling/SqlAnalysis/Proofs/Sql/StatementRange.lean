import SqlAnalysis.Analysis.Check
import SqlAnalysis.Proofs.Sql.LexerPlaces
import SqlAnalysis.Sql.Frontend

/-!
# Statement ranges split the query

The ranges of the statements of a query are the pieces between its semicolons that hold a token,
as long as there are as many of them as statements.  Then every token that matters stands in exactly
one range.  With any other number of pieces, and without lexemes, every statement gets the whole
query, so that no statement is lost and each can be looked up in a slice of the query.

## Main definitions

* `Token.isSignificant` — neither white space, nor a comment, nor a semicolon.
* `pieceCount` — how many pieces between semicolons hold a significant token.
* `SplitFrom` — ranges that split the listed lexemes at the semicolons.

## Main results

* `exists_filledPieces?` — **the filled pieces split the lexemes.**
* `ranges_faithful` — **ranges are a faithful split or all the whole query.**
-/

namespace SqlAnalysis.Sql

open Text

/-! ### Pieces of a query -/

/-- A token that makes up a statement: neither white space, nor a comment, nor a semicolon, nor the
mark of the end. -/
def Token.isSignificant (t : Token) : Bool :=
  !t.isBlank && t != .endMark && t != .symbol ";"

/-- How many pieces between semicolons hold a significant token. -/
def pieceCount (xs : List Lexeme) : Nat :=
  (xs.splitOnP (·.token == .symbol ";")).countP (·.any (·.token.isSignificant))

/-- The lexeme stands in the range `r` of a query. -/
def Lexeme.Within (x : Lexeme) (r : Span) (query : List Char) : Prop :=
  ∃ s, x.StandsAt s query ∧ r.start ≤ s.start ∧ s.stop ≤ r.stop

/-- The lexeme stands in front of the range `r` of a query, or behind it. -/
def Lexeme.Outside (x : Lexeme) (r : Span) (query : List Char) : Prop :=
  ∃ s, x.StandsAt s query ∧ (s.stop ≤ r.start ∨ r.stop ≤ s.start)

/-- The ranges split the lexemes, which are listed from the offset `start` on, at the
semicolons. -/
structure SplitFrom (query : List Char) (start : Nat) (xs : List Lexeme) (ranges : List Span) :
    Prop where
  le_start : ∀ r ∈ ranges, start ≤ r.start
  /-- Each range ends in front of the next one, with the semicolon in between. -/
  apart : ranges.Pairwise fun r r' => r.stop < r'.start
  /-- The ranges lie between boundaries. -/
  cuts : ∀ r ∈ ranges, ∃ w, w ≠ [] ∧ r.Cuts w query
  filled : ∀ r ∈ ranges, ∃ x ∈ xs, x.token.isSignificant ∧ x.Within r query
  /-- No range meets a semicolon. -/
  outside : ∀ r ∈ ranges, ∀ x ∈ xs, x.token = .symbol ";" → x.Outside r query
  once : ∀ x ∈ xs, x.token.isSignificant → ∃! r, r ∈ ranges ∧ x.Within r query

variable {query : List Char} {start : Nat} {xs : List Lexeme} {x : Lexeme}

theorem Token.ne_endMark_of_isSignificant {t : Token} (h : t.isSignificant) : t ≠ .endMark := by
  rintro rfl
  exact absurd h (by decide)

theorem Token.isSignificant_semicolon : (Token.symbol ";").isSignificant = false := by
  decide

/-- A token with characters does not stand in two ranges of which one ends in front of the
other. -/
theorem Lexeme.Within.not_within {r r' : Span} (h : x.Within r query) (hx : x.token ≠ .endMark)
    (hlt : r.stop < r'.start) : ¬x.Within r' query := by
  rintro ⟨s', hs', hstart', -⟩
  obtain ⟨s, hs, -, hstop⟩ := h
  obtain rfl := hs.unique hs'
  have hspan := hs.start_lt_stop hx
  omega

/-- Ranges that are apart do not share a token. -/
theorem existsUnique_within {ranges : List Span}
    (hapart : ranges.Pairwise fun r r' => r.stop < r'.start) (hx : x.token ≠ .endMark)
    (h : ∃ r ∈ ranges, x.Within r query) : ∃! r, r ∈ ranges ∧ x.Within r query := by
  obtain ⟨r, hr, hwithin⟩ := h
  refine ⟨r, ⟨hr, hwithin⟩, ?_⟩
  rintro r' ⟨hr', hwithin'⟩
  have hsame : ∀ r ∈ ranges, ∀ r' ∈ ranges, x.Within r query → x.Within r' query → r' = r := by
    refine List.Pairwise.forall_of_forall_of_flip (fun _ _ _ _ => rfl) ?_ ?_
    · exact hapart.imp fun hlt h h' => absurd h' (h.not_within hx hlt)
    · exact hapart.imp fun hlt h h' => absurd h (h'.not_within hx hlt)
  exact hsame r hr r' hr' hwithin hwithin'

/-! ### The steps of the split -/

theorem filledPieces?_of_isSignificant (filled : Bool) (hx : x.token.isSignificant) :
    filledPieces? query start filled (x :: xs) = filledPieces? query start true xs := by
  rw [filledPieces?]
  split
  · rename_i h
    rw [h] at hx
    exact absurd hx (by decide)
  · rename_i h
    rw [h] at hx
    exact absurd hx (by simp [Token.isSignificant, Token.isBlank])
  · rename_i h
    rw [h] at hx
    exact absurd hx (by decide)
  · rfl

theorem filledPieces?_of_not_isSignificant (filled : Bool) (hx : ¬x.token.isSignificant)
    (hne : x.token ≠ .symbol ";") :
    filledPieces? query start filled (x :: xs) = filledPieces? query start filled xs := by
  rw [filledPieces?]
  split
  · contradiction
  · rfl
  · rfl
  · rename_i hblank hend
    refine absurd ?_ hx
    cases htoken : x.token with
    | blank text => exact absurd htoken (hblank text)
    | _ => simp_all [Token.isSignificant, Token.isBlank]

theorem filledPieces?_semicolon (filled : Bool) (hx : x.token = .symbol ";") {stop : Nat}
    (hstop : x.start.IsAt stop query) :
    filledPieces? query start filled (x :: xs) =
      (filledPieces? query (stop + 1) false xs).map fun rest =>
        if filled then ⟨start, stop⟩ :: rest else rest := by
  rw [filledPieces?, hx]
  simp only [Location.isAt_iff.mp hstop, Option.bind_eq_bind, Option.bind_some]
  cases filledPieces? query (stop + 1) false xs <;> rfl

/-! ### Pieces without semicolons -/

/-- The range of a piece without semicolons, which is left out if no token matters. -/
def pieceRange (piece : List Lexeme) (r : Span) : List Span :=
  if piece.any (·.token.isSignificant) then [r] else []

theorem eq_of_mem_pieceRange {piece : List Lexeme} {r r' : Span}
    (h : r' ∈ pieceRange piece r) : r' = r ∧ ∃ x ∈ piece, x.token.isSignificant := by
  unfold pieceRange at h
  split at h
  · rename_i hany
    exact ⟨List.mem_singleton.mp h, List.any_eq_true.mp hany⟩
  · cases h

theorem mem_pieceRange {piece : List Lexeme} (r : Span) (hx : x ∈ piece)
    (hsignificant : x.token.isSignificant) : pieceRange piece r = [r] :=
  if_pos (List.any_eq_true.mpr ⟨x, hx, hsignificant⟩)

/-- A piece without semicolons is split by its range. -/
theorem splitFrom_pieceRange {piece : List Lexeme} {stop : Nat} (hstart : IsBoundary start query)
    (hstop : IsBoundary stop query)
    (hpiece : ∀ y ∈ piece, y.token ≠ .symbol ";" ∧ y.Within ⟨start, stop⟩ query) :
    SplitFrom query start piece (pieceRange piece ⟨start, stop⟩) where
  le_start := by
    intro r hr
    obtain ⟨rfl, -⟩ := eq_of_mem_pieceRange hr
    exact Nat.le_refl _
  apart := by
    unfold pieceRange
    split <;> simp
  cuts := by
    intro r hr
    obtain ⟨rfl, x, hx, hsignificant⟩ := eq_of_mem_pieceRange hr
    obtain ⟨s, hs, hle, hle'⟩ := (hpiece x hx).2
    have hlt := hs.start_lt_stop (Token.ne_endMark_of_isSignificant hsignificant)
    dsimp only at hle hle'
    obtain ⟨w, hw⟩ := exists_cuts_of_isBoundary hstart hstop (by omega)
    refine ⟨w, ?_, hw⟩
    rintro rfl
    have hlength := hw.stop_eq
    simp only [byteLength_nil] at hlength
    omega
  filled := by
    intro r hr
    obtain ⟨rfl, x, hx, hsignificant⟩ := eq_of_mem_pieceRange hr
    exact ⟨x, hx, hsignificant, (hpiece x hx).2⟩
  outside := fun _ _ x hx htoken => absurd htoken (hpiece x hx).1
  once := by
    intro x hx hsignificant
    rw [mem_pieceRange _ hx hsignificant]
    exact existsUnique_within (List.pairwise_singleton _ _)
      (Token.ne_endMark_of_isSignificant hsignificant)
      ⟨_, List.mem_singleton_self _, (hpiece x hx).2⟩

/-! ### Pieces behind a semicolon -/

theorem Lexeme.Within.mono {r r' : Span} (h : x.Within r query) (hstart : r'.start ≤ r.start)
    (hstop : r.stop ≤ r'.stop) : x.Within r' query := by
  obtain ⟨s, hs, hle, hle'⟩ := h
  exact ⟨s, hs, by omega, by omega⟩

/-- Two splits with a semicolon between them make up one. -/
theorem SplitFrom.append {piece : List Lexeme} {ranges rest : List Span} {s : Span}
    (hpiece : SplitFrom query start piece ranges) (hx : x.token = .symbol ";")
    (hs : x.StandsAt s query) (hrest : SplitFrom query s.stop xs rest)
    (hplaced : Placed query s.stop xs) (hle : start ≤ s.start)
    (hranges : ∀ r ∈ ranges, r.stop ≤ s.start)
    (hwithin : ∀ y ∈ piece, y.Within ⟨start, s.start⟩ query) :
    SplitFrom query start (piece ++ x :: xs) (ranges ++ rest) := by
  have hspan := hs.stop_of_semicolon hx
  have hapart : (ranges ++ rest).Pairwise fun r r' => r.stop < r'.start := by
    refine List.pairwise_append.mpr ⟨hpiece.apart, hrest.apart, fun r hr r' hr' => ?_⟩
    have hfront := hranges r hr
    have hbehind := hrest.le_start r' hr'
    omega
  refine ⟨?_, hapart, ?_, ?_, ?_, ?_⟩
  · intro r hr
    rcases List.mem_append.mp hr with hr | hr
    · exact hpiece.le_start r hr
    · have hbehind := hrest.le_start r hr
      omega
  · intro r hr
    rcases List.mem_append.mp hr with hr | hr
    · exact hpiece.cuts r hr
    · exact hrest.cuts r hr
  · intro r hr
    rcases List.mem_append.mp hr with hr | hr
    · obtain ⟨y, hy, hfilled⟩ := hpiece.filled r hr
      exact ⟨y, List.mem_append_left _ hy, hfilled⟩
    · obtain ⟨y, hy, hfilled⟩ := hrest.filled r hr
      exact ⟨y, List.mem_append_right _ (List.mem_cons_of_mem _ hy), hfilled⟩
  · intro r hr y hy hsemicolon
    rcases List.mem_append.mp hr with hr | hr
    · rcases List.mem_append.mp hy with hy | hy
      · exact hpiece.outside r hr y hy hsemicolon
      · -- the semicolon and everything behind it are behind the ranges in front of it
        have hfront := hranges r hr
        rcases List.mem_cons.mp hy with rfl | hy
        · exact ⟨s, hs, .inr hfront⟩
        · obtain ⟨s', hs', hbehind⟩ := hplaced.standsAt hy
          exact ⟨s', hs', .inr (by omega)⟩
    · have hbehind := hrest.le_start r hr
      rcases List.mem_append.mp hy with hy | hy
      · obtain ⟨s', hs', -, hstop⟩ := hwithin y hy
        dsimp only at hstop
        exact ⟨s', hs', .inl (by omega)⟩
      · rcases List.mem_cons.mp hy with rfl | hy
        · exact ⟨s, hs, .inl hbehind⟩
        · exact hrest.outside r hr y hy hsemicolon
  · intro y hy hsignificant
    refine existsUnique_within hapart (Token.ne_endMark_of_isSignificant hsignificant) ?_
    rcases List.mem_append.mp hy with hy | hy
    · obtain ⟨r, ⟨hr, hin⟩, -⟩ := hpiece.once y hy hsignificant
      exact ⟨r, List.mem_append_left _ hr, hin⟩
    · rcases List.mem_cons.mp hy with rfl | hy
      · rw [hx, Token.isSignificant_semicolon] at hsignificant
        cases hsignificant
      · obtain ⟨r, ⟨hr, hin⟩, -⟩ := hrest.once y hy hsignificant
        exact ⟨r, List.mem_append_right _ hr, hin⟩

/-! ### The whole split -/

/-- A piece without semicolons counts if it has a range. -/
theorem pieceCount_of_forall_ne {piece : List Lexeme} (r : Span)
    (h : ∀ y ∈ piece, y.token ≠ .symbol ";") :
    pieceCount piece = (pieceRange piece r).length := by
  have hsingle : piece.splitOnP (·.token == .symbol ";") = [piece] :=
    List.splitOnP_eq_singleton fun y hy => beq_eq_false_iff_ne.mpr (h y hy)
  rw [pieceCount, hsingle, List.countP_singleton, pieceRange]
  split <;> rfl

theorem pieceCount_append {piece : List Lexeme} (r : Span)
    (h : ∀ y ∈ piece, y.token ≠ .symbol ";") (hx : x.token = .symbol ";") :
    pieceCount (piece ++ x :: xs) = (pieceRange piece r).length + pieceCount xs := by
  have hcut : (piece ++ x :: xs).splitOnP (·.token == .symbol ";")
      = piece :: xs.splitOnP (·.token == .symbol ";") :=
    List.splitOnP_append_cons_of_forall_mem (fun y hy => beq_eq_false_iff_ne.mpr (h y hy)) x
      (beq_iff_eq.mpr hx) xs
  rw [pieceCount, hcut, List.countP_cons, pieceRange, pieceCount, Nat.add_comm]
  split <;> rfl

/-- **The filled pieces split the lexemes at the semicolons.**  The lexemes of `piece` have been
read since the offset `start`, and no semicolon among them. -/
theorem exists_filledPieces? (piece : List Lexeme) {n : Nat} (h : Placed query n xs)
    (hle : start ≤ n) (hstart : IsBoundary start query)
    (hpiece : ∀ y ∈ piece, y.token ≠ .symbol ";" ∧ y.Within ⟨start, n⟩ query) :
    ∃ ranges, filledPieces? query start (piece.any (·.token.isSignificant)) xs = some ranges ∧
      SplitFrom query start (piece ++ xs) ranges ∧
        ranges.length = pieceCount (piece ++ xs) := by
  induction xs generalizing piece start n with
  | nil =>
    have hend : ∀ y ∈ piece,
        y.token ≠ .symbol ";" ∧ y.Within ⟨start, byteLength query⟩ query := by
      intro y hy
      obtain ⟨s, hs, hfront, -⟩ := (hpiece y hy).2
      exact ⟨(hpiece y hy).1, s, hs, hfront, hs.stop_le⟩
    rw [List.append_nil]
    exact ⟨pieceRange piece ⟨start, byteLength query⟩, rfl,
      splitFrom_pieceRange hstart (isBoundary_length query) hend,
      (pieceCount_of_forall_ne _ fun y hy => (hpiece y hy).1).symm⟩
  | cons x xs ih =>
    obtain ⟨s, hs, hbehind, hplaced⟩ := h.exists_of_cons
    have hspan := hs.start_le_stop
    by_cases hx : x.token = .symbol ";"
    · -- the piece ends at the semicolon, and an empty one begins behind it
      have hwithin : ∀ y ∈ piece, y.token ≠ .symbol ";" ∧ y.Within ⟨start, s.start⟩ query :=
        fun y hy => ⟨(hpiece y hy).1, (hpiece y hy).2.mono (Nat.le_refl _) hbehind⟩
      obtain ⟨rest, hrest, hsplit, hcount⟩ := ih [] hplaced (Nat.le_refl _)
        hs.stop.isBoundary (by simp)
      rw [List.any_nil, hs.stop_of_semicolon hx] at hrest
      refine ⟨pieceRange piece ⟨start, s.start⟩ ++ rest, ?_, ?_, ?_⟩
      · rw [filledPieces?_semicolon _ hx hs.start, hrest, Option.map_some, pieceRange]
        split <;> rfl
      · refine (splitFrom_pieceRange hstart hs.start.isBoundary hwithin).append hx hs hsplit
          hplaced (by omega) (fun r hr => ?_) fun y hy => (hwithin y hy).2
        obtain ⟨rfl, -⟩ := eq_of_mem_pieceRange hr
        exact Nat.le_refl _
      · rw [pieceCount_append ⟨start, s.start⟩ (fun y hy => (hpiece y hy).1) hx,
          List.length_append, hcount, List.nil_append]
    · -- the lexeme goes on with the piece
      have hwithin : ∀ y ∈ piece ++ [x],
          y.token ≠ .symbol ";" ∧ y.Within ⟨start, s.stop⟩ query := by
        intro y hy
        rcases List.mem_append.mp hy with hy | hy
        · exact ⟨(hpiece y hy).1, (hpiece y hy).2.mono (Nat.le_refl _) (by dsimp only; omega)⟩
        · obtain rfl := List.mem_singleton.mp hy
          exact ⟨hx, s, hs, by dsimp only; omega, Nat.le_refl _⟩
      obtain ⟨ranges, hranges, hsplit⟩ := ih (piece ++ [x]) hplaced (by omega) hstart hwithin
      rw [List.append_assoc, List.singleton_append] at hsplit
      refine ⟨ranges, ?_, hsplit⟩
      rw [List.any_append, List.any_cons, List.any_nil, Bool.or_false] at hranges
      by_cases hsignificant : x.token.isSignificant
      · rwa [filledPieces?_of_isSignificant _ hsignificant, ← Bool.or_true, ← hsignificant]
      · rwa [filledPieces?_of_not_isSignificant _ hsignificant hx, ← Bool.or_false (piece.any _),
          ← Bool.eq_false_iff.mpr hsignificant]

/-! ### The ranges of statements -/

theorem statementRanges_eq (hplaced : Placed query 0 xs) (count : Nat) :
    (pieceCount xs = count → SplitFrom query 0 xs (statementRanges query xs count)) ∧
      (pieceCount xs ≠ count →
        statementRanges query xs count = List.replicate count ⟨0, byteLength query⟩) := by
  obtain ⟨ranges, hranges, hsplit, hcount⟩ :=
    exists_filledPieces? [] hplaced (Nat.le_refl 0) ⟨[], query, rfl, rfl⟩ (by simp)
  rw [List.any_nil] at hranges
  rw [List.nil_append] at hsplit hcount
  simp only [statementRanges, hranges, hcount]
  constructor
  · intro h
    rwa [if_pos h]
  · intro h
    rw [if_neg h]

theorem length_statementRanges (query : List Char) (xs : List Lexeme) (count : Nat) :
    (statementRanges query xs count).length = count := by
  unfold statementRanges
  split
  · split
    · assumption
    · exact List.length_replicate
  · exact List.length_replicate

/-- **Ranges are a faithful split or all the whole query.**  Whatever the lexemes are, as long as
their locations are true, there is one range for each statement.  If as many pieces between the
semicolons hold a token, the ranges split the query; otherwise each is the whole query.  Either way
the text of a statement is the slice at its range, and no statement is lost. -/
theorem ranges_faithful (r : Reading) (query : String)
    (hplaced : ∀ xs, r.lexemes = .ok xs → Placed query.toList 0 xs) :
    (∀ count, (r.ranges query count).length = count) ∧
    (∀ count, r.ranges query count = List.replicate count ⟨0, byteLength query.toList⟩ ∨
      ∃ xs, r.lexemes = .ok xs ∧ SplitFrom query.toList 0 xs (r.ranges query count)) ∧
    (∀ xs, r.lexemes = .ok xs →
      SplitFrom query.toList 0 xs (r.ranges query (pieceCount xs))) ∧
    (∀ count, ∀ s ∈ r.ranges query count, ∃ t, slice? s query.toList = some t ∧
      Source.ofRange query s = ⟨String.ofList t, s.start⟩) ∧
    ∀ outlines, r.outlines = .ok outlines → ∃ statements,
      r.parse query = .ok (.parsed statements) ∧ statements.length = outlines.length ∧
        statements.map (·.range) = r.ranges query outlines.length := by
  have hlength : ∀ count, (r.ranges query count).length = count := by
    intro count
    unfold Reading.ranges
    split
    · exact length_statementRanges _ _ _
    · exact List.length_replicate
  have hsplit : ∀ xs, r.lexemes = .ok xs →
      SplitFrom query.toList 0 xs (r.ranges query (pieceCount xs)) := by
    intro xs hxs
    simp only [Reading.ranges, hxs]
    exact (statementRanges_eq (hplaced xs hxs) _).1 rfl
  have hranges : ∀ count,
      r.ranges query count = List.replicate count ⟨0, byteLength query.toList⟩ ∨
        ∃ xs, r.lexemes = .ok xs ∧ SplitFrom query.toList 0 xs (r.ranges query count) := by
    intro count
    cases hxs : r.lexemes with
    | error message =>
      left
      simp only [Reading.ranges, hxs]
    | ok xs =>
      by_cases hcount : pieceCount xs = count
      · right
        exact ⟨xs, rfl, hcount ▸ hsplit xs hxs⟩
      · left
        simp only [Reading.ranges, hxs]
        exact (statementRanges_eq (hplaced xs hxs) count).2 hcount
  refine ⟨hlength, hranges, hsplit, fun count s hs => ?_, fun outlines houtlines => ?_⟩
  · have hcuts : ∃ t, s.Cuts t query.toList := by
      rcases hranges count with hwhole | ⟨xs, -, hfrom⟩
      · rw [hwhole] at hs
        obtain rfl := List.eq_of_mem_replicate hs
        exact ⟨query.toList, [], [], by simp, rfl, by simp⟩
      · obtain ⟨t, -, ht⟩ := hfrom.cuts s hs
        exact ⟨t, ht⟩
    obtain ⟨t, ht⟩ := hcuts
    have hslice := slice?_eq_some_iff.mpr ht
    exact ⟨t, hslice, by rw [Source.ofRange, hslice]⟩
  · refine ⟨List.zipWith Outline.statement outlines (r.ranges query outlines.length), ?_, ?_, ?_⟩
    · simp only [Reading.parse, houtlines]
    · rw [List.length_zipWith, hlength, Nat.min_self]
    · have hzip : (List.zipWith Outline.statement outlines (r.ranges query outlines.length)).map
          (·.range) = (outlines.zip (r.ranges query outlines.length)).map Prod.snd := by
        rw [List.zip, List.map_zipWith, List.map_zipWith]
        rfl
      rw [hzip, List.map_snd_zip (by rw [hlength])]

/-- What the lexer of this library reads stands where it says. -/
theorem placed_readQuery {query : String} {xs : List Lexeme}
    (h : (readQuery query).lexemes = .ok xs) : Placed query.toList 0 xs := by
  refine placed_lex ?_
  rw [← h, readQuery]
  cases lex query <;> rfl

/-- Empty statements and a semicolon in a text do not disturb the split, and with a count that does
not agree every statement gets the whole query. -/
theorem ranges_faithful_empty_statements :
    let query := "SELECT 1; SELECT ';' ;;  DELETE FROM t"
    let r := readQuery query
    (∀ xs, r.lexemes = .ok xs → Placed query.toList 0 xs) ∧
      r.ranges query 3 = [⟨0, 8⟩, ⟨9, 21⟩, ⟨23, 38⟩] ∧
        (∃ xs, r.lexemes = .ok xs ∧ SplitFrom query.toList 0 xs (r.ranges query 3)) ∧
          r.ranges query 2 = [⟨0, 38⟩, ⟨0, 38⟩] ∧ (r.ranges query 2).length = 2 := by
  intro query r
  have hplaced : ∀ xs, r.lexemes = .ok xs → Placed query.toList 0 xs := fun _ => placed_readQuery
  have hranges : r.ranges query 3 = [⟨0, 8⟩, ⟨9, 21⟩, ⟨23, 38⟩] := by decide +kernel
  have hwhole : r.ranges query 2 = [⟨0, 38⟩, ⟨0, 38⟩] := by decide +kernel
  obtain ⟨hlength, hsplit, -⟩ := ranges_faithful r query hplaced
  refine ⟨hplaced, hranges, (hsplit 3).resolve_left ?_, hwhole, hlength 2⟩
  rw [hranges]
  decide

end SqlAnalysis.Sql
