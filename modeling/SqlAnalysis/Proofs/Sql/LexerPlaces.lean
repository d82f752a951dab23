import SqlAnalysis.Proofs.Sql.Places
import SqlAnalysis.Sql.Lexer

/-!
# The lexer tells the truth about places

The first token of a text takes characters from its front, at least one, and only a semicolon is
read as a semicolon.  So a scan that starts where its location says goes from token to token without
gaps, and the locations that it notes down are those of the two ends of each token.

## Main definitions

* `Lexer.Piece.Heads` — a piece is made of the first characters of a text.

## Main results

* `Lexer.heads_of_first` — the first token of a text is made of its first characters.
* `placed_lex` — **the lexemes of a query stand where they say.**
-/

namespace SqlAnalysis.Sql

open Text Unicode

namespace Lexer

/-- The piece is made of the first characters of the text `t`, and it is read as what it is. -/
structure Piece.Heads (p : Piece) (t : List Char) : Prop where
  ne_nil : p.taken ≠ []
  front : p.taken <+: t
  ne_endMark : p.token ≠ .endMark
  semicolon : p.token = .symbol ";" → p.taken = [';']

/-! ### The parts of tokens -/

theorem quotedName_front {t raw name : List Char} (h : quotedName t = some (raw, name)) :
    raw <+: t := by
  fun_induction quotedName t generalizing raw name with
  | case1 => cases h
  | case2 r ih =>
    obtain ⟨⟨raw', name'⟩, hr, hpair⟩ := Option.map_eq_some_iff.mp h
    obtain ⟨rfl, rfl⟩ := Prod.mk.inj hpair
    simpa using ih hr
  | case3 r _ =>
    obtain ⟨rfl, rfl⟩ := Prod.mk.inj (Option.some.inj h)
    exact ⟨r, rfl⟩
  | case4 c r _ _ ih =>
    obtain ⟨⟨raw', name'⟩, hr, hpair⟩ := Option.map_eq_some_iff.mp h
    obtain ⟨rfl, rfl⟩ := Prod.mk.inj hpair
    simpa using ih hr

theorem quotedText_front {mark : Char} {escapes : Bool} {t raw s : List Char}
    (h : quotedText mark escapes t = some (raw, s)) : raw <+: t := by
  fun_induction quotedText mark escapes t generalizing raw s with
  | case1 | case3 => cases h
  | case2 | case5 =>
    obtain ⟨rfl, rfl⟩ := Prod.mk.inj (Option.some.inj h)
    simp
  | case4 r ih | case6 c d r _ _ ih | case7 c d r _ _ ih =>
    obtain ⟨⟨raw', s'⟩, hr, hpair⟩ := Option.map_eq_some_iff.mp h
    obtain ⟨rfl, rfl⟩ := Prod.mk.inj hpair
    simpa using ih hr

theorem blockComment_front {t raw : List Char} (h : blockComment t = some raw) : raw <+: t := by
  fun_induction blockComment t generalizing raw with
  | case1 => cases h
  | case2 r =>
    obtain rfl := Option.some.inj h
    exact ⟨r, rfl⟩
  | case3 c t _ ih =>
    obtain ⟨raw', hr, rfl⟩ := Option.map_eq_some_iff.mp h
    simpa using ih hr

theorem restOfLine_front (t : List Char) : restOfLine t <+: t := by
  induction t with
  | nil => exact List.prefix_rfl
  | cons c t ih =>
    rw [restOfLine]
    split
    · exact ⟨t, rfl⟩
    · simpa using ih

theorem exponent_front (t : List Char) : exponent t <+: t := by
  -- what is taken behind the letter: a sign, if there is one, and digits
  have htaken : ∀ (e : Char) (sign rest : List Char),
      (if (rest.takeWhile isAsciiDigit).isEmpty then []
        else e :: (sign ++ rest.takeWhile isAsciiDigit)) <+: e :: (sign ++ rest) := by
    intro e sign rest
    split
    · exact List.nil_prefix
    · rw [List.cons_prefix_cons, List.prefix_append_right_inj]
      exact ⟨rfl, List.takeWhile_prefix _⟩
  unfold exponent
  cases t with
  | nil => exact List.prefix_rfl
  | cons e t =>
    cases t with
    | nil => exact htaken e [] []
    | cons c r =>
      by_cases hc : (c = '+' ∨ c = '-')
      · simpa [hc] using htaken e [c] r
      · simpa [hc] using htaken e [] (c :: r)

/-- A token other than the end mark and the semicolon. -/
theorem Piece.heads_of_ne {token : Token} {taken t : List Char} (hne : taken ≠ [])
    (hfront : taken <+: t) (hend : token ≠ .endMark) (hsemicolon : token ≠ .symbol ";") :
    (⟨token, taken⟩ : Piece).Heads t :=
  ⟨hne, hfront, hend, fun h => absurd h hsemicolon⟩

theorem Piece.heads_ite {b : Prop} [Decidable b] {p q : Piece} {t : List Char}
    (hp : b → p.Heads t) (hq : ¬b → q.Heads t) : (if b then p else q).Heads t := by
  split
  · exact hp ‹_›
  · exact hq ‹_›

theorem heads_bareWord {front rest : List Char} (hne : front ≠ []) :
    (bareWord front rest).Heads (front ++ rest) :=
  Piece.heads_of_ne (by simp [hne])
    ((List.prefix_append_right_inj front).mpr (List.takeWhile_prefix _)) (by simp) (by simp)

theorem heads_textPiece {front rest : List Char} {mark : Char} {escapes : Bool}
    {token : String → Token} {p : Piece} (hend : ∀ s, token s ≠ .endMark)
    (hsemicolon : ∀ s, token s ≠ .symbol ";")
    (h : textPiece front mark escapes rest token = .ok p) : p.Heads (front ++ mark :: rest) := by
  unfold textPiece at h
  split at h
  · rename_i raw s hraw
    cases h
    refine Piece.heads_of_ne (by simp) ?_ (hend _) (hsemicolon _)
    rw [List.prefix_append_right_inj, List.cons_prefix_cons]
    exact ⟨rfl, quotedText_front hraw⟩
  · cases h

/-- The token that starts with a digit or a point is made of digits, an optional point, more
digits, and of what follows them directly. -/
theorem heads_number (before : Option Token) {c : Char} (hc : isAsciiDigit c ∨ c = '.')
    (t : List Char) : (number before (c :: t)).Heads (c :: t) := by
  have htext : c :: t = (c :: t).takeWhile isAsciiDigit ++ (c :: t).dropWhile isAsciiDigit :=
    List.takeWhile_append_dropWhile.symm
  have hne : (c :: t).takeWhile isAsciiDigit ++
      (((c :: t).dropWhile isAsciiDigit).takeWhile (· = '.')).take 1 ≠ [] := by
    rcases hc with hc | rfl
    · simp [hc]
    · have hpoint : isAsciiDigit '.' = false := by decide
      simp [hpoint]
  unfold number
  dsimp only
  generalize (c :: t).takeWhile isAsciiDigit = digits at htext hne ⊢
  generalize (c :: t).dropWhile isAsciiDigit = rest at htext hne ⊢
  split
  · rename_i r
    refine Piece.heads_of_ne (by simp) ?_ (by simp) (by simp)
    rw [htext]
    simpa using List.takeWhile_prefix isHexDigit
  · -- the text is `written`, made of digits and at most one point, and a `tail` behind it
    have hpoint : (rest.takeWhile (· = '.')).take 1 ++
        rest.drop ((rest.takeWhile (· = '.')).take 1).length = rest :=
      List.prefix_iff_eq_append.mp ((List.take_prefix _ _).trans (List.takeWhile_prefix _))
    generalize (rest.takeWhile (· = '.')).take 1 = point at hpoint hne ⊢
    generalize rest.drop point.length = behind at hpoint ⊢
    have hbehind : behind.takeWhile isAsciiDigit ++ behind.dropWhile isAsciiDigit = behind :=
      List.takeWhile_append_dropWhile
    generalize behind.takeWhile isAsciiDigit = more at hbehind ⊢
    generalize behind.dropWhile isAsciiDigit = tail at hbehind ⊢
    have hwritten : c :: t = digits ++ point ++ more ++ tail := by
      rw [htext, ← hpoint, ← hbehind]
      simp
    refine Piece.heads_ite (fun h => ?_) fun _ => Piece.heads_ite (fun h => ?_) fun _ => ?_
    · have hwhole := of_decide_eq_true (Bool.and_eq_true_iff.mp h).1
      refine Piece.heads_of_ne (by simp) ?_ (by simp) (by simp)
      rw [hwritten, hwhole]
      simp
    · refine Piece.heads_of_ne (by simp) ?_ (by simp) (by simp)
      rw [hwritten, h]
      simp
    · have hne' : digits ++ point ++ more ≠ [] := by simp_all
      generalize digits ++ point ++ more = written at hwritten hne' ⊢
      rw [hwritten]
      refine Piece.heads_ite (fun _ => ?_) fun _ => ?_
      · have hexponent := exponent_front tail
        refine Piece.heads_ite (fun _ => ?_) fun _ => Piece.heads_ite (fun h => ?_) fun _ => ?_
        · exact Piece.heads_of_ne (by simp [hne'])
            ((List.prefix_append_right_inj written).mpr hexponent) (by simp) (by simp)
        · -- the letter behind the number belongs to it
          obtain ⟨r, hr⟩ := hexponent
          have hrest : tail.drop (exponent tail).length = r := by
            nth_rewrite 2 [← hr]
            exact List.drop_left
          rw [hrest] at h
          obtain ⟨r, rfl⟩ := List.head?_eq_some_iff.mp h
          exact Piece.heads_of_ne (by simp) ⟨r, by simp [hr]⟩ (by simp) (by simp)
        · exact Piece.heads_of_ne (by simp [hne'])
            ((List.prefix_append_right_inj written).mpr hexponent) (by simp) (by simp)
      · refine Piece.heads_ite (fun _ => ?_) fun _ => ?_
        · exact Piece.heads_of_ne hne' (List.prefix_append _ _) (by simp) (by simp)
        · exact Piece.heads_of_ne (by simp [hne'])
            ((List.prefix_append_right_inj written).mpr (List.takeWhile_prefix _)) (by simp)
            (by simp)

theorem heads_operator {t : List Char} {p : Piece} (h : operator? t = some p) : p.Heads t := by
  obtain ⟨s, hs, rfl⟩ := Option.map_eq_some_iff.mp h
  have hmem := List.mem_of_find?_eq_some hs
  have hfront : s.toList <+: t := by
    have hfound := List.find?_some hs
    exact List.isPrefixOf_iff_prefix.mp hfound
  have hspelled : ∀ s ∈ symbols, s.toList ≠ [] ∧
      ((if s = "!=" then "<>" else s) = ";" → s.toList = [';']) := by
    decide
  obtain ⟨hne, hsemicolon⟩ := hspelled s hmem
  exact ⟨hne, hfront, by simp, fun h => hsemicolon (Token.symbol.inj h)⟩

theorem heads_atSign (rest : List Char) : (atSign rest).Heads ('@' :: rest) := by
  unfold atSign
  split
  · exact Piece.heads_of_ne (by simp) (by simp) (by simp) (by simp)
  · exact Piece.heads_of_ne (by simp) (by simp) (by simp) (by simp)
  · exact Piece.heads_of_ne (by simp) (by simp) (by simp) (by simp)
  · exact Piece.heads_of_ne (by simp) (by simp) (by simp) (by simp)
  · refine Piece.heads_ite (fun _ => ?_) fun _ => ?_
    · exact Piece.heads_of_ne (by simp) (by simp) (by simp) (by simp)
    · exact heads_bareWord (by simp)
  · refine Piece.heads_ite (fun _ => ?_) fun _ => ?_
    · exact Piece.heads_of_ne (by simp) (by simp) (by simp) (by simp)
    · exact heads_bareWord (by simp)

/-- **The first token of a text is made of its first characters.** -/
theorem heads_of_first {before : Option Token} {c : Char} {t : List Char} {p : Piece}
    (h : first before c t = .ok p) : p.Heads (c :: t) := by
  unfold first at h
  split at h
  case h_1 =>
    cases h
    exact Piece.heads_of_ne (by simp) (by simp) (by simp) (by simp)
  case h_2 | h_3 | h_4 | h_5 | h_6 | h_7 | h_8 | h_9 | h_10 | h_11 =>
    exact heads_textPiece (by simp) (by simp) h
  case h_12 =>
    split at h
    · rename_i raw name hname
      cases h
      exact Piece.heads_of_ne (by simp) (by simpa using quotedName_front hname) (by simp) (by simp)
    · cases h
  case h_13 =>
    split at h
    · cases h
      exact Piece.heads_of_ne (by simp) (by simp) (by simp) (by simp)
    · cases h
  case h_14 =>
    cases h
    exact Piece.heads_of_ne (by simp) (by simpa using restOfLine_front _) (by simp) (by simp)
  case h_15 =>
    cases h
    exact Piece.heads_of_ne (by simp) (by simpa using restOfLine_front _) (by simp) (by simp)
  case h_16 =>
    split at h
    · rename_i raw hraw
      cases h
      exact Piece.heads_of_ne (by simp) (by simpa using blockComment_front hraw) (by simp) (by simp)
    · cases h
  case h_17 =>
    cases h
    exact heads_atSign _
  case h_18 =>
    cases h
    exact Piece.heads_of_ne (by simp) (by simpa using List.takeWhile_prefix isNumeric) (by simp)
      (by simp)
  case h_19 =>
    split at h
    · rename_i hnumber
      cases h
      exact heads_number before (by simpa using hnumber) t
    · split at h
      · cases h
        exact heads_bareWord (by simp)
      · split at h
        · cases h
          exact Piece.heads_of_ne (by simp) (by simp) (by simp) (by simp)
        · cases h
          cases hoperator : operator? (c :: t) with
          | none => exact Piece.heads_of_ne (by simp) (by simp) (by simp) (by simp)
          | some p => exact heads_operator hoperator

/-! ### The scan -/

/-- The locations that the scan goes through are those of the places it comes to. -/
theorem after_place (a w : List Char) :
    (⟨lineOf a, columnOf a⟩ : Location).after w = ⟨lineOf (a ++ w), columnOf (a ++ w)⟩ := by
  induction w generalizing a with
  | nil => rw [List.append_nil, Location.after_nil]
  | cons c w ih =>
    have hnext : (⟨lineOf a, columnOf a⟩ : Location).next c
        = ⟨lineOf (a ++ [c]), columnOf (a ++ [c])⟩ := by
      rw [Location.next, lineOf_append]
      by_cases hc : c = '\n'
      · subst hc
        rw [if_pos rfl, columnOf_append_of_mem a (by simp)]
        rfl
      · have hfeed : '\n' ∉ [c] := by simpa using Ne.symm hc
        rw [if_neg hc, columnOf_append_of_notMem a hfeed, List.count_eq_zero.mpr hfeed]
        rfl
    rw [Location.after_cons, hnext, ih, List.append_assoc, List.singleton_append]

/-- The lexemes of a rest of a query, of which the first `skip` characters belong to the token
before, stand behind these characters. -/
theorem placed_scan {query : List Char} {before : Option Token} {skip : Nat} {a t : List Char}
    {xs : List Lexeme} (hquery : query = a ++ t)
    (h : scan before skip ⟨lineOf a, columnOf a⟩ t = .ok xs) :
    Placed query (byteLength (a ++ t.take skip)) xs := by
  induction t generalizing before skip a xs with
  | nil =>
    rw [scan] at h
    cases h
    exact .nil
  | cons c t ih =>
    have hnext : (⟨lineOf a, columnOf a⟩ : Location).next c
        = ⟨lineOf (a ++ [c]), columnOf (a ++ [c])⟩ := after_place a [c]
    have hrest : query = (a ++ [c]) ++ t := by simp [hquery]
    cases skip with
    | succ skip =>
      rw [scan, hnext] at h
      simpa using ih hrest h
    | zero =>
      rw [scan, hnext] at h
      cases hfirst : first before c t with
      | error e => simp [hfirst] at h
      | ok p =>
        simp only [hfirst] at h
        cases hscan : scan (some p.token) (p.taken.length - 1)
            ⟨lineOf (a ++ [c]), columnOf (a ++ [c])⟩ t with
        | error e => simp [hscan, Except.map] at h
        | ok ys =>
          rw [hscan] at h
          cases h
          -- the token takes the first character and those that are skipped
          obtain ⟨hne, ⟨r, hr⟩, hend, hsemicolon⟩ := heads_of_first hfirst
          obtain ⟨d, w, hw⟩ := List.exists_cons_of_ne_nil hne
          rw [hw, List.cons_append] at hr
          obtain ⟨rfl, rfl⟩ := List.cons.inj hr
          have hplaced := ih hrest hscan
          rw [hw, List.length_cons, Nat.add_sub_cancel, List.take_left, List.append_assoc]
            at hplaced
          refine .cons (s := ⟨byteLength a, byteLength (a ++ d :: w)⟩) ⟨?_, ?_, ?_, ?_, ?_⟩ ?_
            hplaced
          · exact ⟨a, _, hquery, rfl, rfl⟩
          · exact ⟨a ++ d :: w, r, by simp [hquery], rfl, by rw [hw]; exact after_place a _⟩
          · intro _
            have hlength := byteLength_pos (List.cons_ne_nil d w)
            simp only [byteLength_append]
            omega
          · exact fun htoken => absurd htoken hend
          · intro htoken
            rw [← hsemicolon htoken, hw]
            exact slice?_eq_some_iff.mpr ⟨a, r, by simp [hquery], rfl, rfl⟩
          · simp

end Lexer

/-- **The lexemes of a query stand where they say.** -/
theorem placed_lex {query : String} {xs : List Lexeme} (h : lex query = .ok xs) :
    Placed query.toList 0 xs := by
  simpa using Lexer.placed_scan (a := []) rfl h

end SqlAnalysis.Sql
