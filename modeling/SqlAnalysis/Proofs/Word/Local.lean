import SqlAnalysis.Proofs.Word.Maximal

/-!
# Words are found locally

A separator or a blank that belongs to no number cuts a text: the words in front of it and the
words behind it are those of the two parts on their own.  So a piece of a query that stands
between semicolons has the words in the query that it has alone, at its own place.

## Main definitions

* `Word.cutsWords` — a separator or a blank that belongs to no number.
* `Word.shift` — a word moved to the right.

## Main results

* `Word.scan_append_cons` — **a character that cuts words splits the scan.**
* `words_push_append_iff` — **the characters at which a text can be cut without changing its
  words.**
* `mem_words_of_mem_words_piece` — the words of a piece between semicolons are words of the query.
-/

namespace SqlAnalysis

open Text Unicode

namespace Word

/-- A separator or a blank that belongs to no number: neither a point nor a minus sign. -/
def cutsWords (c : Char) : Bool :=
  !isRunChar c && c != '.' && c != '-'

section

variable {c : Char}

theorem cutsWords_iff :
    cutsWords c = true ↔ (isSeparator c = true ∨ isBlank c = true) ∧ c ≠ '.' ∧ c ≠ '-' := by
  simp [cutsWords, isRunChar, and_assoc]

theorem isRunChar_eq_false_of_cutsWords (hc : cutsWords c = true) : isRunChar c = false := by
  simp only [cutsWords, Bool.and_eq_true, Bool.not_eq_true'] at hc
  exact hc.1.1

theorem ne_point_of_cutsWords (hc : cutsWords c = true) : c ≠ '.' := by
  rintro rfl
  cases hc

theorem ne_minus_of_cutsWords (hc : cutsWords c = true) : c ≠ '-' := by
  rintro rfl
  cases hc

theorem isWordChar_eq_false_of_cutsWords (hc : cutsWords c = true) : isWordChar c = false :=
  isWordChar_eq_false_of_isRunChar (isRunChar_eq_false_of_cutsWords hc)

theorem isDigit_eq_false_of_cutsWords (hc : cutsWords c = true) : isDigit c = false :=
  (Bool.or_eq_false_iff.mp (isWordChar_eq_false_of_cutsWords hc)).1

/-! ### The word at the front of a text -/

/-- A number behind its sign. -/
def unsigned? (sign digits : List Char) : Option (List Char × List Char) :=
  match digits.dropWhile isDigit with
  | '.' :: d :: r =>
    if isDigit d then
      some (sign ++ digits.takeWhile isDigit ++ '.' :: d :: r.takeWhile isWordChar,
        r.dropWhile isWordChar)
    else none
  | _ => none

theorem number?_cons_of_ne {x : Char} (hx : x ≠ '-') (t : List Char) :
    number? (x :: t) = unsigned? [] (x :: t) := by
  unfold number?
  split
  rename_i sign digits hsign
  split at hsign
  · rename_i heq
    exact absurd (List.cons.inj heq).1 hx
  · cases hsign
    rfl

theorem unsigned?_append_cons (hc : cutsWords c = true) (sign a b : List Char) :
    unsigned? sign (a ++ c :: b) = (unsigned? sign a).map fun q => (q.1, q.2 ++ c :: b) := by
  have hdigit := isDigit_eq_false_of_cutsWords hc
  have hword := isWordChar_eq_false_of_cutsWords hc
  unfold unsigned?
  rw [dropWhile_append_cons hdigit, takeWhile_append_cons hdigit]
  match a.dropWhile isDigit with
  | [] =>
    have hpoint := ne_point_of_cutsWords hc
    rw [List.nil_append]
    split
    · rename_i heq
      exact absurd (List.cons.inj heq).1 hpoint
    · rfl
  | [x] =>
    rw [List.singleton_append]
    split
    · rename_i heq
      cases heq
      rw [if_neg (by simp [hdigit])]
      rfl
    · split
      · rename_i heq
        cases heq
      · rfl
  | x :: d :: r =>
    by_cases hx : x = '.'
    · subst hx
      by_cases hd : isDigit d = true
      · simp [hd, takeWhile_append_cons hword, dropWhile_append_cons hword]
      · simp [hd]
    · simp [hx]

/-- The word at the front of a text that is not empty does not see what stands behind a character
that cuts words. -/
theorem head?_append_cons (hc : cutsWords c = true) {a : List Char} (ha : a ≠ [])
    (b : List Char) :
    head? (a ++ c :: b) = (head? a).map fun q => (q.1, q.2 ++ c :: b) := by
  obtain ⟨x, a, rfl⟩ := List.exists_cons_of_ne_nil ha
  have hnumber : number? (x :: a ++ c :: b)
      = (number? (x :: a)).map fun q => (q.1, q.2 ++ c :: b) := by
    by_cases hx : x = '-'
    · subst hx
      exact unsigned?_append_cons hc ['-'] a b
    · rw [number?_cons_of_ne hx, List.cons_append, number?_cons_of_ne hx]
      exact unsigned?_append_cons hc [] (x :: a) b
  have hrun := isRunChar_eq_false_of_cutsWords hc
  unfold head?
  rw [hnumber]
  cases number? (x :: a) with
  | some q => rfl
  | none =>
    by_cases hx : isRunChar x = true
    · simp [hx, takeWhile_append_cons hrun, dropWhile_append_cons hrun]
    · simp [hx]

/-- A character that cuts words starts none. -/
theorem head?_cons_of_cutsWords (hc : cutsWords c = true) (b : List Char) :
    head? (c :: b) = none := by
  have hnumber : number? (c :: b) = none := by
    rw [number?_cons_of_ne (ne_minus_of_cutsWords hc), unsigned?, List.dropWhile_cons,
      if_neg (by simp [isDigit_eq_false_of_cutsWords hc])]
    split
    · rename_i heq
      exact absurd (List.cons.inj heq).1 (ne_point_of_cutsWords hc)
    · rfl
  unfold head?
  simp [hnumber, isRunChar_eq_false_of_cutsWords hc]

/-! ### The scan -/

/-- **A character that cuts words splits the scan.** -/
theorem scan_append_cons (hc : cutsWords c = true) (pos : Nat) (a b : List Char) :
    scan pos (a ++ c :: b) = scan pos a ++ scan (pos + byteLength a + c.utf8Size) b := by
  fun_induction scan pos a with
  | case1 pos t w r hhead ih =>
    have hne : t ≠ [] := by
      rintro rfl
      exact ne_nil_of_head? hhead (List.append_eq_nil_iff.mp (eq_append_of_head? hhead).symm).1
    have hwhole : head? (t ++ c :: b) = some (w, r ++ c :: b) := by
      rw [head?_append_cons hc hne, hhead]
      rfl
    rw [scan_of_head?_eq_some hwhole, ih, List.cons_append, eq_append_of_head? hhead,
      byteLength_append]
    congr 3
    omega
  | case2 pos =>
    rw [List.nil_append, scan_cons_of_head?_eq_none (head?_cons_of_cutsWords hc b)]
    rfl
  | case3 pos x r hhead ih =>
    have hwhole : head? (x :: (r ++ c :: b)) = none := by
      have happend := head?_append_cons hc (List.cons_ne_nil x r) b
      rwa [hhead] at happend
    rw [List.cons_append, scan_cons_of_head?_eq_none hwhole, ih, byteLength_cons]
    congr 2
    omega

end

/-- The word moved right by `n` bytes. -/
def shift (n : Nat) (w : Word) : Word :=
  ⟨w.text, w.start + n, w.stop + n⟩

/-- A text that starts further on has its words further on. -/
theorem scan_add (pos n : Nat) (t : List Char) :
    scan (pos + n) t = (scan pos t).map (shift n) := by
  fun_induction scan pos t with
  | case1 pos t w r hhead ih =>
    rw [scan_of_head?_eq_some hhead, List.map_cons, ← ih]
    simp only [shift, Nat.add_right_comm]
  | case2 pos => rw [scan_nil, List.map_nil]
  | case3 pos c r hhead ih =>
    rw [scan_cons_of_head?_eq_none hhead, ← ih, Nat.add_right_comm]

end Word

/-- The words in front of a character that cuts words are those of the text up to there, and the
words behind it are those of the rest, moved right. -/
theorem words_push_append {c : Char} (hc : Word.cutsWords c = true) (a b : String) :
    words (a.push c ++ b)
      = words a ++ (words b).map (Word.shift (byteLength (a.push c).toList)) := by
  have htext : (a.push c ++ b).toList = a.toList ++ c :: b.toList := by simp
  have hlength : byteLength (a.push c).toList = 0 + byteLength a.toList + c.utf8Size := by simp
  rw [words, htext, Word.scan_append_cons hc, ← hlength, words, words, ← Word.scan_add,
    Nat.zero_add]

/-- **Where a text can be cut without changing its words**: the words of two texts with a character
between them are those of the first text, followed by those of the second one moved right, whatever
the two texts are, exactly if the character is a separator or a blank and neither a point nor a
minus sign. -/
theorem words_push_append_iff (c : Char) :
    (∀ a b : String, words (a.push c ++ b)
      = words a ++ (words b).map (Word.shift (byteLength (a.push c).toList))) ↔
      (Word.isSeparator c = true ∨ isBlank c = true) ∧ c ≠ '.' ∧ c ≠ '-' := by
  constructor
  · intro hlocal
    have hrun : Word.isRunChar c = false := by
      rw [Bool.eq_false_iff]
      intro hrun
      -- on its own the character is a word, and there is none on either side of it
      obtain ⟨⟨w, r⟩, hhead⟩ := Option.ne_none_iff_exists'.mp (Word.head?_cons_ne_none hrun [])
      have halone := hlocal "" ""
      have htext : (("" : String).push c ++ "").toList = [c] := by simp
      have hnone : words "" = [] := Word.scan_nil 0
      rw [words, htext, Word.scan_of_head?_eq_some hhead, hnone] at halone
      cases halone
    refine Word.cutsWords_iff.mp ?_
    simp only [Word.cutsWords, hrun, Bool.not_false, Bool.true_and, Bool.and_eq_true, bne_iff_ne]
    constructor
    · rintro rfl
      exact absurd (hlocal "" "5") (by decide +kernel)
    · rintro rfl
      exact absurd (hlocal "" ".5") (by decide +kernel)
  · intro hc a b
    exact words_push_append (Word.cutsWords_iff.mpr hc) a b

/-! ### Pieces between semicolons -/

/-- A span starts at the start of a text or just behind a semicolon, and stops at the end of the
text or just in front of one. -/
structure Text.Span.Separated (s : Span) (t : List Char) : Prop where
  /-- Where it starts. -/
  start : s.start = 0 ∨ ∃ a b, t = a ++ ';' :: b ∧ s.start = byteLength (a ++ [';'])
  /-- Where it stops. -/
  stop : s.stop = byteLength t ∨ ∃ a b, t = a ++ ';' :: b ∧ s.stop = byteLength a

/-- The words of a text in front of a semicolon, and of the text behind it, are words of the
whole. -/
theorem Word.scan_append_semicolon (pos : Nat) (a b : List Char) :
    scan pos (a ++ ';' :: b) = scan pos a ++ scan (pos + byteLength (a ++ [';'])) b := by
  rw [scan_append_cons (by decide +kernel), byteLength_append]
  rfl

/-- **The words of a piece between semicolons are words of the query.** -/
theorem mem_words_of_mem_words_piece {query : String} {s : Span} {t : List Char}
    (hseparated : s.Separated query.toList) (hcuts : s.Cuts t query.toList) {w : Word}
    (hw : w ∈ words (String.ofList t)) : w.shift s.start ∈ words query := by
  obtain ⟨a, b, hquery, hstart, hstop⟩ := hcuts
  have hpiece : w.shift s.start ∈ Word.scan s.start t := by
    rw [words, String.toList_ofList] at hw
    have hmoved := Word.scan_add 0 s.start t
    rw [Nat.zero_add] at hmoved
    rw [hmoved]
    exact List.mem_map_of_mem hw
  -- up to the end of the piece
  have hfront : w.shift s.start ∈ Word.scan 0 (a ++ t) := by
    rcases hseparated.start with hzero | ⟨a', b', hquery', hstart'⟩
    · have ha : a = [] := byteLength_eq_zero.mp (by omega)
      rwa [ha, List.nil_append, ← hzero]
    · rw [List.append_cons] at hquery'
      have hsplit : a ++ (t ++ b) = a' ++ [';'] ++ b' := by
        rw [← List.append_assoc, ← hquery, hquery']
      have ha : a = a' ++ [';'] :=
        (append_inj_of_byteLength hsplit (by rw [← hstart, hstart'])).1
      rw [ha, List.append_assoc, List.singleton_append, Word.scan_append_semicolon, Nat.zero_add,
        ← hstart']
      exact List.mem_append_right _ hpiece
  rw [words]
  rcases hseparated.stop with hend | ⟨a', b', hquery', hstop'⟩
  · have hsplit : query.toList ++ [] = a ++ t ++ b := by rw [List.append_nil, hquery]
    rwa [(append_inj_of_byteLength hsplit (by rw [← hend, hstop])).1]
  · obtain ⟨rfl, -⟩ := append_inj_of_byteLength (hquery'.symm.trans hquery)
      (by rw [← hstop', hstop])
    rw [hquery', Word.scan_append_semicolon]
    exact List.mem_append_left _ hfront

end SqlAnalysis
