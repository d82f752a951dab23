import Mathlib.Data.List.Basic
import SqlAnalysis.Proofs.Word.Local

/-!
# Nothing is lost between the words

The words of a text are numbers and runs, one behind the other, and none of them is followed
directly by a word character.  Which characters lie inside a word can be told without the scan, from
the character and what stands behind it: all but separators and blanks, a point in front of a digit,
and a minus sign in front of the rest of a number.  The two kinds of words overlap, and where one
ends depends on where it started; still no such character is ever passed over, since the scan stands
in front of it whenever no word has taken it in.

## Main definitions

* `Word.IsRun` — the words that are no numbers.
* `Word.Kept` — a character that lies inside a word, told by what stands behind it.
* `Word.HoldsAt` — the character at an offset lies inside a word.

## Main results

* `Word.kept_of_head?`, `Word.head?_ne_none_of_kept` — words hold only such characters, and such a
  character in front of the scan starts a word.
* `Word.exists_holdsAt_scan_iff` — the scan takes in exactly such characters.
* `words_partition` — **the words of a text, and the characters inside them.**
-/

namespace SqlAnalysis

open Text Unicode

namespace Word

/-! ### The two kinds of words -/

/-- A run: characters that are neither separators nor blanks. -/
def IsRun (w : List Char) : Prop :=
  ∀ c ∈ w, isSeparator c = false ∧ isBlank c = false

/-- A character that lies inside a word when `rest` stands behind it: it is neither a separator nor
a blank, or a point and a digit follows, or a minus sign and digits, a point and a digit follow. -/
def Kept (c : Char) (rest : List Char) : Prop :=
  (isSeparator c = false ∧ isBlank c = false) ∨
    (c = '.' ∧ ∃ d r, rest = d :: r ∧ isDigit d = true) ∨
      c = '-' ∧ ∃ digits d r, rest = digits ++ '.' :: d :: r ∧ (∀ x ∈ digits, isDigit x = true) ∧
        isDigit d = true

/-- The character `c` at the offset `n` lies inside a word. -/
def HoldsAt (w : Word) (n : Nat) (c : Char) : Prop :=
  w.start ≤ n ∧ n + c.utf8Size ≤ w.stop

theorem isRunChar_iff {c : Char} :
    isRunChar c = true ↔ isSeparator c = false ∧ isBlank c = false := by
  simp [isRunChar]

/-- A word at the front of a text is of one of the two kinds. -/
theorem isNumber_or_isRun_of_head? {t w r : List Char} (h : head? t = some (w, r)) :
    IsNumber w ∨ IsRun w := by
  rcases number?_or_run_of_head? h with hnumber | ⟨hrun, -⟩
  · exact .inl (isNumber_of_number? hnumber).1
  · exact .inr fun c hc => isRunChar_iff.mp (hrun c hc)

theorem IsNumber.ne_nil {w : List Char} (h : IsNumber w) : w ≠ [] := by
  obtain ⟨sign, digits, d, rest, -, -, -, -, rfl⟩ := h
  simp

/-- A number in front of any text is the word there, together with the word characters behind it. -/
theorem head?_append_of_isNumber {w : List Char} (h : IsNumber w) (r : List Char) :
    head? (w ++ r) = some (w ++ r.takeWhile isWordChar, r.dropWhile isWordChar) := by
  obtain ⟨sign, digits, d, rest, hsign, hdigits, hd, hrest, rfl⟩ := h
  have hpoint : isDigit '.' = false := by decide +kernel
  have htake : (digits ++ '.' :: d :: (rest ++ r)).takeWhile isDigit = digits := by
    rw [takeWhile_append_cons hpoint, List.takeWhile_eq_self_iff.mpr hdigits]
  have hdrop : (digits ++ '.' :: d :: (rest ++ r)).dropWhile isDigit = '.' :: d :: (rest ++ r) := by
    rw [dropWhile_append_cons hpoint, List.dropWhile_eq_nil_iff.mpr hdigits, List.nil_append]
  have hunsigned : unsigned? sign (digits ++ '.' :: d :: (rest ++ r))
      = some (sign ++ digits ++ '.' :: d :: rest ++ r.takeWhile isWordChar,
        r.dropWhile isWordChar) := by
    simp only [unsigned?, htake, hdrop, hd, if_true, List.takeWhile_append_of_pos hrest,
      List.dropWhile_append_of_pos hrest, List.append_assoc, List.cons_append]
  have hnumber : number? (sign ++ digits ++ '.' :: d :: rest ++ r)
      = some (sign ++ digits ++ '.' :: d :: rest ++ r.takeWhile isWordChar,
        r.dropWhile isWordChar) := by
    rw [← hunsigned]
    rcases hsign with rfl | rfl
    · -- without a sign the number begins with a digit or the point
      cases digits with
      | nil => simp [number?_cons_of_ne]
      | cons x digits =>
        have hx : x ≠ '-' := by
          rintro rfl
          exact absurd (hdigits '-' List.mem_cons_self) (by decide +kernel)
        simp [number?_cons_of_ne hx]
    · simp only [List.cons_append, List.append_assoc]
      rfl
  unfold head?
  rw [hnumber]

/-! ### Characters that are kept -/

/-- A character of a text in two parts stands in the first part or in the second. -/
theorem append_cons_eq_append {a b v r : List Char} {c : Char} (h : a ++ c :: b = v ++ r) :
    (∃ k, v = a ++ c :: k ∧ b = k ++ r) ∨ ∃ k, a = v ++ k ∧ r = k ++ c :: b := by
  rcases List.append_eq_append_iff.mp h with ⟨k, hv, hb⟩ | ⟨k, ha, hr⟩
  · cases k with
    | nil => exact .inr ⟨[], by rw [hv, List.append_nil, List.append_nil], hb.symm⟩
    | cons x k =>
      obtain ⟨rfl, rfl⟩ := List.cons.inj hb
      exact .inl ⟨k, hv, rfl⟩
  · exact .inr ⟨k, ha, hr⟩

/-- A character of a number is kept, whatever follows the number. -/
theorem kept_of_isNumber {a b : List Char} {c : Char} (h : IsNumber (a ++ c :: b))
    (r : List Char) : Kept c (b ++ r) := by
  obtain ⟨sign, digits, d, rest, hsign, hdigits, hd, hrest, hw⟩ := h
  have hword : ∀ x, isWordChar x = true → x = c → Kept c (b ++ r) := by
    rintro x hx rfl
    exact .inl (isRunChar_iff.mp (isRunChar_of_isWordChar hx))
  -- behind the sign only the point is no word character
  have hunsigned : ∀ a, a ++ c :: b = digits ++ '.' :: d :: rest → Kept c (b ++ r) := by
    intro a ha
    rcases append_cons_eq_append ha with ⟨k, hk, -⟩ | ⟨k, -, hk⟩
    · have hmem : c ∈ digits := by simp [hk]
      exact hword c (isWordChar_of_isDigit (hdigits c hmem)) rfl
    · cases k with
      | nil =>
        obtain ⟨rfl, rfl⟩ := List.cons.inj hk
        exact .inr (.inl ⟨rfl, d, rest ++ r, rfl, hd⟩)
      | cons x k =>
        have hmem : c ∈ d :: rest := by simp [(List.cons.inj hk).2]
        rcases List.mem_cons.mp hmem with rfl | hmem
        · exact hword c (isWordChar_of_isDigit hd) rfl
        · exact hword c (hrest c hmem) rfl
  rcases hsign with rfl | rfl
  · exact hunsigned a hw
  · rw [List.singleton_append, List.cons_append] at hw
    cases a with
    | nil =>
      obtain ⟨rfl, rfl⟩ := List.cons.inj hw
      refine .inr (.inr ⟨rfl, digits, d, rest ++ r, ?_, hdigits, hd⟩)
      rw [List.append_assoc, List.cons_append, List.cons_append]
    | cons x a => exact hunsigned a (List.cons.inj hw).2

/-- **A word holds only characters that are kept.** -/
theorem kept_of_head? {t a b r : List Char} {c : Char} (h : head? t = some (a ++ c :: b, r)) :
    Kept c (b ++ r) := by
  rcases isNumber_or_isRun_of_head? h with hnumber | hrun
  · exact kept_of_isNumber hnumber r
  · exact .inl (hrun c (by simp))

/-- A minus sign in front of digits, a point and a digit starts a number. -/
theorem head?_minus_ne_none {digits : List Char} {d : Char} (r : List Char)
    (hdigits : ∀ x ∈ digits, isDigit x = true) (hd : isDigit d = true) :
    head? ('-' :: (digits ++ '.' :: d :: r)) ≠ none := by
  have hnumber : IsNumber (['-'] ++ digits ++ ['.', d]) :=
    ⟨['-'], digits, d, [], .inr rfl, hdigits, hd, by simp, rfl⟩
  have hhead := head?_append_of_isNumber hnumber r
  simp only [List.cons_append, List.append_assoc, List.nil_append] at hhead
  rw [hhead]
  exact Option.some_ne_none _

/-- **A character that is kept starts a word** when the scan stands in front of it. -/
theorem head?_ne_none_of_kept {c : Char} {r : List Char} (h : Kept c r) :
    head? (c :: r) ≠ none := by
  rcases h with hrun | ⟨rfl, d, s, rfl, hd⟩ | ⟨rfl, digits, d, s, rfl, hdigits, hd⟩
  · exact head?_cons_ne_none (isRunChar_iff.mpr hrun) r
  · exact head?_point_ne_none hd s
  · exact head?_minus_ne_none s hdigits hd

/-! ### The scan -/

/-- **The scan takes in exactly the characters that are kept.** -/
theorem exists_holdsAt_scan_iff {pos : Nat} {a b : List Char} {c : Char} :
    (∃ w ∈ scan pos (a ++ c :: b), w.HoldsAt (pos + byteLength a) c) ↔ Kept c b := by
  have hsize := c.utf8Size_pos
  -- induction on the scan: the character is in the word at the front, or behind that word, or it is
  -- the one that is passed over, or behind that one
  generalize ht : a ++ c :: b = t
  fun_induction scan pos t generalizing a with
  | case1 pos t v r hhead ih =>
    have hsplit : a ++ c :: b = v ++ r := ht.trans (eq_append_of_head? hhead)
    rcases append_cons_eq_append hsplit with ⟨k, rfl, rfl⟩ | ⟨k, rfl, hr⟩
    · refine iff_of_true ⟨_, List.mem_cons_self, ?_⟩ (kept_of_head? hhead)
      simp only [HoldsAt, byteLength_append, byteLength_cons]
      omega
    · refine Iff.trans ?_ (ih hr.symm)
      rw [List.exists_mem_cons_iff, byteLength_append, ← Nat.add_assoc]
      -- the word at the front ends before the character
      refine or_iff_right ?_
      simp only [HoldsAt]
      omega
  | case2 pos => simp at ht
  | case3 pos x r hhead ih =>
    cases a with
    | nil =>
      obtain ⟨rfl, rfl⟩ := List.cons.inj ht
      refine iff_of_false ?_ fun hkept => head?_ne_none_of_kept hkept hhead
      rintro ⟨w, hw, hstart, -⟩
      have hbehind := le_start_of_mem_scan hw
      rw [byteLength_nil] at hstart
      omega
    | cons y a =>
      obtain ⟨rfl, hr⟩ := List.cons.inj ht
      refine Iff.trans ?_ (ih hr)
      rw [byteLength_cons, Nat.add_assoc]

end Word

/-! ### Words of a text -/

/-- Every word of a text is of one of the two kinds. -/
theorem isNumber_or_isRun_of_mem_words {text : String} {w : Word} (h : w ∈ words text) :
    Word.IsNumber w.text.toList ∨ Word.IsRun w.text.toList := by
  obtain ⟨a, b, -, -, -, hhead, -⟩ := exists_of_mem_words h
  exact Word.isNumber_or_isRun_of_head? hhead

/-- No word of a text is followed directly by a word character. -/
theorem isWordChar_eq_false_of_mem_words {text : String} {w : Word} (h : w ∈ words text)
    {a b : List Char} {c : Char} (htext : text.toList = a ++ c :: b)
    (hstop : w.stop = byteLength a) : isWordChar c = false := by
  obtain ⟨front, behind, hsplit, -, hend, hhead, -⟩ := exists_of_mem_words h
  rw [htext, ← List.append_assoc] at hsplit
  obtain ⟨-, rfl⟩ := append_inj_of_byteLength hsplit (hstop.symm.trans hend)
  exact Word.isWordChar_eq_false_of_head? hhead rfl

/-- **The words of a text, and the characters inside them.**

* A word is not empty, is the piece of the text that its span cuts out, and is a number or a run.
* No word is followed directly by a word character.
* Every word ends where the next one starts, or before.
* A character of the text lies inside a word exactly if it is neither a separator nor a blank, or a
  point in front of a digit, or a minus sign in front of digits, a point and a digit. -/
theorem words_partition (text : String) :
    (∀ w ∈ words text, w.text ≠ "" ∧ slice? w.span text.toList = some w.text.toList ∧
      (Word.IsNumber w.text.toList ∨ Word.IsRun w.text.toList) ∧
      ∀ a c b, text.toList = a ++ c :: b → w.stop = byteLength a → isWordChar c = false) ∧
    ((words text).Pairwise fun v w => v.stop ≤ w.start) ∧
    (∀ a c b, text.toList = a ++ c :: b →
      ((∃ w ∈ words text, w.HoldsAt (byteLength a) c) ↔ Word.Kept c b)) := by
  refine ⟨?_, pairwise_words text, ?_⟩
  · intro w hw
    have hne : w.text ≠ "" := by
      obtain ⟨a, b, -, -, -, hhead, -⟩ := exists_of_mem_words hw
      intro hempty
      exact Word.ne_nil_of_head? hhead (by rw [hempty]; rfl)
    refine ⟨hne, slice?_eq_some_iff.mpr (cuts_of_mem_words hw),
      isNumber_or_isRun_of_mem_words hw, ?_⟩
    intro a c b htext hstop
    exact isWordChar_eq_false_of_mem_words hw htext hstop
  · intro a c b htext
    have hscan : (∃ w ∈ Word.scan 0 (a ++ c :: b), w.HoldsAt (0 + byteLength a) c)
        ↔ Word.Kept c b := Word.exists_holdsAt_scan_iff
    rwa [Nat.zero_add, ← htext] at hscan

/-- A number abuts a run, and of two minus signs behind it only the second one lies inside a
word. -/
theorem words_partition_two_signs :
    let text := "a1.5--.5"
    let number : Word := ⟨".5", 2, 4⟩
    number ∈ words text ∧ number.text ≠ "" ∧
      slice? number.span text.toList = some number.text.toList ∧
      (Word.IsNumber number.text.toList ∨ Word.IsRun number.text.toList) ∧
      isWordChar '-' = false ∧ (∃ w ∈ words text, w.HoldsAt 2 '.') ∧
      (¬∃ w ∈ words text, w.HoldsAt 4 '-') ∧ ∃ w ∈ words text, w.HoldsAt 5 '-' := by
  intro text number
  obtain ⟨hwords, -, hchars⟩ := words_partition text
  have htext : text.toList = ['a', '1', '.', '5', '-', '-', '.', '5'] := by decide
  have hnumber : number ∈ words text := by decide +kernel
  obtain ⟨hne, hslice, hkind, hbehind⟩ := hwords number hnumber
  have hpoint : Word.Kept '.' ['5', '-', '-', '.', '5'] :=
    .inr (.inl ⟨rfl, '5', _, rfl, by decide +kernel⟩)
  have hfirst : ¬Word.Kept '-' ['-', '.', '5'] := by
    rintro (⟨hseparator, -⟩ | ⟨hpoint, -⟩ | ⟨-, digits, d, r, hrest, hdigits, -⟩)
    · exact absurd hseparator (by decide)
    · exact absurd hpoint (by decide)
    · cases digits with
      | nil => exact absurd (List.cons.inj hrest).1 (by decide)
      | cons x digits =>
        -- the second sign is no digit
        obtain ⟨rfl, -⟩ := List.cons.inj hrest
        exact absurd (hdigits '-' List.mem_cons_self) (by decide +kernel)
  have hsecond : Word.Kept '-' ['.', '5'] :=
    .inr (.inr ⟨rfl, [], '5', [], rfl, by simp, by decide +kernel⟩)
  refine ⟨hnumber, hne, hslice, hkind, hbehind ['a', '1', '.', '5'] '-' ['-', '.', '5'] htext rfl,
    ?_, ?_, ?_⟩
  · exact (hchars ['a', '1'] '.' ['5', '-', '-', '.', '5'] htext).mpr hpoint
  · exact fun h => hfirst ((hchars ['a', '1', '.', '5'] '-' ['-', '.', '5'] htext).mp h)
  · exact (hchars ['a', '1', '.', '5', '-'] '-' ['.', '5'] htext).mpr hsecond

end SqlAnalysis
