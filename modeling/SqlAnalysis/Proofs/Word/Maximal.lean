import SqlAnalysis.Proofs.Unicode.Classes
import SqlAnalysis.Proofs.Word.Span

/-!
# Words are maximal

No word is followed directly by a word character.  So no word ends where a word starts that begins
with a word character, and in front of such a word stands no character that it holds itself.  Where
the scan comes is said without offsets: it passes over single characters, and it takes words as a
whole.

## Main definitions

* `Word.IsNumber` — the form of a number.
* `Word.Reaches` — the scan of a text comes to a rest of it.

## Main results

* `Word.isWordChar_eq_false_of_head?` — no word is followed directly by a word character.
* `exists_of_mem_words`, `mem_words_of_reaches` — **the words of a text are those at the front of
  the rests that the scan comes to.**
* `Word.not_mem_of_reaches` — in front of a word stands none of its own characters.
* `stop_ne_start_of_mem_words` — no word ends where a word starts that begins with a word character.
-/

namespace SqlAnalysis

open Text Unicode

namespace Word

/-- Separators are symbols of ASCII. -/
theorem isWordChar_eq_false_of_isSeparator {c : Char} (h : isSeparator c = true) :
    isWordChar c = false := by
  have hall : ['`', '~', '!', '@', '#', '$', '%', '^', '&', '*', '(', ')', '-', '=', '+', '[', '{',
      ']', '}', '\\', '|', ';', ':', '\'', '"', ',', '.', '<', '>', '/', '?'].all
      (inRanges [(33, 47), (58, 64), (91, 94), (96, 96), (123, 126)] ·.toNat) = true := by
    decide
  have hsymbol := List.all_eq_true.mp hall c (of_decide_eq_true h)
  refine Bool.or_eq_false_iff.mpr ⟨?_, ?_⟩
  · exact inRanges_eq_false_of_apart (by decide +kernel) hsymbol
  · exact inRanges_eq_false_of_apart (by decide +kernel) hsymbol

theorem isSeparator_eq_false_of_isWordChar {c : Char} (h : isWordChar c = true) :
    isSeparator c = false := by
  refine Bool.eq_false_iff.mpr fun hseparator => ?_
  rw [isWordChar_eq_false_of_isSeparator hseparator] at h
  cases h

theorem isRunChar_of_isWordChar {c : Char} (h : isWordChar c = true) : isRunChar c = true := by
  rw [isRunChar, isSeparator_eq_false_of_isWordChar h, isBlank_eq_false_of_isWordChar h]
  rfl

/-- What belongs to no run is no word character. -/
theorem isWordChar_eq_false_of_isRunChar {c : Char} (h : isRunChar c = false) :
    isWordChar c = false := by
  refine Bool.eq_false_iff.mpr fun hword => ?_
  rw [isRunChar_of_isWordChar hword] at h
  cases h

/-! ### The word at the front of a text -/

/-- A number: a sign or none, digits, a point, a digit, and word characters. -/
def IsNumber (w : List Char) : Prop :=
  ∃ sign digits d rest, (sign = [] ∨ sign = ['-']) ∧ (∀ c ∈ digits, isDigit c = true) ∧
    isDigit d = true ∧ (∀ c ∈ rest, isWordChar c = true) ∧ w = sign ++ digits ++ '.' :: d :: rest

/-- What is read as a number at the front of a text is one, and no word character follows it. -/
theorem isNumber_of_number? {t w r : List Char} (h : number? t = some (w, r)) :
    IsNumber w ∧ ∀ c ∈ r.head?, isWordChar c = false := by
  unfold number? at h
  split at h
  rename_i sign digits hsign
  have hsigns : sign = [] ∨ sign = ['-'] := by
    split at hsign <;> (cases hsign; simp)
  split at h
  · rename_i d s _
    split at h
    · rename_i hd
      cases h
      refine ⟨⟨sign, digits.takeWhile isDigit, d, s.takeWhile isWordChar, hsigns, ?_, hd, ?_, rfl⟩,
        fun c hc => eq_false_of_mem_head?_dropWhile hc⟩
      · exact fun c hc => List.mem_takeWhile_imp hc
      · exact fun c hc => List.mem_takeWhile_imp hc
    · cases h
  · cases h

/-- A word at the front of a text is a number or a run, and a run goes on as far as it can. -/
theorem number?_or_run_of_head? {t w r : List Char} (h : head? t = some (w, r)) :
    number? t = some (w, r) ∨
      (∀ c ∈ w, isRunChar c = true) ∧ ∀ c ∈ r.head?, isRunChar c = false := by
  unfold head? at h
  split at h
  · rename_i q hnumber
    cases h
    exact .inl hnumber
  · split at h
    · rename_i c s
      split at h
      · rename_i hc
        cases h
        refine .inr ⟨fun d hd => ?_, fun d hd => eq_false_of_mem_head?_dropWhile hd⟩
        rcases List.mem_cons.mp hd with rfl | hd
        · exact hc
        · exact List.mem_takeWhile_imp hd
      · cases h
    · cases h

/-- **No word is followed directly by a word character.** -/
theorem isWordChar_eq_false_of_head? {t w r : List Char} (h : head? t = some (w, r)) {c : Char}
    (hc : c ∈ r.head?) : isWordChar c = false := by
  rcases number?_or_run_of_head? h with h | ⟨-, hr⟩
  · exact (isNumber_of_number? h).2 c hc
  · exact isWordChar_eq_false_of_isRunChar (hr c hc)

/-- A word holds at least one character. -/
theorem ne_nil_of_head? {t w r : List Char} (h : head? t = some (w, r)) : w ≠ [] := by
  rintro rfl
  have hlength := head?_length h
  rw [eq_append_of_head? h, List.nil_append] at hlength
  exact Nat.lt_irrefl _ hlength

/-- A run character always starts a word. -/
theorem head?_cons_ne_none {c : Char} (hc : isRunChar c = true) (t : List Char) :
    head? (c :: t) ≠ none := by
  unfold head?
  cases number? (c :: t) <;> simp [hc]

/-- A point in front of a digit starts a number. -/
theorem head?_point_ne_none {d : Char} (hd : isDigit d = true) (t : List Char) :
    head? ('.' :: d :: t) ≠ none := by
  have hpoint : isDigit '.' = false := by decide +kernel
  have hnumber : number? ('.' :: d :: t)
      = some ('.' :: d :: t.takeWhile isWordChar, t.dropWhile isWordChar) := by
    simp [number?, hpoint, hd]
  unfold head?
  simp [hnumber]

/-- The characters of a word that begins with a word character are run characters, except for the
point of a number; and then the word begins with a digit. -/
theorem isRunChar_or_point_of_head? {t w r : List Char} (h : head? t = some (w, r)) {d : Char}
    (hd : d ∈ w.head?) (hword : isWordChar d = true) {c : Char} (hc : c ∈ w) :
    isRunChar c = true ∨ c = '.' ∧ isDigit d = true := by
  rcases number?_or_run_of_head? h with h | ⟨hrun, -⟩
  · obtain ⟨⟨sign, digits, e, rest, hsign, hdigits, he, hrest, rfl⟩, -⟩ := isNumber_of_number? h
    have hminus : isWordChar '-' = false := isWordChar_eq_false_of_isSeparator rfl
    have hpoint : isWordChar '.' = false := isWordChar_eq_false_of_isSeparator rfl
    rcases hsign with rfl | rfl
    · have hdigit : isDigit d = true := by
        cases digits with
        | nil =>
          cases hd
          rw [hpoint] at hword
          cases hword
        | cons e' digits =>
          cases hd
          exact hdigits _ List.mem_cons_self
      have hrunDigit : ∀ x, isDigit x = true → isRunChar x = true :=
        fun x hx => isRunChar_of_isWordChar (isWordChar_of_isDigit hx)
      simp only [List.nil_append, List.mem_append, List.mem_cons] at hc
      rcases hc with hc | rfl | rfl | hc
      · exact .inl (hrunDigit c (hdigits c hc))
      · exact .inr ⟨rfl, hdigit⟩
      · exact .inl (hrunDigit c he)
      · exact .inl (isRunChar_of_isWordChar (hrest c hc))
    · cases hd
      rw [hminus] at hword
      cases hword
  · exact .inl (hrun c hc)

/-! ### The scan -/

theorem scan_of_head?_eq_some {pos : Nat} {t w r : List Char} (h : head? t = some (w, r)) :
    scan pos t
      = ⟨String.ofList w, pos, pos + byteLength w⟩ :: scan (pos + byteLength w) r := by
  rw [scan.eq_def]
  split
  · rename_i hhead
    rw [h] at hhead
    cases hhead
    rfl
  · rename_i hhead
    rw [h] at hhead
    cases hhead

theorem scan_nil (pos : Nat) : scan pos [] = [] := by
  rw [scan.eq_def]
  rfl

/-- A character that starts no word is passed over. -/
theorem scan_cons_of_head?_eq_none {pos : Nat} {c : Char} {t : List Char}
    (h : head? (c :: t) = none) : scan pos (c :: t) = scan (pos + c.utf8Size) t := by
  rw [scan.eq_def]
  split
  · rename_i hhead
    rw [h] at hhead
    cases hhead
  · rfl

/-- The scan of the text `a ++ t` comes to the rest `t`: up to there it has passed over the
characters that start no word, and taken the words as a whole. -/
inductive Reaches : (a t : List Char) → Prop
  /-- It begins at the front. -/
  | start (t : List Char) : Reaches [] t
  /-- A character that starts no word is passed over. -/
  | pass {a t : List Char} {c : Char} (h : Reaches a (c :: t)) (hhead : head? (c :: t) = none) :
      Reaches (a ++ [c]) t
  /-- A word is taken as a whole. -/
  | word {a w t : List Char} (h : Reaches a (w ++ t)) (hhead : head? (w ++ t) = some (w, t)) :
      Reaches (a ++ w) t

namespace Reaches

variable {a b t : List Char}

/-- The scan comes to a rest of a rest. -/
theorem trans (ha : Reaches a (b ++ t)) (hb : Reaches b t) : Reaches (a ++ b) t := by
  induction hb with
  | start t => rwa [List.append_nil]
  | pass _ hhead ih =>
    rw [List.append_assoc, List.singleton_append] at ha
    rw [← List.append_assoc]
    exact .pass (ih ha) hhead
  | word _ hhead ih =>
    rw [List.append_assoc] at ha
    rw [← List.append_assoc]
    exact .word (ih ha) hhead

/-- What the scan has gone through last: nothing, a character that starts no word, or a word. -/
theorem eq_nil_or (h : Reaches a t) :
    a = [] ∨ (∃ a' c, a = a' ++ [c] ∧ head? (c :: t) = none) ∨
      ∃ a' w, a = a' ++ w ∧ head? (w ++ t) = some (w, t) := by
  cases h with
  | start => exact .inl rfl
  | pass _ hhead => exact .inr (.inl ⟨_, _, rfl, hhead⟩)
  | word _ hhead => exact .inr (.inr ⟨_, _, rfl, hhead⟩)

/-- **The scan goes on from where it has come.** -/
theorem exists_scan_eq_append (h : Reaches a t) (pos : Nat) :
    ∃ us, scan pos (a ++ t) = us ++ scan (pos + byteLength a) t := by
  induction h with
  | start t => exact ⟨[], rfl⟩
  | pass _ hhead ih =>
    obtain ⟨us, hus⟩ := ih
    refine ⟨us, ?_⟩
    rw [List.append_assoc, List.singleton_append, hus, scan_cons_of_head?_eq_none hhead,
      byteLength_append, ← Nat.add_assoc]
    rfl
  | @word a w t _ hhead ih =>
    obtain ⟨us, hus⟩ := ih
    refine ⟨us ++ [⟨String.ofList w, pos + byteLength a, pos + byteLength a + byteLength w⟩], ?_⟩
    rw [List.append_assoc, hus, scan_of_head?_eq_some hhead, byteLength_append, ← Nat.add_assoc,
      List.append_assoc, List.singleton_append]

end Reaches

/-- **Where a word stands.**  The scan comes to it, and it is the word at the front of the rest. -/
theorem exists_of_mem_scan {pos : Nat} {t : List Char} {w : Word} (h : w ∈ scan pos t) :
    ∃ a b, t = a ++ (w.text.toList ++ b) ∧ w.start = pos + byteLength a ∧
      head? (w.text.toList ++ b) = some (w.text.toList, b) ∧
      Reaches a (w.text.toList ++ b) := by
  fun_induction scan pos t with
  | case1 pos t v r hhead ih =>
    have ht : t = v ++ r := eq_append_of_head? hhead
    rw [ht] at hhead
    rcases List.mem_cons.mp h with rfl | h
    · simp only [String.toList_ofList]
      exact ⟨[], r, ht, rfl, hhead, .start _⟩
    · obtain ⟨a, b, rfl, hstart, hword, hreach⟩ := ih h
      refine ⟨v ++ a, b, by simp [ht], ?_, hword, ?_⟩
      · rw [hstart, byteLength_append, Nat.add_assoc]
      · exact (Reaches.word (.start _) hhead).trans hreach
  | case2 => cases h
  | case3 pos c r hhead ih =>
    obtain ⟨a, b, rfl, hstart, hword, hreach⟩ := ih h
    refine ⟨c :: a, b, rfl, ?_, hword, ?_⟩
    · rw [hstart, byteLength_cons, Nat.add_assoc]
    · exact (Reaches.pass (.start _) hhead).trans hreach

/-- A word at the front of a rest that the scan comes to is a word of the text. -/
theorem mem_scan_of_reaches {a t w r : List Char} (h : Reaches a t) (hhead : head? t = some (w, r))
    (pos : Nat) :
    ⟨String.ofList w, pos + byteLength a, pos + byteLength a + byteLength w⟩
      ∈ scan pos (a ++ t) := by
  obtain ⟨us, hus⟩ := h.exists_scan_eq_append pos
  rw [hus, scan_of_head?_eq_some hhead]
  exact List.mem_append_right us List.mem_cons_self

/-- In front of a word that begins with a word character stands none of its own characters. -/
theorem not_mem_of_reaches {a w b : List Char} {c d : Char} (hreach : Reaches (a ++ [c]) (w ++ b))
    (hhead : head? (w ++ b) = some (w, b)) (hd : d ∈ w.head?) (hword : isWordChar d = true) :
    c ∉ w := by
  obtain ⟨v, rfl⟩ : ∃ v, w = d :: v := List.head?_eq_some_iff.mp hd
  intro hc
  rcases hreach.eq_nil_or with hnil | ⟨a', c', heq, hnone⟩ | ⟨a', u, -, hu⟩
  · simp at hnil
  · obtain rfl : c = c' := by simpa using (List.append_inj' heq rfl).2
    rcases isRunChar_or_point_of_head? hhead hd hword hc with hrun | ⟨rfl, hdigit⟩
    · exact head?_cons_ne_none hrun _ hnone
    · exact head?_point_ne_none hdigit _ hnone
  · -- no word ends here, since a word character follows
    rw [isWordChar_eq_false_of_head? hu rfl] at hword
    cases hword

end Word

/-! ### Words of a query -/

section

variable {query : String} {w : Word}

/-- Where a word of a query stands. -/
theorem exists_of_mem_words (h : w ∈ words query) :
    ∃ a b, query.toList = a ++ (w.text.toList ++ b) ∧ w.start = byteLength a ∧
      w.stop = byteLength (a ++ w.text.toList) ∧
      Word.head? (w.text.toList ++ b) = some (w.text.toList, b) ∧
      Word.Reaches a (w.text.toList ++ b) := by
  obtain ⟨a, b, hquery, hstart, hhead, hreach⟩ := Word.exists_of_mem_scan h
  have hlength : w.stop = w.start + byteLength w.text.toList := (cuts_of_mem_words h).stop_eq
  rw [Nat.zero_add] at hstart
  refine ⟨a, b, hquery, hstart, ?_, hhead, hreach⟩
  rw [hlength, hstart, byteLength_append]

/-- A word at the front of a rest of a query that the scan comes to is a word of the query. -/
theorem mem_words_of_reaches {a t v r : List Char} (hquery : query.toList = a ++ t)
    (h : Word.Reaches a t) (hhead : Word.head? t = some (v, r)) :
    ⟨String.ofList v, byteLength a, byteLength a + byteLength v⟩ ∈ words query := by
  have hmem := Word.mem_scan_of_reaches h hhead 0
  rwa [← hquery, Nat.zero_add] at hmem

/-- No word ends where a word starts that begins with a word character. -/
theorem stop_ne_start_of_mem_words {u : Word} (hu : u ∈ words query) (hw : w ∈ words query)
    {d : Char} (hd : d ∈ w.text.toList.head?) (hword : isWordChar d = true) :
    u.stop ≠ w.start := by
  intro hadjacent
  obtain ⟨a, b, hquery, -, hstop, hhead, -⟩ := exists_of_mem_words hu
  obtain ⟨a', b', hquery', hstart', -, -, -⟩ := exists_of_mem_words hw
  rw [hquery, ← List.append_assoc] at hquery'
  obtain ⟨-, rfl⟩ := append_inj_of_byteLength hquery' (by rw [← hstop, ← hstart', hadjacent])
  have hfirst : d ∈ (w.text.toList ++ b').head? := by
    rw [List.head?_append, Option.mem_def.mp hd]
    rfl
  rw [Word.isWordChar_eq_false_of_head? hhead hfirst] at hword
  cases hword

end

end SqlAnalysis
