import Mathlib.Data.List.TakeWhile
import SqlAnalysis.Unicode.Case
import SqlAnalysis.Unicode.CharClass

/-!
# Classes of characters

Which classes of characters have nothing in common, and how a text is taken apart at the characters
of a class.

## Main results

* `isBlank_eq_false_of_isWordChar` — no word character is a blank.
* `isBlank_foldChar` — case folding keeps blanks apart from all other characters.
* `append_inj_of_class` — a front of one class is told from what follows it.
-/

namespace SqlAnalysis.Unicode

/-! ### Ranges -/

/-- Ranges that lie apart have no common member. -/
theorem inRanges_eq_false_of_apart {rs ss : List (Nat × Nat)}
    (hapart : ∀ r ∈ rs, ∀ s ∈ ss, r.2 < s.1 ∨ s.2 < r.1) {n : Nat} (hn : inRanges rs n = true) :
    inRanges ss n = false := by
  obtain ⟨r, hr, hrn⟩ := List.any_eq_true.mp hn
  refine List.any_eq_false.mpr fun s hs hsn => ?_
  simp only [Bool.and_eq_true, decide_eq_true_eq] at hrn hsn
  rcases hapart r hr s hs with h | h <;> omega

theorem isBlank_eq_false_of_isWordChar {c : Char} (h : isWordChar c = true) :
    isBlank c = false := by
  rcases Bool.or_eq_true_iff.mp h with h | h
  · exact inRanges_eq_false_of_apart (by decide +kernel) h
  · exact inRanges_eq_false_of_apart (by decide +kernel) h

theorem isWordChar_eq_false_of_isBlank {c : Char} (h : isBlank c = true) :
    isWordChar c = false := by
  refine Bool.eq_false_iff.mpr fun hword => ?_
  rw [isBlank_eq_false_of_isWordChar hword] at h
  cases h

/-! ### Case folding -/

theorem isBlank_ofNat_eq_false {n : Nat} (hn : inRanges blankRanges n = false) :
    isBlank (Char.ofNat n) = false := by
  by_cases hvalid : n.isValidChar
  · have hchar : Char.ofNat n = Char.ofNatAux n hvalid := dif_pos hvalid
    rw [hchar]
    exact hn
  · have hchar : Char.ofNat n = '\x00' := dif_neg hvalid
    rw [hchar]
    rfl

/-- Lower case maps ranges without blanks to ranges without blanks. -/
theorem isBlank_lowerChar (c : Char) : isBlank (lowerChar c) = isBlank c := by
  have hapart : ∀ r ∈ lowerRanges, ∀ b ∈ blankRanges, (r.2.1 < b.1 ∨ b.2 < r.1) ∧
      (r.2.2.2 + (r.2.1 - r.1) < b.1 ∨ b.2 < r.2.2.2) := by decide +kernel
  unfold lowerChar mapRanges
  split
  · rename_i r hfound
    have hr := List.mem_of_find?_eq_some hfound
    have hin := List.find?_some hfound
    simp only [Bool.and_eq_true, decide_eq_true_eq] at hin
    have hsource : inRanges [(r.1, r.2.1)] c.toNat = true := by simp [inRanges, hin]
    have himage : inRanges [(r.2.2.2, r.2.2.2 + (r.2.1 - r.1))] (r.2.2.2 + (c.toNat - r.1)) := by
      simp [inRanges]
      omega
    have hblank : isBlank c = false :=
      inRanges_eq_false_of_apart (by simpa using fun b hb => (hapart r hr b hb).1) hsource
    have hblank' : inRanges blankRanges (r.2.2.2 + (c.toNat - r.1)) = false :=
      inRanges_eq_false_of_apart (by simpa using fun b hb => (hapart r hr b hb).2) himage
    rw [hblank, isBlank_ofNat_eq_false hblank']
  · rw [Char.ofNat_toNat]

/-- **Case folding keeps blanks apart from all other characters.** -/
theorem isBlank_foldChar (c : Char) : isBlank (foldChar c) = isBlank c := by
  have hexceptions : ∀ e ∈ foldExceptions, inRanges blankRanges e.1 = false ∧
      inRanges blankRanges e.2 = false := by decide +kernel
  unfold foldChar
  split
  · rename_i e hfound
    obtain ⟨hsource, himage⟩ := hexceptions e (List.mem_of_find?_eq_some hfound)
    have hcode : e.1 = c.toNat := by simpa using List.find?_some hfound
    rw [isBlank_ofNat_eq_false himage, isBlank, ← hcode, hsource]
  · exact isBlank_lowerChar c

/-! ### Fronts of one class -/

/-- A character outside a class ends the longest front of that class. -/
theorem takeWhile_append_cons {p : Char → Bool} {c : Char} (hp : p c = false) (a b : List Char) :
    (a ++ c :: b).takeWhile p = a.takeWhile p := by
  induction a with
  | nil => simp [hp]
  | cons x a ih =>
    rw [List.cons_append, List.takeWhile_cons, List.takeWhile_cons, ih]

/-- A character outside a class stays behind the longest front of that class. -/
theorem dropWhile_append_cons {p : Char → Bool} {c : Char} (hp : p c = false) (a b : List Char) :
    (a ++ c :: b).dropWhile p = a.dropWhile p ++ c :: b := by
  induction a with
  | nil => simp [hp]
  | cons x a ih =>
    rw [List.cons_append, List.dropWhile_cons, List.dropWhile_cons, ih]
    split <;> rfl

/-- A front of one class that nothing of the class follows is the longest one. -/
theorem takeWhile_append_of_class {p : Char → Bool} {a r : List Char} (ha : ∀ c ∈ a, p c = true)
    (hr : ∀ c ∈ r.head?, p c = false) : (a ++ r).takeWhile p = a := by
  rw [List.takeWhile_append_of_pos ha]
  cases r with
  | nil => exact List.append_nil a
  | cons c r => rw [List.takeWhile_cons_of_neg (by simp [hr c rfl]), List.append_nil]

theorem dropWhile_append_of_class {p : Char → Bool} {a r : List Char} (ha : ∀ c ∈ a, p c = true)
    (hr : ∀ c ∈ r.head?, p c = false) : (a ++ r).dropWhile p = r := by
  have hsplit := List.takeWhile_append_dropWhile (p := p) (l := a ++ r)
  rw [takeWhile_append_of_class ha hr] at hsplit
  exact List.append_cancel_left hsplit

/-- Such a front, and what follows it, are told by the text. -/
theorem append_inj_of_class {p : Char → Bool} {a b r s : List Char} (ha : ∀ c ∈ a, p c = true)
    (hr : ∀ c ∈ r.head?, p c = false) (hb : ∀ c ∈ b, p c = true)
    (hs : ∀ c ∈ s.head?, p c = false) (h : a ++ r = b ++ s) : a = b ∧ r = s := by
  have hfront := congrArg (List.takeWhile p) h
  have hrest := congrArg (List.dropWhile p) h
  rw [takeWhile_append_of_class ha hr, takeWhile_append_of_class hb hs] at hfront
  rw [dropWhile_append_of_class ha hr, dropWhile_append_of_class hb hs] at hrest
  exact ⟨hfront, hrest⟩

/-- A text that begins outside a class does so with anything behind it. -/
theorem forall_mem_head?_append {p : Char → Bool} {w r : List Char} {x : Char} (hw : w = x :: r)
    (hx : p x = false) (u : List Char) : ∀ c ∈ (w ++ u).head?, p c = false := by
  subst hw
  simpa using hx

theorem eq_of_append_cons {p : Char → Bool} {a b r s : List Char} {x y : Char}
    (ha : ∀ c ∈ a, p c = true) (hx : p x = false) (hb : ∀ c ∈ b, p c = true) (hy : p y = false)
    (h : a ++ x :: r = b ++ y :: s) : a = b :=
  (append_inj_of_class ha (by simpa using hx) hb (by simpa using hy) h).1

/-- What follows the longest front of characters of a class is not of that class. -/
theorem eq_false_of_mem_head?_dropWhile {p : Char → Bool} {t : List Char} {c : Char}
    (h : c ∈ (t.dropWhile p).head?) : p c = false := by
  have hstop := List.head?_dropWhile_not p t
  rw [Option.mem_def.mp h] at hstop
  simpa using hstop

end SqlAnalysis.Unicode
