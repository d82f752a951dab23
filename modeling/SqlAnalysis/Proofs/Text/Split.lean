import SqlAnalysis.Proofs.Unicode.Classes
import SqlAnalysis.Text.Split

/-!
# Undoing what writing adds

Trimming takes off what was put around a text, as long as the text itself neither begins nor ends
with such characters.  Cutting finds the places where pieces were put together, as long as the
pieces do not hold the character between them.  And digits are read back as the number that was
written.

## Main definitions

* `Bare p t` — `t` neither begins nor ends with a character that satisfies `p`.

## Main results

* `trimMatching_eq_self_iff` — trimming leaves exactly the bare texts alone.
* `trimMatching_enclosed` — what is put around a bare text is trimmed off again.
* `splitAt_eq_splitOn` — a text is cut as the library cuts lists.
* `decimal?_toDigits` — **a number that is written out is read back, if it fits into 64 bits.**
-/

namespace SqlAnalysis.Text

open Unicode

/-! ### Trimming -/

/-- The text neither begins nor ends with a character that satisfies `p`. -/
structure Bare (p : Char → Bool) (t : List Char) : Prop where
  /-- It does not begin with one. -/
  head : ∀ c ∈ t.head?, p c = false
  /-- It does not end with one. -/
  last : ∀ c ∈ t.getLast?, p c = false

variable {p : Char → Bool} {t : List Char}

theorem bare_iff_all :
    Bare p t ↔ (t.head?.all (!p ·) && t.getLast?.all (!p ·)) = true := by
  simp only [Bool.and_eq_true, Option.all_eq_true, Bool.not_eq_true']
  exact ⟨fun h => ⟨h.head, h.last⟩, fun h => ⟨h.1, h.2⟩⟩

-- The two ends are tested, not all characters.
instance (p : Char → Bool) (t : List Char) : Decidable (Bare p t) :=
  decidable_of_iff' _ bare_iff_all

theorem bare_cons_append {c d : Char} (hc : p c = false) (hd : p d = false) (t : List Char) :
    Bare p (c :: (t ++ [d])) := by
  have hlast : (c :: (t ++ [d])).getLast? = some d := by
    rw [← List.cons_append, List.getLast?_concat]
  refine ⟨fun x hx => ?_, fun x hx => ?_⟩
  · obtain rfl := Option.some.inj hx
    exact hc
  · rw [hlast] at hx
    obtain rfl := Option.some.inj hx
    exact hd

/-- What is trimmed is added again without effect. -/
theorem trimEndMatching_append {more : List Char} (hmore : ∀ c ∈ more, p c = true)
    (ht : ∀ c ∈ t.getLast?, p c = false) : trimEndMatching p (t ++ more) = t := by
  rw [trimEndMatching, List.reverse_append,
    dropWhile_append_of_class (by simpa using hmore) (by simpa using ht), List.reverse_reverse]

theorem eq_false_of_mem_getLast?_trimEndMatching {c : Char}
    (hc : c ∈ (trimEndMatching p t).getLast?) : p c = false := by
  rw [trimEndMatching, List.getLast?_reverse] at hc
  exact eq_false_of_mem_head?_dropWhile hc

/-- What is trimmed off the end stood there. -/
theorem exists_eq_trimEndMatching_append (p : Char → Bool) (t : List Char) :
    ∃ more, t = trimEndMatching p t ++ more ∧ ∀ c ∈ more, p c = true := by
  refine ⟨(t.reverse.takeWhile p).reverse, ?_, fun c hc => ?_⟩
  · rw [trimEndMatching, ← List.reverse_append, List.takeWhile_append_dropWhile,
      List.reverse_reverse]
  · exact List.mem_takeWhile_imp (List.mem_reverse.mp hc)

/-- **What is put around a bare text is trimmed off again.** -/
theorem trimMatching_enclosed (front back : List Char) (hfront : ∀ c ∈ front, p c = true)
    (hback : ∀ c ∈ back, p c = true) (ht : Bare p t) :
    trimMatching p (front ++ (t ++ back)) = t := by
  unfold trimMatching
  cases t with
  | nil =>
    -- nothing is left between both sides
    have hnil : (front ++ ([] ++ back)).dropWhile p = [] :=
      List.dropWhile_eq_nil_iff.mpr (by simpa [or_imp, forall_and] using ⟨hfront, hback⟩)
    rw [hnil]
    rfl
  | cons c t =>
    rw [dropWhile_append_of_class hfront (by simpa using ht.head c rfl)]
    exact trimEndMatching_append hback ht.last

theorem bare_trimMatching (p : Char → Bool) (t : List Char) : Bare p (trimMatching p t) := by
  refine ⟨fun c hc => ?_, fun c hc => ?_⟩
  · -- what is left in the end is a front of what is left at first
    have hfront : trimMatching p t <+: t.dropWhile p := by
      have hback := List.dropWhile_suffix (l := (t.dropWhile p).reverse) p
      simpa [trimMatching, trimEndMatching] using List.reverse_prefix.mpr hback
    obtain ⟨r, hr⟩ := hfront
    refine eq_false_of_mem_head?_dropWhile (t := t) ?_
    rw [← hr, List.head?_append, Option.mem_def.mp hc]
    rfl
  · exact eq_false_of_mem_getLast?_trimEndMatching hc

/-- **Trimming leaves exactly the bare texts alone.** -/
theorem trimMatching_eq_self_iff : trimMatching p t = t ↔ Bare p t := by
  constructor
  · intro h
    exact h ▸ bare_trimMatching p t
  · intro h
    simpa using trimMatching_enclosed [] [] (by simp) (by simp) h

theorem mem_of_mem_trimMatching {c : Char} (h : c ∈ trimMatching p t) : c ∈ t := by
  rw [trimMatching, trimEndMatching, List.mem_reverse] at h
  have hmem := List.mem_reverse.mp ((List.dropWhile_sublist p).mem h)
  exact (List.dropWhile_sublist p).mem hmem

/-! ### Cutting -/

theorem cutFirst?_append_cons {c : Char} {a : List Char} (ha : c ∉ a) (b : List Char) :
    cutFirst? c (a ++ c :: b) = some (a, b) := by
  induction a with
  | nil => simp [cutFirst?]
  | cons d a ih =>
    obtain ⟨hd, ha⟩ := not_or.mp (List.mem_cons.not.mp ha)
    rw [List.cons_append, cutFirst?, if_neg (Ne.symm hd), ih ha]
    rfl

theorem cutFirst?_eq_none {c : Char} (h : c ∉ t) : cutFirst? c t = none := by
  induction t with
  | nil => rfl
  | cons d t ih =>
    obtain ⟨hd, ht⟩ := not_or.mp (List.mem_cons.not.mp h)
    rw [cutFirst?, if_neg (Ne.symm hd), ih ht]
    rfl

theorem cutLast?_append_cons {c : Char} {b : List Char} (hb : c ∉ b) (a : List Char) :
    cutLast? c (a ++ c :: b) = some (a, b) := by
  have hreverse : (a ++ c :: b).reverse = b.reverse ++ c :: a.reverse := by simp
  rw [cutLast?, hreverse, cutFirst?_append_cons (by simpa using hb)]
  simp

/-- A text is cut as the library cuts lists. -/
theorem splitAt_eq_splitOn (c : Char) (t : List Char) : splitAt c t = t.splitOn c := by
  induction t with
  | nil => rfl
  | cons d t ih =>
    obtain ⟨p, ps, hpieces⟩ := List.exists_cons_of_ne_nil (List.splitOn_ne_nil c t)
    rw [splitAt, ih, List.splitOn_cons_eq_if_modifyHead, hpieces]
    by_cases hd : d = c <;> simp [hd]

/-- No piece holds the character that the text was cut at. -/
theorem notMem_of_mem_splitAt {c : Char} {t piece : List Char} (h : piece ∈ splitAt c t) :
    c ∉ piece := by
  induction t generalizing piece with
  | nil =>
    obtain rfl := List.mem_singleton.mp h
    exact List.not_mem_nil
  | cons d t ih =>
    rw [splitAt] at h
    split at h
    · rename_i hnil
      rw [splitAt_eq_splitOn] at hnil
      exact absurd hnil (List.splitOn_ne_nil c t)
    · rename_i p ps hpieces
      rw [hpieces] at ih
      split at h
      · rcases List.mem_cons.mp h with rfl | h
        · exact List.not_mem_nil
        · exact ih h
      · rename_i hd
        rcases List.mem_cons.mp h with rfl | h
        · exact List.not_mem_cons_of_ne_of_not_mem (Ne.symm hd) (ih List.mem_cons_self)
        · exact ih (List.mem_cons_of_mem p h)

/-! ### Numbers -/

theorem isAsciiDigit_of_mem_toDigits {n : Nat} {c : Char} (h : c ∈ Nat.toDigits 10 n) :
    isAsciiDigit c :=
  Nat.isDigit_of_mem_toDigits (by decide) (by decide) h

theorem digits?_eq_ofDigitChars {ds : List Char} (h : ∀ c ∈ ds, isAsciiDigit c) (acc : Nat) :
    digits? acc ds = some (Nat.ofDigitChars 10 ds acc) := by
  induction ds generalizing acc with
  | nil => rfl
  | cons d ds ih =>
    rw [digits?, if_pos (h d List.mem_cons_self), ih fun c hc => h c (List.mem_cons_of_mem d hc)]
    rfl

/-- **A number that is written out is read back, if it fits into 64 bits.** -/
theorem decimal?_toDigits {n : Nat} (hn : n < numberLimit) :
    decimal? (Nat.toDigits 10 n) = some n := by
  have hdigits : ∀ c ∈ Nat.toDigits 10 n, isAsciiDigit c := fun _ => isAsciiDigit_of_mem_toDigits
  have hread : digits? 0 (Nat.toDigits 10 n) = some n := by
    rw [digits?_eq_ofDigitChars hdigits, Nat.ofDigitChars_toDigits (by decide) (by decide)]
  have hne := Nat.toDigits_ne_nil (n := n) (b := 10)
  unfold decimal?
  split
  · -- the first digit is no sign
    rename_i r hplus
    have hsign := hdigits '+' (by rw [hplus]; exact List.mem_cons_self)
    exact absurd hsign (by decide)
  · simp [hread, hne, hn]

theorem lt_of_decimal? {n : Nat} (h : decimal? t = some n) : n < numberLimit := by
  unfold decimal? at h
  simp only at h
  split at h
  all_goals
    split at h
    · cases h
    · simpa using (Option.filter_eq_some_iff.mp h).2

end SqlAnalysis.Text
