import SqlAnalysis.Unicode.Case

/-!
# ASCII case and lower case

Two words that differ in the case of ASCII letters only have the same lower-case form: nothing that
taking the lower case asks about a character, or about those around it, tells a capital ASCII letter
from its small one.  For words of ASCII characters the converse holds as well, since there the lower
case of a character is that of ASCII.

## Main definitions

* `LowersAlike` — taking the lower case does not tell two characters apart.

## Main results

* `lower_asciiLower` — the case of ASCII letters does not matter for the lower-case form.
* `lower_eq_of_eqIgnoreAsciiCase` — **equal up to ASCII case is equal up to case.**
* `eqIgnoreAsciiCase_iff_lower_eq` — **for ASCII words the two are the same.**
-/

namespace SqlAnalysis.Unicode

/-- Taking the lower case of a text does not tell two characters apart. -/
structure LowersAlike (c d : Char) : Prop where
  lowerChar : lowerChar c = lowerChar d
  isCased : isCased c = isCased d
  isCaseIgnorable : isCaseIgnorable c = isCaseIgnorable d
  sigma : c = 'Σ' ↔ d = 'Σ'
  dotted : c = 'İ' ↔ d = 'İ'

/-- A small ASCII letter is not told from its capital one. -/
theorem lowersAlike_asciiLowerChar (c : Char) : LowersAlike (asciiLowerChar c) c := by
  have hcapitals : ∀ n ∈ List.range' 65 26,
      lowerChar (asciiLowerChar (Char.ofNat n)) = lowerChar (Char.ofNat n) ∧
      isCased (asciiLowerChar (Char.ofNat n)) = isCased (Char.ofNat n) ∧
      isCaseIgnorable (asciiLowerChar (Char.ofNat n)) = isCaseIgnorable (Char.ofNat n) ∧
      (asciiLowerChar (Char.ofNat n) = 'Σ' ↔ Char.ofNat n = 'Σ') ∧
      (asciiLowerChar (Char.ofNat n) = 'İ' ↔ Char.ofNat n = 'İ') := by
    decide +kernel
  -- all other characters stay as they are
  by_cases hc : 'A' ≤ c ∧ c ≤ 'Z'
  · have hcode : c.toNat ∈ List.range' 65 26 := by
      have hlow : 65 ≤ c.toNat := hc.1
      have hhigh : c.toNat ≤ 90 := hc.2
      rw [List.mem_range'_1]
      omega
    obtain ⟨hlower, hcased, hignorable, hsigma, hdotted⟩ := hcapitals c.toNat hcode
    rw [Char.ofNat_toNat] at hlower hcased hignorable hsigma hdotted
    exact ⟨hlower, hcased, hignorable, hsigma, hdotted⟩
  · have hsame : asciiLowerChar c = c := if_neg hc
    rw [hsame]
    exact ⟨rfl, rfl, rfl, .rfl, .rfl⟩

variable {f : Char → Char}

/-- Whether a text begins with a cased letter does not depend on what is not told apart. -/
theorem startsCased_map (hf : ∀ c, LowersAlike (f c) c) (t : List Char) :
    startsCased (t.map f) = startsCased t := by
  induction t with
  | nil => rfl
  | cons c t ih =>
    unfold startsCased at ih ⊢
    rw [List.map_cons, List.dropWhile_cons, List.dropWhile_cons, (hf c).isCaseIgnorable]
    by_cases hc : isCaseIgnorable c
    · rw [if_pos hc, if_pos hc]
      exact ih
    · rw [if_neg hc, if_neg hc]
      exact (hf c).isCased

/-- The lower case of a text does not depend on what is not told apart. -/
theorem lowerFrom_map (hf : ∀ c, LowersAlike (f c) c) (before t : List Char) :
    lowerFrom (before.map f) (t.map f) = lowerFrom before t := by
  induction t generalizing before with
  | nil => rfl
  | cons c t ih =>
    have hrest := ih (c :: before)
    rw [List.map_cons] at hrest
    rw [List.map_cons, lowerFrom, lowerFrom, hrest, startsCased_map hf, startsCased_map hf,
      (hf c).lowerChar]
    simp only [(hf c).sigma, (hf c).dotted]

theorem lower_asciiLower (t : List Char) : lower (asciiLower t) = lower t :=
  lowerFrom_map lowersAlike_asciiLowerChar [] t

/-- **Words that are equal up to ASCII case have the same lower-case form.** -/
theorem lower_eq_of_eqIgnoreAsciiCase {a b : List Char} (h : eqIgnoreAsciiCase a b = true) :
    lower a = lower b := by
  rw [← lower_asciiLower a, ← lower_asciiLower b, beq_iff_eq.mp h]

/-! ### ASCII words -/

/-- All characters are ASCII characters. -/
def IsAscii (t : List Char) : Prop :=
  ∀ c ∈ t, c.toNat < 128

instance (t : List Char) : Decidable (IsAscii t) :=
  List.decidableBAll (fun c : Char => c.toNat < 128) t

theorem lowerChar_of_ascii {c : Char} (hc : c.toNat < 128) :
    lowerChar c = asciiLowerChar c ∧ c ≠ 'Σ' ∧ c ≠ 'İ' := by
  have hascii : ∀ n < 128, lowerChar (Char.ofNat n) = asciiLowerChar (Char.ofNat n) ∧
      Char.ofNat n ≠ 'Σ' ∧ Char.ofNat n ≠ 'İ' := by
    decide +kernel
  have hcode := hascii c.toNat hc
  rwa [Char.ofNat_toNat] at hcode

/-- The lower case of an ASCII word is that of its ASCII letters. -/
theorem lowerFrom_of_isAscii {t : List Char} (ht : IsAscii t) (before : List Char) :
    lowerFrom before t = asciiLower t := by
  induction t generalizing before with
  | nil => rfl
  | cons c t ih =>
    obtain ⟨hlower, hsigma, hdotted⟩ := lowerChar_of_ascii (ht c List.mem_cons_self)
    have hrest := ih (fun d hd => ht d (List.mem_cons_of_mem c hd)) (c :: before)
    rw [lowerFrom, hrest, if_neg hsigma, if_neg hdotted, hlower]
    rfl

/-- **ASCII words are equal up to ASCII case exactly if they have the same lower-case form.** -/
theorem eqIgnoreAsciiCase_iff_lower_eq {a b : List Char} (ha : IsAscii a) (hb : IsAscii b) :
    eqIgnoreAsciiCase a b = true ↔ lower a = lower b := by
  rw [eqIgnoreAsciiCase, beq_iff_eq, lower, lower, lowerFrom_of_isAscii ha, lowerFrom_of_isAscii hb]

end SqlAnalysis.Unicode
