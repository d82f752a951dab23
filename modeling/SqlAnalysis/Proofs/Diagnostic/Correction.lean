import SqlAnalysis.Proofs.Diagnostic.Closest
import SqlAnalysis.Proofs.Unicode.LetterCase

/-!
# Corrections

A word has no need of a correction if it is one of the candidates up to case.  The search takes
distances between lower-case forms of all letters, and so it stops at the first candidate that
differs from the word in case only.  That one is left out only if the difference is in ASCII
letters: a candidate that differs in other letters is at distance zero, and is offered all the same.
For ASCII words and candidates both notions of case are the same, and a correction is never the word
itself.

## Main results

* `caselessDistance_eq_zero_iff` — the words at distance zero are those that differ in case only.
* `suggest_eq_find?_of_zero` — the first candidate at distance zero is suggested.
* `correction_eq_none_iff` — when there is no correction.
* `correction_spares_word` — **the first candidate at distance zero decides whether the word is left
  alone.**
* `correction_offers_word` — a correction that differs from the word in case only.
-/

namespace SqlAnalysis

open Text Unicode

variable {word : String} {candidates : List String}

/-- The words at distance zero have the same lower-case form. -/
theorem caselessDistance_eq_zero_iff {a b : String} :
    caselessDistance a b = 0 ↔ lower a.toList = lower b.toList :=
  levenshtein_eq_zero_iff

/-- A word that differs in ASCII case only is at distance zero. -/
theorem caselessDistance_of_eqIgnoreAsciiCase {c : String}
    (h : eqIgnoreAsciiCase c.toList word.toList = true) : caselessDistance word c = 0 :=
  caselessDistance_eq_zero_iff.mpr (lower_eq_of_eqIgnoreAsciiCase h).symm

/-- If some candidate is at distance zero, the first of them is suggested. -/
theorem suggest_eq_find?_of_zero {c : String}
    (h : candidates.find? (fun b => caselessDistance word b = 0) = some c) :
    suggest word candidates = some c := by
  obtain ⟨hzero, front, back, hsplit, hfront⟩ := List.find?_eq_some_iff_append.mp h
  rw [decide_eq_true_eq] at hzero
  refine suggest_eq_some_iff.mpr ⟨front.length, by simp [hsplit], fun b _ => by omega, ?_⟩
  intro j hj b hb
  rw [hsplit, List.getElem?_append_left hj] at hb
  have hfar : caselessDistance word b ≠ 0 := by simpa using hfront b (List.mem_of_getElem? hb)
  omega

/-- If some candidate is at distance zero, there is a first one. -/
theorem exists_find?_of_zero {c : String} (hc : c ∈ candidates)
    (hzero : caselessDistance word c = 0) :
    ∃ d, candidates.find? (fun b => caselessDistance word b = 0) = some d := by
  rw [← Option.isSome_iff_exists, List.find?_isSome]
  exact ⟨c, hc, decide_eq_true hzero⟩

/-- A suggestion at distance zero is the first candidate at distance zero. -/
theorem find?_eq_some_of_suggest {c : String} (h : suggest word candidates = some c)
    (hzero : caselessDistance word c = 0) :
    candidates.find? (fun b => caselessDistance word b = 0) = some c := by
  obtain ⟨k, hk⟩ := suggest_eq_some_iff.mp h
  obtain ⟨d, hd⟩ := exists_find?_of_zero (List.mem_of_getElem? hk.stands) hzero
  obtain rfl : c = d := Option.some.inj (h.symm.trans (suggest_eq_find?_of_zero hd))
  exact hd

/-- There is no correction exactly if there are no candidates, or if the first candidate at distance
zero is the word itself up to ASCII case. -/
theorem correction_eq_none_iff :
    correction word candidates = none ↔ candidates = [] ∨
      ∃ c, candidates.find? (fun b => caselessDistance word b = 0) = some c ∧
        eqIgnoreAsciiCase c.toList word.toList = true := by
  rw [correction, Option.filter_eq_none_iff]
  constructor
  · intro h
    cases hsuggest : suggest word candidates with
    | none => exact .inl (suggest_eq_none_iff.mp hsuggest)
    | some c =>
      have hsame : eqIgnoreAsciiCase c.toList word.toList = true := by simpa using h c hsuggest
      have hzero := caselessDistance_of_eqIgnoreAsciiCase hsame
      exact .inr ⟨c, find?_eq_some_of_suggest hsuggest hzero, hsame⟩
  · rintro (rfl | ⟨c, hfirst, hsame⟩) d hd
    · cases hd
    · obtain rfl : c = d := Option.some.inj ((suggest_eq_find?_of_zero hfirst).symm.trans hd)
      simpa using hsame

/-- A correction is the suggestion. -/
theorem correction_eq_suggest (h : correction word candidates ≠ none) :
    correction word candidates = suggest word candidates := by
  obtain ⟨c, hc⟩ := Option.ne_none_iff_exists'.mp h
  rw [hc, (Option.filter_eq_some_iff.mp hc).1]

/-- **The first candidate at distance zero decides whether the word is left alone.**  The candidates
at distance zero are those with the same lower-case form.  There is no correction exactly if there
are no candidates or the first one at distance zero differs from the word in ASCII letters only;
otherwise the correction is the suggestion.  So if the word, and the candidates that differ from it
in case only, consist of ASCII characters, there is none exactly if there are no candidates or one
is at distance zero. -/
theorem correction_spares_word (word : String) (candidates : List String) :
    (∀ c, caselessDistance word c = 0 ↔ lower word.toList = lower c.toList) ∧
    (correction word candidates = none ↔ candidates = [] ∨
      ∃ c, candidates.find? (fun b => caselessDistance word b = 0) = some c ∧
        eqIgnoreAsciiCase c.toList word.toList = true) ∧
    (correction word candidates ≠ none →
      correction word candidates = suggest word candidates) ∧
    (IsAscii word.toList →
      (∀ c ∈ candidates, caselessDistance word c = 0 → IsAscii c.toList) →
        (correction word candidates = none ↔
          candidates = [] ∨ ∃ c ∈ candidates, caselessDistance word c = 0)) := by
  refine ⟨fun c => caselessDistance_eq_zero_iff, correction_eq_none_iff, correction_eq_suggest, ?_⟩
  intro hword hcandidates
  rw [correction_eq_none_iff]
  refine or_congr_right ⟨?_, ?_⟩
  · rintro ⟨c, hfirst, -⟩
    exact ⟨c, List.mem_of_find?_eq_some hfirst, by simpa using List.find?_some hfirst⟩
  · rintro ⟨c, hc, hzero⟩
    -- the first candidate at distance zero need not be this one, but it will do
    obtain ⟨d, hd⟩ := exists_find?_of_zero hc hzero
    have hzero' : caselessDistance word d = 0 := by simpa using List.find?_some hd
    have hascii := hcandidates d (List.mem_of_find?_eq_some hd) hzero'
    have hlower := (caselessDistance_eq_zero_iff.mp hzero').symm
    exact ⟨d, hd, (eqIgnoreAsciiCase_iff_lower_eq hascii hword).mpr hlower⟩

/-- Behind a farther candidate, one that differs from the word in its first letter only: there is no
correction, and for another word that is no candidate the suggestion is the correction. -/
theorem correction_spares_word_capital :
    let candidates := ["SELECTS", "Select", "INSERT"]
    IsAscii "select".toList ∧ "Select" ∈ candidates ∧ caselessDistance "select" "Select" = 0 ∧
      IsAscii "Select".toList ∧ correction "select" candidates = none ∧
        correction "selec" candidates ≠ none ∧
          correction "selec" candidates = suggest "selec" candidates := by
  intro candidates
  obtain ⟨hzero, -, -, hascii⟩ := correction_spares_word "select" candidates
  obtain ⟨-, -, hsuggest, -⟩ := correction_spares_word "selec" candidates
  have hword : IsAscii "select".toList := by decide
  have hcandidates : ∀ c ∈ candidates, IsAscii c.toList := by decide
  have hselect : caselessDistance "select" "Select" = 0 := (hzero "Select").mpr (by decide +kernel)
  have hmem : "Select" ∈ candidates := by decide
  have hsome : correction "selec" candidates ≠ none := by decide +kernel
  refine ⟨hword, hmem, hselect, hcandidates _ hmem, ?_, hsome, hsuggest hsome⟩
  exact (hascii hword fun c hc _ => hcandidates c hc).mpr (.inr ⟨"Select", hmem, hselect⟩)

/-- A candidate that differs from the word in case only is a correction if the letter is not an
ASCII one. -/
theorem correction_offers_word :
    caselessDistance "É" "é" = 0 ∧ suggest "É" ["é"] = some "é" ∧
      correction "É" ["é"] = some "é" :=
  ⟨caselessDistance_eq_zero_iff.mpr (by decide +kernel), by decide +kernel, by decide +kernel⟩

end SqlAnalysis
