import SqlAnalysis.Proofs.Text.Slice
import SqlAnalysis.Word

/-!
# The spans of words

Every word that a text is cut into stands at its span, and so does every whole word that is
searched for.  The words stand one behind the other.

## Main results

* `cuts_of_mem_words` — **the span of a word cuts its text out of the query.**
* `pairwise_words` — every word ends where the next one starts, or before.
* `eq_or_stop_le_of_find?` — the first word of a kind stands in front of all others of that kind.
* `cuts_of_firstWholeWord`, `cuts_of_firstWholeWordIgnoreCase` — so do the spans of the two
  searches for a whole word.
-/

namespace SqlAnalysis

open Text Unicode

namespace Word

/-! ### The word at the front of a text -/

/-- A number and what follows it make up the text. -/
theorem eq_append_of_number? {t w r : List Char} (h : number? t = some (w, r)) : t = w ++ r := by
  unfold number? at h
  split at h
  rename_i sign digits hsign
  have ht : t = sign ++ digits := by
    split at hsign <;> (cases hsign; rfl)
  split at h
  · rename_i d s hpoint
    split at h
    · simp only [Option.some.injEq, Prod.mk.injEq] at h
      obtain ⟨rfl, rfl⟩ := h
      have hdigits : digits = digits.takeWhile isDigit ++ '.' :: d :: s := by
        rw [← hpoint, List.takeWhile_append_dropWhile]
      have hs : s = s.takeWhile isWordChar ++ s.dropWhile isWordChar :=
        (List.takeWhile_append_dropWhile).symm
      rw [ht]
      conv => lhs; rw [hdigits, hs]
      simp
    · simp at h
  · simp at h

/-- A word and what follows it make up the text. -/
theorem eq_append_of_head? {t w r : List Char} (h : head? t = some (w, r)) : t = w ++ r := by
  unfold head? at h
  split at h
  · rename_i q hnumber
    cases h
    exact eq_append_of_number? hnumber
  · split at h
    · split at h
      · simp only [Option.some.injEq, Prod.mk.injEq] at h
        obtain ⟨rfl, rfl⟩ := h
        simp
      · simp at h
    · simp at h

/-! ### All words -/

/-- The words of a text that starts at the offset `pos` stand at their spans. -/
theorem cuts_of_mem_scan {pos : Nat} {t : List Char} {w : Word} (h : w ∈ scan pos t) :
    ∃ s : Span, s.Cuts w.text.toList t ∧ w.span = s.shift pos := by
  fun_induction scan pos t with
  | case1 pos t v r hhead ih =>
    have ht : t = v ++ r := eq_append_of_head? hhead
    rcases List.mem_cons.mp h with rfl | h
    · refine ⟨⟨0, byteLength v⟩, ⟨[], r, ?_, rfl, ?_⟩, ?_⟩
      · simp [ht]
      · simp
      · simp [Word.span, Span.shift, Nat.add_comm]
    · -- the rest starts behind the first word
      obtain ⟨s, hcuts, hspan⟩ := ih h
      refine ⟨s.shift (byteLength v), ?_, ?_⟩
      · exact hcuts.within (r := ⟨byteLength v, byteLength t⟩)
          ⟨v, [], by simp [ht], rfl, by simp [ht]⟩
      · rw [hspan]
        simp only [Span.shift, Span.mk.injEq]
        omega
  | case2 => simp at h
  | case3 pos c r _ ih =>
    obtain ⟨s, hcuts, hspan⟩ := ih h
    refine ⟨s.shift c.utf8Size, ?_, ?_⟩
    · exact hcuts.within (r := ⟨c.utf8Size, byteLength (c :: r)⟩)
        ⟨[c], [], by simp, by simp, by simp⟩
    · rw [hspan]
      simp only [Span.shift, Span.mk.injEq]
      omega

/-- No word starts before its text. -/
theorem le_start_of_mem_scan {pos : Nat} {t : List Char} {w : Word} (h : w ∈ scan pos t) :
    pos ≤ w.start := by
  obtain ⟨s, -, hspan⟩ := cuts_of_mem_scan h
  have hstart : w.start = s.start + pos := congrArg Span.start hspan
  omega

/-- The words of a text stand one behind the other. -/
theorem pairwise_scan (pos : Nat) (t : List Char) :
    (scan pos t).Pairwise fun v w => v.stop ≤ w.start := by
  fun_induction scan pos t with
  | case1 pos t v r _ ih => exact List.pairwise_cons.mpr ⟨fun w hw => le_start_of_mem_scan hw, ih⟩
  | case2 => exact List.Pairwise.nil
  | case3 pos c r _ ih => exact ih

end Word

/-- Every word ends where the next one starts, or before. -/
theorem pairwise_words (text : String) : (words text).Pairwise fun v w => v.stop ≤ w.start :=
  Word.pairwise_scan 0 text.toList

/-- The first word of a kind stands in front of all other words of that kind. -/
theorem eq_or_stop_le_of_find? {text : String} {p : Word → Bool} {v w : Word}
    (h : (words text).find? p = some v) (hw : w ∈ words text) (hp : p w = true) :
    w = v ∨ v.stop ≤ w.start := by
  obtain ⟨-, us, vs, hwords, hfront⟩ := List.find?_eq_some_iff_append.mp h
  have hsorted := pairwise_words text
  rw [hwords] at hw hsorted
  rcases List.mem_append.mp hw with hu | hv
  · have hnot := hfront w hu
    rw [hp] at hnot
    cases hnot
  · rcases List.mem_cons.mp hv with rfl | hv
    · exact .inl rfl
    · exact .inr (List.rel_of_pairwise_cons (List.pairwise_append.mp hsorted).2.1 hv)

/-- **The span of a word cuts its text out of the query.** -/
theorem cuts_of_mem_words {text : String} {w : Word} (h : w ∈ words text) :
    w.span.Cuts w.text.toList text.toList := by
  obtain ⟨s, hcuts, hspan⟩ := Word.cuts_of_mem_scan h
  rw [hspan]
  exact hcuts

/-! ### Looking words up -/

/-- Where a text occurs, it can be cut out. -/
theorem exists_of_mem_occurrencesFrom {target : List Char} {skip pos i : Nat} {t : List Char}
    (h : i ∈ occurrencesFrom target skip pos t) :
    ∃ a b, t = a ++ target ++ b ∧ i = pos + byteLength a := by
  fun_induction occurrencesFrom target skip pos t with
  | case1 => simp at h
  | case2 skip pos c t ih | case4 pos c t _ ih =>
    obtain ⟨a, b, rfl, rfl⟩ := ih h
    exact ⟨c :: a, b, rfl, by rw [byteLength_cons, Nat.add_assoc]⟩
  | case3 pos c t hfront ih =>
    rcases List.mem_cons.mp h with rfl | h
    · obtain ⟨b, hb⟩ := List.isPrefixOf_iff_prefix.mp hfront
      exact ⟨[], b, hb.symm, rfl⟩
    · obtain ⟨a, b, rfl, rfl⟩ := ih h
      exact ⟨c :: a, b, rfl, by rw [byteLength_cons, Nat.add_assoc]⟩

/-- The span of a whole word cuts it out of the text. -/
theorem cuts_of_firstWholeWord {text target : String} {s : Span}
    (h : firstWholeWord text target = some s) : s.Cuts target.toList text.toList := by
  unfold firstWholeWord at h
  split at h
  · simp at h
  · obtain ⟨i, hi, rfl⟩ := Option.map_eq_some_iff.mp h
    obtain ⟨a, b, htext, rfl⟩ := exists_of_mem_occurrencesFrom (List.mem_of_find?_eq_some hi)
    exact ⟨a, b, htext, by simp, by simp⟩

/-- The span of a whole word up to ASCII case cuts such a word out of the text. -/
theorem cuts_of_firstWholeWordIgnoreCase {text target : String} {s : Span}
    (h : firstWholeWordIgnoreCase text target = some s) :
    ∃ w : String, s.Cuts w.toList text.toList ∧ eqIgnoreAsciiCase w.toList target.toList := by
  obtain ⟨w, hw, rfl⟩ := Option.map_eq_some_iff.mp h
  have hsame := List.find?_some hw
  exact ⟨w.text, cuts_of_mem_words (List.mem_of_find?_eq_some hw), hsame⟩

end SqlAnalysis
