import SqlAnalysis.Proofs.Word.Maximal

/-!
# The word at an offset

The search for the word at an offset goes through the words from left to right and gives up at the
first one that starts behind the offset.  The words of a text stand one behind the other, so every
later word starts behind the offset as well, and giving up misses none.  Two words touch one offset
only where they abut, and then the left one is found, since it is the one that ends there.

## Main results

* `locateIn_eq_find?` — giving up early misses no word.
* `locate_eq_some_iff` — a word is located at an offset that it touches and no other word ends at.
* `isSome_locate_iff` — a word is located exactly when one touches the offset.
* `cuts_of_locate` — the span of a word that is located cuts it out of the query.
* `locate_of_mem_words` — **a word that begins with a word character is located from everywhere on
  its span.**
* `locate_eq_find?_encloses` — **the word at an offset is the first one that touches it.**
-/

namespace SqlAnalysis

open Text Unicode

@[simp] theorem Word.encloses_iff {w : Word} {offset : Nat} :
    w.encloses offset = true ↔ w.start ≤ offset ∧ offset ≤ w.stop := by
  simp [Word.encloses]

/-- **Giving up early misses no word**, among words that stand one behind the other. -/
theorem locateIn_eq_find? {offset : Nat} {ws : List Word}
    (hsorted : ws.Pairwise fun v w => v.stop ≤ w.start) (hspan : ∀ w ∈ ws, w.start ≤ w.stop) :
    locateIn offset ws = ws.find? (·.encloses offset) := by
  induction ws with
  | nil => rfl
  | cons w ws ih =>
    rw [locateIn]
    by_cases hbehind : offset < w.start
    · -- no later word starts further to the left
      have hnone : ∀ v ∈ w :: ws, ¬v.encloses offset = true := by
        intro v hv htouch
        obtain ⟨hstart, -⟩ := Word.encloses_iff.mp htouch
        rcases List.mem_cons.mp hv with rfl | hv
        · omega
        · have hright := List.rel_of_pairwise_cons hsorted hv
          have hle := hspan w List.mem_cons_self
          omega
      rw [if_pos hbehind, List.find?_eq_none.mpr hnone]
    · rw [if_neg hbehind]
      by_cases hstop : offset ≤ w.stop
      · have htouch : w.encloses offset = true := Word.encloses_iff.mpr ⟨by omega, hstop⟩
        simp only [if_pos hstop, List.find?_cons, htouch]
      · have hnot : w.encloses offset = false :=
          Bool.eq_false_iff.mpr fun h => hstop (Word.encloses_iff.mp h).2
        simp only [if_neg hstop, List.find?_cons, hnot]
        exact ih hsorted.of_cons fun v hv => hspan v (List.mem_cons_of_mem w hv)

section

variable {query : String} {offset : Nat} {u w : Word}

/-! ### Two words of one text -/

/-- A word spans at least one byte. -/
theorem start_lt_stop_of_mem_words (h : w ∈ words query) : w.start < w.stop := by
  obtain ⟨a, b, -, hstart, hstop, hhead, -⟩ := exists_of_mem_words h
  have hne : byteLength w.text.toList ≠ 0 :=
    fun hzero => Word.ne_nil_of_head? hhead (byteLength_eq_zero.mp hzero)
  rw [hstart, hstop, byteLength_append]
  omega

/-- Two words of a text are one and the same, or stand apart. -/
theorem eq_or_apart_of_mem_words (hu : u ∈ words query) (hw : w ∈ words query) :
    u = w ∨ u.stop ≤ w.start ∨ w.stop ≤ u.start := by
  obtain ⟨us, ws, hwords⟩ := List.append_of_mem hw
  have hsorted := pairwise_words query
  rw [hwords] at hu hsorted
  obtain ⟨-, hbehind, hfront⟩ := List.pairwise_append.mp hsorted
  rcases List.mem_append.mp hu with hu | hu
  · exact .inr (.inl (hfront u hu w List.mem_cons_self))
  · rcases List.mem_cons.mp hu with rfl | hu
    · exact .inl rfl
    · exact .inr (.inr (List.rel_of_pairwise_cons hbehind hu))

/-- Only one word ends at an offset. -/
theorem eq_of_stop_eq (hu : u ∈ words query) (hw : w ∈ words query) (h : u.stop = w.stop) :
    u = w := by
  have hlt := start_lt_stop_of_mem_words hu
  have hlt' := start_lt_stop_of_mem_words hw
  rcases eq_or_apart_of_mem_words hu hw with heq | hleft | hright
  · exact heq
  · omega
  · omega

/-! ### What is located -/

theorem locate_eq_find? (offset : Nat) (query : String) :
    locate offset query = (words query).find? (·.encloses offset) :=
  locateIn_eq_find? (pairwise_words query) fun _ hw => (start_lt_stop_of_mem_words hw).le

/-- A word is located where it touches the offset and no other word ends. -/
theorem locate_of_touches (hw : w ∈ words query) (hstart : w.start ≤ offset)
    (hstop : offset ≤ w.stop) (honly : ∀ u ∈ words query, u.stop = offset → u = w) :
    locate offset query = some w := by
  have htouch : w.encloses offset = true := Word.encloses_iff.mpr ⟨hstart, hstop⟩
  obtain ⟨v, hv⟩ : ∃ v, (words query).find? (·.encloses offset) = some v :=
    Option.isSome_iff_exists.mp (List.find?_isSome.mpr ⟨w, hw, htouch⟩)
  rw [locate_eq_find?, hv]
  rcases eq_or_stop_le_of_find? hv hw htouch with rfl | hfront
  · rfl
  · -- a word in front that touches the offset ends there
    have htouch' := List.find?_some hv
    obtain ⟨-, hreach⟩ := Word.encloses_iff.mp htouch'
    rw [honly v (List.mem_of_find?_eq_some hv) (by omega)]

/-- **When a word is located**: it touches the offset, and no other word ends there. -/
theorem locate_eq_some_iff :
    locate offset query = some w ↔
      w ∈ words query ∧ w.start ≤ offset ∧ offset ≤ w.stop ∧
        ∀ u ∈ words query, u.stop = offset → u = w := by
  constructor
  · intro h
    have hfound := h
    rw [locate_eq_find?] at hfound
    have htouch := List.find?_some hfound
    obtain ⟨hstart, hstop⟩ := Word.encloses_iff.mp htouch
    refine ⟨List.mem_of_find?_eq_some hfound, hstart, hstop, ?_⟩
    intro u hu hends
    have hlt := start_lt_stop_of_mem_words hu
    have hlocated : locate offset query = some u :=
      locate_of_touches hu (by omega) (by omega) fun v hv hv' =>
        eq_of_stop_eq hv hu (hv'.trans hends.symm)
    rw [h] at hlocated
    exact (Option.some.inj hlocated).symm
  · rintro ⟨hw, hstart, hstop, honly⟩
    exact locate_of_touches hw hstart hstop honly

theorem mem_words_of_locate (h : locate offset query = some w) : w ∈ words query :=
  (locate_eq_some_iff.mp h).1

/-- The span of a word that is located cuts it out of the query. -/
theorem cuts_of_locate (h : locate offset query = some w) :
    w.span.Cuts w.text.toList query.toList :=
  cuts_of_mem_words (mem_words_of_locate h)

/-- A word is located exactly when one touches the offset. -/
theorem isSome_locate_iff :
    (locate offset query).isSome ↔ ∃ w ∈ words query, w.start ≤ offset ∧ offset ≤ w.stop := by
  simp [locate_eq_find?]

/-- **A word that begins with a word character is located from everywhere on its span**, both ends
included. -/
theorem locate_of_mem_words (h : w ∈ words query) {d : Char} (hd : d ∈ w.text.toList.head?)
    (hword : isWordChar d = true) (hstart : w.start ≤ offset) (hstop : offset ≤ w.stop) :
    locate offset query = some w := by
  refine locate_of_touches h hstart hstop ?_
  intro u hu hends
  have hlt := start_lt_stop_of_mem_words hu
  have hne := stop_ne_start_of_mem_words hu h hd hword
  rcases eq_or_apart_of_mem_words hu h with heq | hleft | hright
  · exact heq
  · omega
  · omega

end

/-- **The word at an offset is the first one that touches it.**  There is none exactly if no word of
the text touches the offset, and of two words that abut there it is the left one. -/
theorem locate_eq_find?_encloses (offset : Nat) (text : String) :
    locate offset text = (words text).find? (·.encloses offset) ∧
      (locate offset text = none ↔ ∀ w ∈ words text, ¬(w.start ≤ offset ∧ offset ≤ w.stop)) ∧
      ∀ v ∈ words text, ∀ w ∈ words text, v.stop = offset → w.start = offset →
        locate offset text = some v := by
  refine ⟨locate_eq_find? offset text, ?_, ?_⟩
  · rw [locate_eq_find?, List.find?_eq_none]
    simp only [Word.encloses_iff]
  · intro v hv w _ hends _
    have hlt := start_lt_stop_of_mem_words hv
    refine locate_of_touches hv (by omega) (by omega) ?_
    intro u hu hu'
    exact eq_of_stop_eq hu hv (hu'.trans hends.symm)

/-- Between two numbers that abut the left one is located, and past the end of the text none. -/
theorem locate_between_numbers :
    let text := "a.5.55"
    let left : Word := ⟨".5", 1, 3⟩
    let right : Word := ⟨".55", 3, 6⟩
    left ∈ words text ∧ right ∈ words text ∧ locate 3 text = some left ∧ locate 7 text = none := by
  intro text left right
  have hleft : left ∈ words text := by decide +kernel
  have hright : right ∈ words text := by decide +kernel
  obtain ⟨-, -, habut⟩ := locate_eq_find?_encloses 3 text
  obtain ⟨-, hnone, -⟩ := locate_eq_find?_encloses 7 text
  exact ⟨hleft, hright, habut left hleft right hright rfl rfl, hnone.mpr (by decide +kernel)⟩

end SqlAnalysis
