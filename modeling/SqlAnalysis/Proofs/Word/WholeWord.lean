import SqlAnalysis.Proofs.Word.Coverage
import SqlAnalysis.Proofs.Word.Locate

/-!
# The search for a whole word

The search goes through the occurrences of a text that do not overlap, from left to right, and
takes the first one at whose start that text is located as a word.  An occurrence is missed when an
earlier one reaches into it; at the start of a word this cannot happen, so every word is met.

What is located at the start of an occurrence is a word that starts there, or one that ends there.
In the second case a word stands in front of its own text once more, and nothing is between them.
Only a number can, and one that begins with a point or a minus sign.  So the search is exact for all
other texts: it finds the first word that is spelled so.  A number may be found at the front of a
longer one.

## Main definitions

* `WordCharAt` — a word character stands at an offset.

## Main results

* `mem_occurrencesFrom` — an occurrence that no other one reaches into is met.
* `start_mem_occurrencesFrom` — **every word is met.**
* `span_eq_or_stop_eq_of_firstWholeWord` — **what the search finds is a word, or stands right behind
  one that is spelled so.**
* `exists_mem_words_of_firstWholeWord` — what it finds is a word if it begins with a word character.
* `firstWholeWord_eq_find?` — **for such a text the search finds the first word that is spelled
  so.**
* `firstWholeWord_isWord_iff` — **when what the search finds is a word.**
-/

namespace SqlAnalysis

open Text Unicode

/-! ### Occurrences -/

/-- No occurrence is met within the characters that are still to be passed over. -/
theorem le_of_mem_occurrencesFrom {target : List Char} {skip pos i : Nat} {t : List Char}
    (h : i ∈ occurrencesFrom target skip pos t) : pos + byteLength (t.take skip) ≤ i := by
  fun_induction occurrencesFrom target skip pos t with
  | case1 => cases h
  | case2 skip pos c t ih =>
    have hle := ih h
    rw [List.take_succ_cons, byteLength_cons]
    omega
  | case3 pos c t _ ih =>
    rw [List.take_zero, byteLength_nil]
    rcases List.mem_cons.mp h with rfl | h
    · exact Nat.le_refl _
    · have hle := ih h
      omega
  | case4 pos c t _ ih =>
    have hle := ih h
    rw [List.take_zero, byteLength_nil] at hle ⊢
    omega

/-- Occurrences are met from left to right, and none of them overlap. -/
theorem pairwise_occurrencesFrom (target : List Char) (skip pos : Nat) (t : List Char) :
    (occurrencesFrom target skip pos t).Pairwise fun i j => i + byteLength target ≤ j := by
  fun_induction occurrencesFrom target skip pos t with
  | case1 => exact List.Pairwise.nil
  | case2 skip pos c t ih | case4 pos c t _ ih => exact ih
  | case3 pos c t hfront ih =>
    refine List.pairwise_cons.mpr ⟨fun j hj => ?_, ih⟩
    have hle := le_of_mem_occurrencesFrom hj
    have hprefix := List.isPrefixOf_iff_prefix.mp hfront
    cases target with
    | nil =>
      rw [byteLength_nil]
      omega
    | cons x u =>
      obtain ⟨rfl, hu⟩ := List.cons_prefix_cons.mp hprefix
      rw [List.length_cons, Nat.add_sub_cancel, ← List.prefix_iff_eq_take.mp hu] at hle
      rw [byteLength_cons]
      omega

/-- Of two occurrences that are met, the left one ends where the right one starts, or before. -/
theorem add_le_of_mem_occurrencesFrom {target : List Char} {skip pos i j : Nat} {t : List Char}
    (hi : i ∈ occurrencesFrom target skip pos t) (hj : j ∈ occurrencesFrom target skip pos t)
    (hlt : i < j) : i + byteLength target ≤ j := by
  obtain ⟨as, bs, hsplit⟩ := List.append_of_mem hi
  have hsorted := pairwise_occurrencesFrom target skip pos t
  rw [hsplit] at hj hsorted
  obtain ⟨-, hbehind, hfront⟩ := List.pairwise_append.mp hsorted
  rcases List.mem_append.mp hj with hj | hj
  · have hle := hfront j hj i List.mem_cons_self
    omega
  · rcases List.mem_cons.mp hj with rfl | hj
    · omega
    · exact List.rel_of_pairwise_cons hbehind hj

/-- An occurrence is met unless one that starts in front of it reaches into it. -/
theorem mem_occurrencesFrom {target : List Char} (htarget : target ≠ []) {a b : List Char}
    {skip pos : Nat} (hskip : skip ≤ a.length)
    (hfree : ∀ k, k <:+ a → k ≠ [] → target <+: k ++ (target ++ b) → target.length ≤ k.length) :
    pos + byteLength a ∈ occurrencesFrom target skip pos (a ++ (target ++ b)) := by
  induction a generalizing skip pos with
  | nil =>
    obtain ⟨c, t, rfl⟩ := List.exists_cons_of_ne_nil htarget
    obtain rfl : skip = 0 := Nat.le_zero.mp hskip
    have hfront : (c :: t).isPrefixOf (c :: (t ++ b)) = true :=
      List.isPrefixOf_iff_prefix.mpr ⟨b, rfl⟩
    rw [List.nil_append, List.cons_append, occurrencesFrom, if_pos hfront]
    exact List.mem_cons_self
  | cons c a ih =>
    have hrest : ∀ k, k <:+ a → k ≠ [] → target <+: k ++ (target ++ b) →
        target.length ≤ k.length := fun k hk => hfree k (hk.trans (List.suffix_cons c a))
    rw [byteLength_cons, ← Nat.add_assoc, List.cons_append]
    cases skip with
    | succ skip =>
      rw [occurrencesFrom]
      exact ih (Nat.le_of_succ_le_succ hskip) hrest
    | zero =>
      rw [occurrencesFrom]
      split
      · rename_i hfront
        -- this occurrence ends before the one that is looked for
        have hends := hfree (c :: a) (List.suffix_refl _) (by simp)
          (List.isPrefixOf_iff_prefix.mp hfront)
        rw [List.length_cons] at hends
        exact List.mem_cons_of_mem _ (ih (by omega) hrest)
      · exact ih (Nat.zero_le _) hrest

/-! ### No word reaches into itself -/

namespace Word

/-- A number that begins with no word character begins with a point or a minus sign, and does not
hold that character again. -/
theorem not_mem_tail_of_isNumber {d : Char} {v : List Char} (h : IsNumber (d :: v))
    (hd : isWordChar d = false) : (d = '.' ∨ d = '-') ∧ d ∉ v := by
  obtain ⟨sign, digits, e, rest, hsign, hdigits, he, hrest, hw⟩ := h
  -- the characters behind the sign are word characters, but for the point
  have hword : ∀ x ∈ digits ++ e :: rest, x ≠ d := by
    rintro x hx rfl
    have hx' : isWordChar x = true := by
      rcases List.mem_append.mp hx with hx | hx
      · exact isWordChar_of_isDigit (hdigits x hx)
      · rcases List.mem_cons.mp hx with rfl | hx
        · exact isWordChar_of_isDigit he
        · exact hrest x hx
    rw [hd] at hx'
    cases hx'
  rcases hsign with rfl | rfl
  · cases digits with
    | nil =>
      obtain ⟨rfl, rfl⟩ := List.cons.inj hw
      exact ⟨.inl rfl, fun hmem => hword _ hmem rfl⟩
    | cons x digits =>
      obtain ⟨rfl, -⟩ := List.cons.inj hw
      exact absurd rfl (hword d (by simp))
  · obtain ⟨rfl, rfl⟩ := List.cons.inj hw
    refine ⟨.inr rfl, fun hmem => ?_⟩
    have hmem' : '-' ∈ digits ++ '.' :: e :: rest := hmem
    rw [List.mem_append, List.mem_cons] at hmem'
    rcases hmem' with hmem | hpoint | hmem
    · exact hword '-' (List.mem_append_left _ hmem) rfl
    · exact absurd hpoint (by decide)
    · exact hword '-' (List.mem_append_right _ hmem) rfl

/-- The end of a text that does not hold a character of it ends behind that character. -/
theorem suffix_of_not_mem {k a b : List Char} {c : Char} (h : k <:+ a ++ c :: b) (hc : c ∉ k) :
    k <:+ b := by
  rcases List.suffix_or_suffix_of_suffix h (List.suffix_append a (c :: b)) with hk | hk
  · rcases List.suffix_cons_iff.mp hk with rfl | hk
    · exact absurd List.mem_cons_self hc
    · exact hk
  · exact absurd (hk.subset List.mem_cons_self) hc

/-- In front of a run that begins with no word character stands no piece of it. -/
theorem eq_nil_of_suffix_of_run {a w b k : List Char} {d : Char} (hreach : Reaches a (d :: w ++ b))
    (hrun : ∀ c ∈ d :: w, isRunChar c = true) (hd : isWordChar d = false) (hk : k <:+ a)
    (hpiece : k <+: d :: w) : k = [] := by
  by_contra hne
  obtain ⟨k, rfl⟩ : ∃ k', k = d :: k' := by
    obtain ⟨x, k', rfl⟩ := List.exists_cons_of_ne_nil hne
    exact ⟨k', by rw [(List.cons_prefix_cons.mp hpiece).1]⟩
  rcases hreach.eq_nil_or with rfl | ⟨a', c, rfl, hnone⟩ | ⟨a', u, rfl, hhead⟩
  · exact hne (List.suffix_nil.mp hk)
  · -- a run character is never passed over
    obtain ⟨l, hl, -⟩ := (List.suffix_concat_iff.mp hk).resolve_left (List.cons_ne_nil d k)
    have hlast : c ∈ d :: k := by simp [hl]
    exact head?_cons_ne_none (hrun c (hpiece.subset hlast)) _ hnone
  · rcases number?_or_run_of_head? hhead with hnumber | ⟨-, hstop⟩
    · -- behind the point of a number stand word characters
      obtain ⟨⟨sign, digits, e, rest, -, -, he, hrest, rfl⟩, -⟩ := isNumber_of_number? hnumber
      have hpoint : '.' ∉ d :: k := by
        intro hmem
        have hbad := hrun '.' (hpiece.subset hmem)
        cases hbad
      rw [← List.append_assoc] at hk
      have hmem : d ∈ e :: rest := (suffix_of_not_mem hk hpoint).subset List.mem_cons_self
      have hword : isWordChar d = true := by
        rcases List.mem_cons.mp hmem with rfl | hmem
        · exact isWordChar_of_isDigit he
        · exact hrest d hmem
      rw [hd] at hword
      cases hword
    · have hbad := hstop d rfl
      rw [hrun d List.mem_cons_self] at hbad
      cases hbad

/-- **No occurrence of a word reaches into it.** -/
theorem length_le_of_prefix {a w b k : List Char} (hreach : Reaches a (w ++ b))
    (hhead : head? (w ++ b) = some (w, b)) (hk : k <:+ a) (hne : k ≠ [])
    (hfront : w <+: k ++ (w ++ b)) : w.length ≤ k.length := by
  by_contra hshort
  have hpiece : k <+: w :=
    List.prefix_of_prefix_length_le (List.prefix_append k _) hfront (by omega)
  obtain ⟨d, v, rfl⟩ := List.exists_cons_of_ne_nil (ne_nil_of_head? hhead)
  by_cases hword : isWordChar d = true
  · -- the last character of `k` stands in front of the word and in it
    obtain ⟨a, rfl⟩ := hk
    rw [← List.dropLast_concat_getLast hne, ← List.append_assoc] at hreach
    exact not_mem_of_reaches hreach hhead rfl hword (hpiece.subset (List.getLast_mem hne))
  · rw [Bool.not_eq_true] at hword
    rcases number?_or_run_of_head? hhead with hnumber | ⟨hrun, -⟩
    · -- behind `k` the word begins once more, and so does the number
      obtain ⟨l, hl⟩ := hpiece
      have hagain : l <+: d :: v ++ b := by
        rwa [← hl, List.prefix_append_right_inj, hl] at hfront
      cases l with
      | nil =>
        rw [List.append_nil] at hl
        exact hshort (by rw [hl])
      | cons x l =>
        obtain ⟨rfl, -⟩ := List.cons_prefix_cons.mp hagain
        obtain ⟨y, k, rfl⟩ := List.exists_cons_of_ne_nil hne
        obtain ⟨rfl, rfl⟩ := List.cons.inj hl
        exact (not_mem_tail_of_isNumber (isNumber_of_number? hnumber).1 hword).2 (by simp)
    · exact hne (eq_nil_of_suffix_of_run hreach hrun hword hk hpiece)

end Word

/-! ### What is met, and what is found -/

/-- A word character stands at the offset `n` of the text. -/
def WordCharAt (n : Nat) (t : List Char) : Prop :=
  ∃ a c b, t = a ++ c :: b ∧ byteLength a = n ∧ isWordChar c = true

theorem wordCharAt_of_takeWhile {t a b : List Char} (ht : t = a ++ b)
    (hne : b.takeWhile isWordChar ≠ []) : WordCharAt (byteLength a) t := by
  cases b with
  | nil => exact absurd rfl hne
  | cons c r =>
    refine ⟨a, c, r, ht, rfl, ?_⟩
    by_contra hc
    exact hne (List.takeWhile_cons_of_neg hc)

section

variable {query target : String} {s : Span} {w : Word}

/-- No word is followed directly by a word character. -/
theorem not_wordCharAt_stop (h : w ∈ words query) : ¬WordCharAt w.stop query.toList := by
  rintro ⟨a, c, b, hquery, hlength, hc⟩
  rw [isWordChar_eq_false_of_mem_words h hquery hlength.symm] at hc
  cases hc

/-- **Every word is met**: its start is among the occurrences of its text. -/
theorem start_mem_occurrencesFrom (h : w ∈ words query) :
    w.start ∈ occurrencesFrom w.text.toList 0 0 query.toList := by
  obtain ⟨a, b, hquery, hstart, -, hhead, hreach⟩ := exists_of_mem_words h
  rw [hstart, hquery, ← Nat.zero_add (byteLength a)]
  refine mem_occurrencesFrom (Word.ne_nil_of_head? hhead) (Nat.zero_le _) ?_
  intro k hk hne hfront
  exact Word.length_le_of_prefix hreach hhead hk hne hfront

/-- What the search finds: the first occurrence that is met at which the text is located. -/
theorem exists_of_firstWholeWord (h : firstWholeWord query target = some s) :
    s.stop = s.start + byteLength target.toList ∧
      s.start ∈ occurrencesFrom target.toList 0 0 query.toList ∧
      (∃ w, locate s.start query = some w ∧ w.text = target) ∧
      ∀ j ∈ occurrencesFrom target.toList 0 0 query.toList, j < s.start →
        ∀ w, locate j query = some w → w.text ≠ target := by
  unfold firstWholeWord at h
  split at h
  · cases h
  · obtain ⟨i, hi, rfl⟩ := Option.map_eq_some_iff.mp h
    obtain ⟨hlocated, as, bs, hsplit, hfirst⟩ := List.find?_eq_some_iff_append.mp hi
    refine ⟨rfl, List.mem_of_find?_eq_some hi, ?_, ?_⟩
    · simpa [Option.any_eq_true, locate] using hlocated
    · intro j hj hlt w hw htext
      have hlt' : j < i := hlt
      have hsorted := pairwise_occurrencesFrom target.toList 0 0 query.toList
      rw [hsplit] at hj hsorted
      rcases List.mem_append.mp hj with hj | hj
      · have hnot := hfirst j hj
        rw [← locate, hw] at hnot
        simp [htext] at hnot
      · -- what is met later stands further to the right
        rcases List.mem_cons.mp hj with rfl | hj
        · exact Nat.lt_irrefl _ hlt'
        · have hle := List.rel_of_pairwise_cons (List.pairwise_append.mp hsorted).2.1 hj
          omega

/-- A word that is located at its start is not passed over. -/
theorem exists_firstWholeWord (h : w ∈ words query) (hlocated : locate w.start query = some w) :
    ∃ s, firstWholeWord query w.text = some s ∧ s.start ≤ w.start := by
  have hne : w.text.isEmpty = false := by
    obtain ⟨a, b, -, -, -, hhead, -⟩ := exists_of_mem_words h
    have hnil := Word.ne_nil_of_head? hhead
    simpa using hnil
  have hsome : (firstWholeWord query w.text).isSome := by
    unfold firstWholeWord
    rw [hne]
    simp only [Bool.false_eq_true, if_false, Option.isSome_map, List.find?_isSome]
    refine ⟨w.start, start_mem_occurrencesFrom h, ?_⟩
    rw [← locate, hlocated]
    simp
  obtain ⟨s, hs⟩ := Option.isSome_iff_exists.mp hsome
  refine ⟨s, hs, ?_⟩
  obtain ⟨-, -, -, hfirst⟩ := exists_of_firstWholeWord hs
  by_contra hlate
  exact hfirst w.start (start_mem_occurrencesFrom h) (by omega) w hlocated rfl

/-- **What the search finds** is a word that is spelled like the target, or stands right behind
one. -/
theorem span_eq_or_stop_eq_of_firstWholeWord (h : firstWholeWord query target = some s) :
    ∃ w ∈ words query, w.text = target ∧ (w.span = s ∨ w.stop = s.start) := by
  obtain ⟨hstop, hmet, ⟨w, hw, rfl⟩, -⟩ := exists_of_firstWholeWord h
  obtain ⟨hmem, hle, hge, -⟩ := locate_eq_some_iff.mp hw
  have hlength : w.stop = w.start + byteLength w.text.toList := (cuts_of_mem_words hmem).stop_eq
  refine ⟨w, hmem, rfl, ?_⟩
  rcases Nat.eq_or_lt_of_le hle with heq | hlt
  · left
    rw [Word.span, hlength, heq, ← hstop]
  · -- the start of the word is met as well, and two occurrences that are met do not overlap
    right
    have hbehind := add_le_of_mem_occurrencesFrom (start_mem_occurrencesFrom hmem) hmet hlt
    omega

/-- What stands right behind a word begins with no word character. -/
theorem isWordChar_eq_false_of_cuts (hw : w ∈ words query) {t : List Char}
    (hcuts : s.Cuts t query.toList) (hstop : w.stop = s.start) {d : Char} (hd : d ∈ t.head?) :
    isWordChar d = false := by
  obtain ⟨a, b, hquery, hstart, -⟩ := hcuts
  obtain ⟨v, rfl⟩ := List.head?_eq_some_iff.mp hd
  have hsplit : query.toList = a ++ d :: (v ++ b) := by
    rw [hquery, List.append_assoc, List.cons_append]
  exact isWordChar_eq_false_of_mem_words hw hsplit (hstop.trans hstart)

/-- What the search finds is a word, if it begins with a word character. -/
theorem exists_mem_words_of_firstWholeWord (h : firstWholeWord query target = some s) {d : Char}
    (hd : d ∈ target.toList.head?) (hword : isWordChar d = true) :
    ∃ w ∈ words query, w.text = target ∧ w.span = s := by
  obtain ⟨w, hw, htext, hspan | hstop⟩ := span_eq_or_stop_eq_of_firstWholeWord h
  · exact ⟨w, hw, htext, hspan⟩
  · rw [isWordChar_eq_false_of_cuts hw (cuts_of_firstWholeWord h) hstop hd] at hword
    cases hword

/-- Where a word is followed by its own text once more, it is a number, and the text is the front of
another number there. -/
theorem exists_number_of_cuts (hw : w ∈ words query) (hcuts : s.Cuts w.text.toList query.toList)
    (hstop : w.stop = s.start) :
    ∃ a b, query.toList = a ++ w.text.toList ++ b ∧ byteLength a = s.start ∧
      Word.IsNumber w.text.toList ∧
      ⟨String.ofList (w.text.toList ++ b.takeWhile isWordChar), s.start,
        s.start + byteLength (w.text.toList ++ b.takeWhile isWordChar)⟩ ∈ words query := by
  obtain ⟨a, b, hquery, hstart, -⟩ := hcuts
  obtain ⟨a', b', hquery', -, hstop', hhead, hreach⟩ := exists_of_mem_words hw
  rw [← List.append_assoc, hquery, List.append_assoc] at hquery'
  obtain ⟨rfl, rfl⟩ := append_inj_of_byteLength hquery' (by rw [← hstart, ← hstop', hstop])
  refine ⟨_, b, hquery, hstart.symm, ?_⟩
  have hnumber : Word.IsNumber w.text.toList := by
    rcases Word.number?_or_run_of_head? hhead with hnumber | ⟨hrun, hend⟩
    · exact (Word.isNumber_of_number? hnumber).1
    · -- a run goes on as far as it can
      obtain ⟨d, v, hd⟩ := List.exists_cons_of_ne_nil (Word.ne_nil_of_head? hhead)
      have hbad := hend d (by rw [hd]; rfl)
      rw [hrun d (by rw [hd]; exact List.mem_cons_self)] at hbad
      cases hbad
  refine ⟨hnumber, ?_⟩
  rw [List.append_assoc] at hquery
  rw [hstart]
  exact mem_words_of_reaches hquery (hreach.word hhead) (Word.head?_append_of_isNumber hnumber b)

end

/-- **The search finds exactly the words**, for a text that begins with a word character: what it
finds is the first word that is spelled so, and it finds nothing exactly if no word is. -/
theorem firstWholeWord_eq_find? {query target : String} {d : Char}
    (hd : d ∈ target.toList.head?) (hword : isWordChar d = true) :
    firstWholeWord query target = ((words query).find? (·.text == target)).map Word.span ∧
      (firstWholeWord query target = none ↔ ∀ w ∈ words query, w.text ≠ target) := by
  have hfound : firstWholeWord query target
      = ((words query).find? (·.text == target)).map Word.span := by
    cases hfind : (words query).find? (·.text == target) with
    | none =>
      rw [Option.map_none, Option.eq_none_iff_forall_ne_some]
      intro s hs
      obtain ⟨w, hw, htext, -⟩ := exists_mem_words_of_firstWholeWord hs hd hword
      have hnot := List.find?_eq_none.mp hfind w hw
      simp [htext] at hnot
    | some w =>
      obtain rfl : w.text = target := by simpa using List.find?_some hfind
      have hw : w ∈ words query := List.mem_of_find?_eq_some hfind
      have hlt := start_lt_stop_of_mem_words hw
      -- this word is met and located, so what is found starts there or further to the left
      have hlocated : locate w.start query = some w :=
        locate_of_mem_words hw hd hword (Nat.le_refl _) hlt.le
      obtain ⟨s, hs, hle⟩ := exists_firstWholeWord hw hlocated
      obtain ⟨v, hv, htext, rfl⟩ := exists_mem_words_of_firstWholeWord hs hd hword
      rw [hs, Option.map_some]
      rcases eq_or_stop_le_of_find? hfind hv (by simp [htext]) with rfl | hbehind
      · rfl
      · have hstart : v.span.start = v.start := rfl
        omega
  refine ⟨hfound, ?_⟩
  rw [hfound]
  simp [List.find?_eq_none]

/-- The occurrence at the front overlaps another one, and neither is a word. -/
theorem firstWholeWord_behind_overlap :
    let query := "aaa aa"
    'a' ∈ "aa".toList.head? ∧ isWordChar 'a' = true ∧
      firstWholeWord query "aa" = some ⟨4, 6⟩ ∧ (⟨"aa", 4, 6⟩ : Word) ∈ words query := by
  intro query
  have hd : 'a' ∈ "aa".toList.head? := rfl
  have hword : isWordChar 'a' = true := by decide +kernel
  obtain ⟨hfound, -⟩ := @firstWholeWord_eq_find? query "aa" 'a' hd hword
  refine ⟨hd, hword, ?_, by decide +kernel⟩
  rw [hfound]
  decide +kernel

/-- **When what the search finds is a word.**

* It is one exactly if no word character follows it directly.
* So it always is if the target begins with neither a point nor a minus sign.
* In any case it is the front of a word. -/
theorem firstWholeWord_isWord_iff {query target : String} {s : Span}
    (h : firstWholeWord query target = some s) :
    ((∃ w ∈ words query, w.text = target ∧ w.span = s) ↔ ¬WordCharAt s.stop query.toList) ∧
      ((∀ d ∈ target.toList.head?, d ≠ '.' ∧ d ≠ '-') →
        ∃ w ∈ words query, w.text = target ∧ w.span = s) ∧
      ∃ v ∈ words query, v.start = s.start ∧ target.toList <+: v.text.toList := by
  obtain ⟨w, hw, rfl, hspan | hstop⟩ := span_eq_or_stop_eq_of_firstWholeWord h
  · have hfound : ∃ v ∈ words query, v.text = w.text ∧ v.span = s := ⟨w, hw, rfl, hspan⟩
    subst hspan
    exact ⟨iff_of_true hfound (not_wordCharAt_stop hw), fun _ => hfound, w, hw, rfl,
      List.prefix_refl _⟩
  · have hcuts := cuts_of_firstWholeWord h
    obtain ⟨a, b, hquery, hstart, hnumber, hv⟩ := exists_number_of_cuts hw hcuts hstop
    refine ⟨?_, ?_, _, hv, rfl, by simp⟩
    · by_cases hrest : b.takeWhile isWordChar = []
      · -- the number there is the target itself
        rw [hrest, List.append_nil, String.ofList_toList, ← hcuts.stop_eq] at hv
        exact iff_of_true ⟨_, hv, rfl, rfl⟩ (not_wordCharAt_stop hv)
      · -- the number there goes on
        have hend : byteLength (a ++ w.text.toList) = s.stop := by
          rw [byteLength_append, hstart, hcuts.stop_eq]
        have hnext : WordCharAt s.stop query.toList :=
          hend ▸ wordCharAt_of_takeWhile hquery hrest
        refine iff_of_false ?_ (not_not_intro hnext)
        rintro ⟨u, hu, -, rfl⟩
        exact not_wordCharAt_stop hu hnext
    · intro hhead
      obtain ⟨d, v, hd⟩ := List.exists_cons_of_ne_nil hnumber.ne_nil
      rw [hd] at hcuts hnumber hhead
      have hword : isWordChar d = false := isWordChar_eq_false_of_cuts hw hcuts hstop rfl
      rcases (Word.not_mem_tail_of_isNumber hnumber hword).1 with hpoint | hminus
      · exact absurd hpoint (hhead d rfl).1
      · exact absurd hminus (hhead d rfl).2

/-- The word that is located is the number in front, and what is found is a word all the same. -/
theorem firstWholeWord_isWord_of_two_numbers :
    let query := "a.5.5"
    firstWholeWord query ".5" = some ⟨3, 5⟩ ∧ locate 3 query = some ⟨".5", 1, 3⟩ ∧
      ¬WordCharAt 5 query.toList ∧ ∃ w ∈ words query, w.text = ".5" ∧ w.span = ⟨3, 5⟩ := by
  intro query
  have hfound : firstWholeWord query ".5" = some ⟨3, 5⟩ := by decide +kernel
  have hend : ¬WordCharAt 5 query.toList := by
    rintro ⟨a, c, b, hquery, hlength, -⟩
    have htotal := congrArg byteLength hquery
    have hpos := c.utf8Size_pos
    have hfive : byteLength query.toList = 5 := by decide
    rw [hfive, byteLength_append, byteLength_cons] at htotal
    omega
  exact ⟨hfound, by decide +kernel, hend, (firstWholeWord_isWord_iff hfound).1.mpr hend⟩

/-- A number that stands behind its own text is found at the front of a longer number. -/
theorem firstWholeWord_isWord_fails :
    firstWholeWord "a.5.55" ".5" = some ⟨3, 5⟩ ∧
      ¬∃ w ∈ words "a.5.55", w.text = ".5" ∧ w.span = ⟨3, 5⟩ := by
  decide +kernel

end SqlAnalysis
