import SqlAnalysis.Proofs.Text.Split
import SqlAnalysis.Sql.Blame

/-!
# The last place that a message mentions

A message ends in a place, but what stands in front may quote anything, also other places.  Places
are looked for from left to right and without overlaps, so a place in front could swallow the
beginning of the one at the end.  It does not: every mention begins with a letter that does not
occur in the rest of it.

## Main definitions

* `Mention.OfDigits` — there are digits for the line and for the column.

## Main results

* `mention?_eq_some_iff` — what stands at the front of a text when a place is found there.
* `getLast?_mentionsFrom` — **a mention at the end of a text is the last one that is found.**
* `lastLocation?_append_suffix` — the place at the end of a message is read back.
-/

namespace SqlAnalysis.Sql

open Text Unicode

/-! ### Digits -/

/-- None of the digits is the letter that a mention begins with. -/
theorem notMem_of_all_isDigit {ds : List Char} (h : ds.all isDigit) : 'a' ∉ ds := by
  intro hmem
  have hdigit := List.all_eq_true.mp h 'a' hmem
  revert hdigit
  decide +kernel

theorem all_isDigit_toDigits (n : Nat) : (Nat.toDigits 10 n).all isDigit := by
  rw [List.all_eq_true]
  intro c hc
  exact isDigit_of_isAsciiDigit (isAsciiDigit_of_mem_toDigits hc)

/-- A number that is written out is read back, as long as it fits into 64 bits. -/
theorem readNat?_toDigits (n : Nat) :
    lastLocation?.readNat? (Nat.toDigits 10 n) = if n < numberLimit then some n else none := by
  have hall : (Nat.toDigits 10 n).all isAsciiDigit = true :=
    List.all_eq_true.mpr fun _ => isAsciiDigit_of_mem_toDigits
  have hvalue := Nat.ofDigitChars_toDigits (b := 10) (n := n) (by decide) (by decide)
  rw [Nat.ofDigitChars_eq_foldl] at hvalue
  rw [lastLocation?.readNat?, if_pos hall, hvalue]
  simp [Option.filter]

/-! ### Mentions -/

theorem afterText?_eq_some_iff {p t r : List Char} : afterText? p t = some r ↔ t = p ++ r := by
  fun_induction afterText? p t with
  | case1 t => simp
  | case2 c p => simp
  | case3 p d t ih => simpa using ih
  | case4 c p d t hne => simp [Ne.symm hne]

/-- There are digits for the line and for the column. -/
structure Mention.OfDigits (m : Mention) : Prop where
  line : m.line.all isDigit
  line_ne_nil : m.line ≠ []
  column : m.column.all isDigit
  column_ne_nil : m.column ≠ []

theorem Mention.text_append (m : Mention) (r : List Char) :
    m.text ++ r = "at Line: ".toList ++ (m.line ++ (", Column: ".toList ++ (m.column ++ r))) := by
  unfold Mention.text
  -- rewriting would take the literal texts apart
  generalize "at Line: ".toList = p, ", Column: ".toList = q
  simp only [List.append_assoc]

/-- **What stands at the front of a text when a place is found there.** -/
theorem mention?_eq_some_iff {t : List Char} {m : Mention} :
    mention? t = some m ↔
      m.OfDigits ∧ ∃ r, t = m.text ++ r ∧ ∀ c ∈ r.head?, isDigit c = false := by
  simp only [mention?, Option.bind_eq_bind, Option.bind_eq_some_iff, afterText?_eq_some_iff]
  constructor
  · rintro ⟨u, hu, v, hv, h⟩
    split at h
    · cases h
    · rename_i hne
      obtain rfl := Option.some.inj h
      simp only [Bool.or_eq_true, List.isEmpty_iff, not_or] at hne
      refine ⟨⟨List.all_takeWhile, hne.1, List.all_takeWhile, hne.2⟩, v.dropWhile isDigit, ?_, ?_⟩
      · have hline : u = u.takeWhile isDigit ++ (", Column: ".toList ++ v) := by
          rw [← hv, List.takeWhile_append_dropWhile]
        have hcolumn : v = v.takeWhile isDigit ++ v.dropWhile isDigit :=
          List.takeWhile_append_dropWhile.symm
        rw [hcolumn] at hline
        refine hu.trans ((congrArg _ hline).trans ?_)
        exact (Mention.text_append ⟨u.takeWhile isDigit, v.takeWhile isDigit⟩ _).symm
      · exact fun c hc => eq_false_of_mem_head?_dropWhile hc
  · rintro ⟨hm, r, ht, hr⟩
    have hline := List.all_eq_true.mp hm.line
    have hcolumn := List.all_eq_true.mp hm.column
    have hcomma := forall_mem_head?_append (p := isDigit) (w := ", Column: ".toList) rfl
      (by decide +kernel) (m.column ++ r)
    refine ⟨m.line ++ (", Column: ".toList ++ (m.column ++ r)), ?_, m.column ++ r, ?_, ?_⟩
    · exact ht.trans (m.text_append r)
    · exact dropWhile_append_of_class hline hcomma
    · rw [takeWhile_append_of_class hline hcomma, takeWhile_append_of_class hcolumn hr]
      simp [hm.line_ne_nil, hm.column_ne_nil]

/-- A mention begins with a letter that does not occur in the rest of it. -/
theorem Mention.OfDigits.text_eq {m : Mention} (hm : m.OfDigits) :
    ∃ rest, m.text = 'a' :: rest ∧ 'a' ∉ rest := by
  refine ⟨"t Line: ".toList ++ (m.line ++ (", Column: ".toList ++ m.column)), rfl, ?_⟩
  simp only [List.mem_append, not_or]
  exact ⟨by decide, notMem_of_all_isDigit hm.line, by decide, notMem_of_all_isDigit hm.column⟩

/-- Nothing is mentioned by a text without that letter. -/
theorem mentionsFrom_eq_nil {t : List Char} (ht : 'a' ∉ t) (skip : Nat) :
    mentionsFrom skip t = [] := by
  fun_induction mentionsFrom skip t with
  | case1 => rfl
  | case2 skip c t ih => exact ih (List.not_mem_of_not_mem_cons ht)
  | case3 c t m hm =>
    obtain ⟨hdigits, r, htext, -⟩ := mention?_eq_some_iff.mp hm
    obtain ⟨rest, hrest, -⟩ := hdigits.text_eq
    rw [htext, hrest] at ht
    exact absurd List.mem_cons_self ht
  | case4 c t hnone ih => exact ih (List.not_mem_of_not_mem_cons ht)

/-- A mention that begins in front of another one ends there: none of its characters but the first
one is the letter that the other one begins with. -/
theorem Mention.OfDigits.length_le {m m' : Mention} (hm : m.OfDigits) (hm' : m'.OfDigits)
    {c : Char} {front r : List Char} (h : c :: (front ++ m.text) = m'.text ++ r) :
    m'.text.length ≤ (c :: front).length := by
  obtain ⟨rest, hrest, -⟩ := hm.text_eq
  obtain ⟨rest', hrest', hnotMem⟩ := hm'.text_eq
  rw [hrest, hrest'] at h
  rw [hrest']
  obtain ⟨-, h⟩ := List.cons.inj h
  rcases List.append_eq_append_iff.mp h with ⟨w, hw, hinside⟩ | ⟨w, hw, -⟩
  · cases w with
    | nil => simp [hw]
    | cons d w =>
      -- the other one would begin inside of this one
      obtain ⟨rfl, -⟩ := List.cons.inj hinside
      simp [hw] at hnotMem
  · simp [hw]

/-- **A mention at the end of a text is the last one that is found**, whatever stands in front, and
also when the end of an earlier one has to be passed over first. -/
theorem getLast?_mentionsFrom {m : Mention} (hm : m.OfDigits) (front : List Char) :
    ∀ skip ≤ front.length, (mentionsFrom skip (front ++ m.text)).getLast? = some m := by
  obtain ⟨rest, hrest, hnotMem⟩ := hm.text_eq
  induction front with
  | nil =>
    intro skip hskip
    obtain rfl : skip = 0 := Nat.le_zero.mp hskip
    have hfound : mention? ('a' :: rest) = some m :=
      mention?_eq_some_iff.mpr ⟨hm, [], by rw [hrest, List.append_nil], by simp⟩
    rw [List.nil_append, hrest, mentionsFrom, hfound]
    dsimp only
    rw [mentionsFrom_eq_nil hnotMem, List.getLast?_singleton]
  | cons c front ih =>
    intro skip hskip
    rw [List.cons_append]
    cases skip with
    | succ skip => exact ih skip (Nat.le_of_succ_le_succ hskip)
    | zero =>
      rw [mentionsFrom]
      cases hfound : mention? (c :: (front ++ m.text)) with
      | none => exact ih 0 (Nat.zero_le _)
      | some m' =>
        -- what is passed over behind this mention ends in front of the last one
        obtain ⟨hm', r, htext, -⟩ := mention?_eq_some_iff.mp hfound
        have hle := hm.length_le hm' htext
        rw [List.length_cons] at hle
        dsimp only
        rw [List.getLast?_cons, ih _ (by omega), Option.getD_some]

/-! ### The end of a message -/

/-- The end of a message is the mention of its place, behind a blank. -/
theorem toList_suffix (l : Location) :
    l.suffix.toList = ' ' :: Mention.text ⟨Nat.toDigits 10 l.line, Nat.toDigits 10 l.column⟩ := by
  have hblank : " at Line: ".toList = ' ' :: "at Line: ".toList := rfl
  unfold Location.suffix Mention.text
  generalize " at Line: " = s, "at Line: ".toList = p, ", Column: " = q at hblank ⊢
  simp only [String.toList_append, hblank, Nat.toString_eq_repr, Nat.toList_repr,
    List.append_assoc, List.cons_append]

/-- The place at the end of a message is read back, whatever the message says before, as long as
its numbers fit into 64 bits. -/
theorem lastLocation?_append_suffix (front : List Char) (l : Location) :
    lastLocation? (front ++ l.suffix.toList) =
      if l.line < numberLimit ∧ l.column < numberLimit then some l else none := by
  have hdigits : Mention.OfDigits ⟨Nat.toDigits 10 l.line, Nat.toDigits 10 l.column⟩ :=
    ⟨all_isDigit_toDigits _, Nat.toDigits_ne_nil, all_isDigit_toDigits _, Nat.toDigits_ne_nil⟩
  rw [toList_suffix, lastLocation?, List.append_cons,
    getLast?_mentionsFrom hdigits _ 0 (Nat.zero_le _)]
  by_cases hline : l.line < numberLimit
  · by_cases hcolumn : l.column < numberLimit
    · simp [readNat?_toDigits, hline, hcolumn]
    · simp [readNat?_toDigits, hline, hcolumn]
  · simp [readNat?_toDigits, hline]

end SqlAnalysis.Sql
