import SqlAnalysis.Proofs.Analysis.ListEntry
import SqlAnalysis.Proofs.Analysis.PlainInsertion
import SqlAnalysis.Proofs.Word.Local

/-!
# Entries of plain literals

Where a plain literal is found among the items of a list.  Items are names, unsigned integers and
texts between single quotes, and each of them is told from what follows it by its own characters.
So an entry that is written like the literal begins at no other item, unless a text holds a bracket
or a comma and reads like an entry inside.

## Main definitions

* `IsToken` — how names and values are written.
* `Passed` — an item of a list that no entry written like a literal begins at.

## Main results

* `PlainLiteral.eq_written_of_append` — a token that reads like a literal is the literal.
* `Entry.start_le` — entries further left have their literals further left.
* `closed_items` — **no entry begins at items that are passed.**
-/

namespace SqlAnalysis

open Text Unicode LiteralSearch

/-! ### How items are written -/

theorem isWordChar_eq_false_of_isQuote {c : Char} (h : IsQuote c) : isWordChar c = false := by
  rcases h with rfl | rfl <;> exact Word.isWordChar_eq_false_of_isSeparator rfl

/-- A word character is neither a bracket nor a comma. -/
theorem ne_opener_of_isWordChar {c : Char} (h : isWordChar c = true) : c ≠ '(' ∧ c ≠ ',' := by
  have hseparator := Word.isSeparator_eq_false_of_isWordChar h
  constructor
  · rintro rfl
    exact absurd hseparator (by decide)
  · rintro rfl
    exact absurd hseparator (by decide)

/-- Word characters, or a text between single quotes that holds no quotes. -/
def IsToken (t : List Char) : Prop :=
  (t ≠ [] ∧ ∀ c ∈ t, isWordChar c = true) ∨
    ∃ s, (∀ c ∈ s, ¬IsQuote c) ∧ t = '\'' :: (s ++ ['\''])

theorem IsPlainName.isToken {name : String} (h : IsPlainName name) : IsToken name.toList := by
  obtain ⟨c, hc, -⟩ := h.not_digits
  exact .inl ⟨List.ne_nil_of_mem hc, h.isWordChar⟩

/-- A token does not begin with a blank. -/
theorem IsToken.exists_cons {t : List Char} (h : IsToken t) :
    ∃ c r, t = c :: r ∧ isBlank c = false := by
  rcases h with ⟨hne, hword⟩ | ⟨s, -, rfl⟩
  · obtain ⟨c, r, rfl⟩ := List.exists_cons_of_ne_nil hne
    exact ⟨c, r, rfl, isBlank_eq_false_of_isWordChar (hword c List.mem_cons_self)⟩
  · exact ⟨_, _, rfl, by decide +kernel⟩

namespace PlainLiteral

variable (l : PlainLiteral) {w : List Char}

theorem isToken_written : IsToken l.written := by
  cases l with
  | number digits hne hdigits =>
    exact .inl ⟨hne, fun c hc => isWordChar_of_isAsciiDigit (List.all_eq_true.mp hdigits c hc)⟩
  | text content hplain => exact .inr ⟨content, fun c hc => (hplain c hc).1, rfl⟩

/-- A literal may be written as it is, a text also between other quotes. -/
theorem spells_iff : Spells l.valueType l.content w ↔
    match l with
    | number digits _ _ => w = digits
    | text content _ => ∃ p q, IsQuote p ∧ IsQuote q ∧ w = p :: (content ++ [q]) := by
  cases l with
  | number digits _ _ => exact Iff.rfl
  | text content _ =>
    unfold valueType Sql.textType
    dsimp only
    split <;> exact Iff.rfl

theorem spells_written : Spells l.valueType l.content l.written := by
  rw [spells_iff]
  cases l with
  | number => rfl
  | text => exact ⟨'\'', '\'', .inr rfl, .inr rfl, rfl⟩

theorem recognizable : Recognizable l.valueType l.content := by
  cases l with
  | number digits hne hdigits =>
    obtain ⟨c, r, rfl⟩ := List.exists_cons_of_ne_nil hne
    exact ⟨c, r, rfl, isBlank_eq_false_of_isWordChar
      (isWordChar_of_isAsciiDigit (List.all_eq_true.mp hdigits c List.mem_cons_self))⟩
  | text content _ =>
    unfold valueType Sql.textType
    dsimp only
    split <;> exact trivial

/-- A token that reads like a number up to a comma or bracket is the number. -/
theorem eq_of_append_number {digits y u t t' : List Char} {c d : Char} (hne : digits ≠ [])
    (hdigits : digits.all isAsciiDigit = true) (hu : ∀ x ∈ u, isBlank x = true)
    (hc : isWordChar c = false) (hy : IsToken y) (hd : isWordChar d = false)
    (h : y ++ d :: t' = digits ++ (u ++ c :: t)) : y = digits := by
  have hword : ∀ x ∈ digits, isWordChar x = true :=
    fun x hx => isWordChar_of_isAsciiDigit (List.all_eq_true.mp hdigits x hx)
  rcases hy with ⟨-, hyword⟩ | ⟨s, -, rfl⟩
  · obtain ⟨x, r, hx, hxword⟩ : ∃ x r, u ++ c :: t = x :: r ∧ isWordChar x = false := by
      cases u with
      | nil => exact ⟨c, t, rfl, hc⟩
      | cons x u =>
        exact ⟨x, u ++ c :: t, rfl, isWordChar_eq_false_of_isBlank (hu x List.mem_cons_self)⟩
    rw [hx] at h
    exact eq_of_append_cons hyword hd hword hxword h
  · -- a number does not begin with a quote
    obtain ⟨x, r, rfl⟩ := List.exists_cons_of_ne_nil hne
    have hquote := hword x List.mem_cons_self
    rw [← (List.cons.inj h).1, isWordChar_eq_false_of_isQuote (.inr rfl)] at hquote
    cases hquote

/-- A token that reads like a text between quotes of either kind is this text between single
quotes. -/
theorem eq_of_append_text {content y t t' : List Char} {p q d : Char}
    (hcontent : ∀ x ∈ content, ¬IsQuote x) (hp : IsQuote p) (hq : IsQuote q) (hy : IsToken y)
    (h : y ++ d :: t' = p :: (content ++ [q]) ++ t) : y = '\'' :: (content ++ ['\'']) := by
  rcases hy with ⟨hne, hyword⟩ | ⟨s, hs, rfl⟩
  · obtain ⟨x, r, rfl⟩ := List.exists_cons_of_ne_nil hne
    have hfirst := hyword x List.mem_cons_self
    rw [(List.cons.inj h).1, isWordChar_eq_false_of_isQuote hp] at hfirst
    cases hfirst
  · have hstop : ∀ x, IsQuote x → decide (¬IsQuote x) = false := by simp
    have hgo : ∀ w : List Char, (∀ x ∈ w, ¬IsQuote x) → ∀ x ∈ w, decide (¬IsQuote x) = true :=
      fun w hw x hx => decide_eq_true (hw x hx)
    have hrest : s ++ '\'' :: (d :: t') = content ++ q :: t := by
      simpa using (List.cons.inj h).2
    rw [eq_of_append_cons (hgo s hs) (hstop _ (.inr rfl)) (hgo content hcontent) (hstop q hq)
      hrest]

/-- A token that reads like the literal up to a comma or bracket is the literal. -/
theorem eq_written_of_append {l : PlainLiteral} {y u t t' : List Char} {c d : Char}
    (hw : Spells l.valueType l.content w) (hu : ∀ x ∈ u, isBlank x = true)
    (hc : c = ',' ∨ c = ')') (hy : IsToken y) (hd : d = ',' ∨ d = ')')
    (h : y ++ d :: t' = w ++ (u ++ c :: t)) : y = l.written := by
  have hends : ∀ x, x = ',' ∨ x = ')' → isWordChar x = false := by
    rintro x (rfl | rfl) <;> exact Word.isWordChar_eq_false_of_isSeparator rfl
  rw [l.spells_iff] at hw
  cases l with
  | number digits hne hdigits =>
    obtain rfl : w = digits := hw
    exact eq_of_append_number hne hdigits hu (hends c hc) hy (hends d hd) h
  | text content hplain =>
    obtain ⟨p, q, hp, hq, rfl⟩ := hw
    exact eq_of_append_text (fun x hx => (hplain x hx).1) hp hq hy h

end PlainLiteral

/-! ### Entries of a literal -/

namespace LiteralSearch

variable {l : PlainLiteral}

namespace Entry

variable {t : List Char}

/-- The bracket or comma decides where the literal stands. -/
theorem span_eq_of_front_eq {e e' : Entry l.valueType l.content t} (h : e.front = e'.front) :
    e.span = e'.span :=
  l.recognizable.span_eq_of_front_eq h

/-- An entry that begins further left has its literal further left. -/
theorem start_le {e e' : Entry l.valueType l.content t}
    (h : byteLength e.front ≤ byteLength e'.front) : e.span.start ≤ e'.span.start := by
  have htext := e.text_eq.symm.trans e'.text_eq
  rcases List.append_eq_append_iff.mp htext with ⟨k, hfront, hrest⟩ | ⟨k, hfront, -⟩
  · cases k with
    | nil =>
      have hsame : e.front = e'.front := by rw [hfront, List.append_nil]
      rw [span_eq_of_front_eq hsame]
    | cons o k =>
      -- no blanks reach over the bracket or comma of the other entry
      have hbehind := (List.cons.inj hrest).2
      have hgap : e.gap = k.takeWhile isBlank := by
        rw [← l.recognizable.takeWhile_isBlank e, hbehind]
        exact takeWhile_append_cons e'.isBlank_opener _ _
      have hk : byteLength k = byteLength e.gap + byteLength (k.dropWhile isBlank) := by
        rw [hgap, ← byteLength_append, List.takeWhile_append_dropWhile]
      simp only [span, hfront, (List.cons.inj hrest).1, byteLength_append, byteLength_cons, hk]
      omega
  · rw [hfront, byteLength_append] at h
    obtain rfl : k = [] := byteLength_eq_zero.mp (by omega)
    have hsame : e.front = e'.front := by rw [hfront, List.append_nil]
    rw [span_eq_of_front_eq hsame]

end Entry

/-! ### Items that are passed -/

/-- An item of a list at which no entry written like the literal `l` begins. -/
structure Passed (l : PlainLiteral) (y : List Char) : Prop where
  isToken : IsToken y
  ne_written : y ≠ l.written
  /-- The item holds neither a bracket nor a comma. -/
  ne_opener : ∀ c ∈ y, c ≠ '(' ∧ c ≠ ','

/-- **No entry begins at an item that is passed**, nor at the bracket or comma in front of it. -/
theorem closed_item {y : List Char} (hy : Passed l y) (o : Char) {z : List Char}
    (hz : ∀ c ∈ z, isBlank c = true) {d : Char} (hd : d = ',' ∨ d = ')') (t : List Char) :
    Closed l.valueType l.content (o :: (z ++ y)) (d :: t) := by
  have hinside : Closed l.valueType l.content (z ++ y) (d :: t) := by
    refine closed_of_forall_ne fun c hc => ?_
    rcases List.mem_append.mp hc with hc | hc
    · have hblank := hz c hc
      constructor <;> (rintro rfl; revert hblank; decide +kernel)
    · exact hy.ne_opener c hc
  refine closed_append (a := [o]) (fun e => ?_) hinside
  have htext : o :: (z ++ y ++ d :: t)
      = e.front ++ e.opener :: (e.gap ++ (e.spelling ++ (e.trail ++ e.closer :: e.rest))) :=
    e.text_eq
  cases hfront : e.front with
  | nil =>
    -- the literal of this entry would be the item
    rw [hfront] at htext
    have hbehind := (List.cons.inj htext).2
    obtain ⟨x, r, hx, hxblank⟩ := hy.isToken.exists_cons
    have hgap : e.gap = z := by
      rw [← l.recognizable.takeWhile_isBlank e, ← hbehind, hx, List.append_assoc, List.cons_append,
        takeWhile_append_cons hxblank, List.takeWhile_eq_self_iff.mpr hz]
    rw [hgap, List.append_assoc] at hbehind
    have hsame := PlainLiteral.eq_written_of_append e.spells e.isBlank_trail e.closes hy.isToken hd
      (List.append_cancel_left hbehind)
    exact absurd hsame hy.ne_written
  | cons x k =>
    rw [hfront] at htext
    rw [(List.cons.inj htext).1, byteLength_cons, byteLength_cons, byteLength_nil]
    omega

/-- No entry begins at items that are passed, nor at what stands in front of each of them. -/
theorem closed_items {ys : List (List Char)} {y : List Char}
    (hys : ∀ x ∈ ys ++ [y], Passed l x) (o : Char) {z : List Char}
    (hz : ∀ c ∈ z, isBlank c = true) {d : Char} (hd : d = ',' ∨ d = ')') (t : List Char) :
    Closed l.valueType l.content (o :: (z ++ (ys.flatMap (· ++ [',', ' ']) ++ y))) (d :: t) := by
  induction ys generalizing o z with
  | nil => exact closed_item (hys y (by simp)) o hz hd t
  | cons x ys ih =>
    have hsplit : o :: (z ++ ((x :: ys).flatMap (· ++ [',', ' ']) ++ y))
        = o :: (z ++ x) ++ ',' :: ([' '] ++ (ys.flatMap (· ++ [',', ' ']) ++ y)) := by simp
    rw [hsplit]
    refine closed_append (closed_item (hys x (by simp)) o hz (.inl rfl) _) ?_
    exact ih (fun x' hx' => hys x' (List.mem_cons_of_mem x hx')) ','
      (List.forall_mem_singleton.mpr (by decide +kernel))

/-- A plain name is passed: it is no literal. -/
theorem passed_of_isPlainName (l : PlainLiteral) {name : String} (h : IsPlainName name) :
    Passed l name.toList := by
  refine ⟨h.isToken, fun hname => ?_, fun c hc => ?_⟩
  · cases l with
    | number digits hne hdigits =>
      obtain ⟨c, hc, hnot⟩ := h.not_digits
      rw [hname] at hc
      rw [List.all_eq_true.mp hdigits c hc] at hnot
      cases hnot
    | text content _ =>
      have hquote := h.isWordChar '\'' (by rw [hname]; exact List.mem_cons_self)
      rw [isWordChar_eq_false_of_isQuote (.inr rfl)] at hquote
      cases hquote
  · exact ne_opener_of_isWordChar (h.isWordChar c hc)

end LiteralSearch

end SqlAnalysis
