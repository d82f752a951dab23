import Mathlib.Data.List.Basic
import SqlAnalysis.Proofs.Analysis.LiteralPattern

/-!
# Entries of bracketed lists

The literal of an inserted column is searched for as an entry of a bracketed list: a spelling of
it between a bracket or comma and a comma or bracket.  Whatever reads like such an entry counts,
also between quotes, and the position of the column in its own list does not.  So what is located
is the first entry behind the word `VALUES` that is written like the literal.

## Main definitions

* `Entry` — an entry of a text that is written like a literal.
* `Closed` — no entry begins in the front of a text.

## Main results

* `mem_entry` — the pattern of an entry matches exactly where an entry begins.
* `Recognizable.span_eq_of_front_eq` — the place of an entry decides where its literal stands.
* `finds_entry` — a search for entries finds the entries of the text.
* `locateLiteral_of_entries` — **the literal of an inserted column is located at the first entry
  written like it.**
-/

namespace SqlAnalysis

namespace LiteralSearch

open Text Unicode

/-! ### Entries -/

/-- An entry of a bracketed list in the text `t`, written like a literal. -/
structure Entry (type : ValueType) (value t : List Char) where
  /-- What stands in front of the entry. -/
  front : List Char
  /-- The bracket or comma that it begins with. -/
  opener : Char
  /-- The blanks in front of the literal. -/
  gap : List Char
  /-- The literal, as it is written. -/
  spelling : List Char
  /-- The blanks behind the literal. -/
  trail : List Char
  /-- The comma or bracket that it ends with. -/
  closer : Char
  /-- What stands behind the entry. -/
  rest : List Char
  /-- The parts make up the text. -/
  text_eq : t = front ++ opener :: (gap ++ (spelling ++ (trail ++ closer :: rest)))
  opens : opener = '(' ∨ opener = ','
  isBlank_gap : ∀ c ∈ gap, isBlank c = true
  spells : Spells type value spelling
  isBlank_trail : ∀ c ∈ trail, isBlank c = true
  closes : closer = ',' ∨ closer = ')'

namespace Entry

variable {type : ValueType} {value t : List Char}

/-- The span of the literal. -/
def span (e : Entry type value t) : Span :=
  ⟨byteLength (e.front ++ e.opener :: e.gap),
    byteLength (e.front ++ e.opener :: e.gap ++ e.spelling)⟩

/-- The entry behind a text that is put in front. -/
def behind (a : List Char) (e : Entry type value t) : Entry type value (a ++ t) :=
  { e with
    front := a ++ e.front
    text_eq := by rw [List.append_assoc, ← e.text_eq] }

theorem span_behind (a : List Char) (e : Entry type value t) :
    (e.behind a).span = e.span.shift (byteLength a) := by
  simp only [span, behind, Span.shift, byteLength_append, Span.mk.injEq]
  omega

/-- An entry that does not begin in the front of a text is one of the rest. -/
theorem exists_behind {a : List Char} (e : Entry type value (a ++ t))
    (h : byteLength a ≤ byteLength e.front) : ∃ e' : Entry type value t, e = e'.behind a := by
  obtain ⟨front, opener, gap, spelling, trail, closer, rest, htext, ho, hg, hs, ht, hc⟩ := e
  rcases List.append_eq_append_iff.mp htext with ⟨k, rfl, hrest⟩ | ⟨k, rfl, hrest⟩
  · exact ⟨⟨k, opener, gap, spelling, trail, closer, rest, hrest, ho, hg, hs, ht, hc⟩, rfl⟩
  · have hle : byteLength (front ++ k) ≤ byteLength front := h
    rw [byteLength_append] at hle
    obtain rfl : k = [] := byteLength_eq_zero.mp (by omega)
    refine ⟨⟨[], opener, gap, spelling, trail, closer, rest, ?_, ho, hg, hs, ht, hc⟩, ?_⟩
    · simpa using hrest.symm
    · simp [behind]

/-- The entries of a text that do not begin in its front `a` are those of the rest. -/
theorem exists_of_le_front_iff {a b : List Char} (ht : t = a ++ b) {n : Nat} {s : Span} :
    (∃ e : Entry type value t,
        byteLength a ≤ byteLength e.front ∧ byteLength e.front = n ∧ e.span = s) ↔
      ∃ e : Entry type value b,
        byteLength a + byteLength e.front = n ∧ e.span.shift (byteLength a) = s := by
  subst ht
  constructor
  · rintro ⟨e, hle, rfl, rfl⟩
    obtain ⟨e, rfl⟩ := e.exists_behind hle
    exact ⟨e, (byteLength_append a e.front).symm, (e.span_behind a).symm⟩
  · rintro ⟨e, rfl, rfl⟩
    have hfront : byteLength (e.behind a).front = byteLength a + byteLength e.front :=
      byteLength_append a e.front
    exact ⟨e.behind a, by omega, hfront, e.span_behind a⟩

theorem isBlank_opener (e : Entry type value t) : isBlank e.opener = false := by
  rcases e.opens with h | h <;> rw [h] <;> decide +kernel

end Entry

namespace Recognizable

variable {type : ValueType} {value t : List Char}

/-- The literal of an entry begins behind all blanks that follow the bracket or comma. -/
theorem takeWhile_isBlank (hvalue : Recognizable type value) (e : Entry type value t) :
    (e.gap ++ (e.spelling ++ (e.trail ++ e.closer :: e.rest))).takeWhile isBlank = e.gap := by
  obtain ⟨c, r, hspelling, hc⟩ := hvalue.exists_cons_of_spells e.spells
  rw [hspelling, List.cons_append, takeWhile_append_cons hc,
    List.takeWhile_eq_self_iff.mpr e.isBlank_gap]

/-- The bracket or comma of an entry decides where the literal stands. -/
theorem span_eq_of_front_eq (hvalue : Recognizable type value) {e e' : Entry type value t}
    (h : e.front = e'.front) : e.span = e'.span := by
  have htext := e.text_eq.symm.trans e'.text_eq
  rw [h] at htext
  obtain ⟨hopener, hrest⟩ := List.cons.inj (List.append_cancel_left htext)
  have hgap : e.gap = e'.gap := by
    rw [← hvalue.takeWhile_isBlank e, hrest, hvalue.takeWhile_isBlank e']
  rw [hgap] at hrest
  have hspelling := eq_of_spells_append e.spells e'.spells (List.append_cancel_left hrest)
  simp [Entry.span, h, hopener, hgap, hspelling]

end Recognizable

variable {type : ValueType} {value : List Char}

/-- **The pattern of an entry matches exactly where an entry begins.** -/
theorem mem_entry {start next : Cursor} {v : List Char} {s : Span} (hreads : start.Reads v next) :
    s ∈ entry (literalPattern type value) next ↔
      ∃ e : Entry type value start.rest, e.front = v ∧ s = e.span.shift start.offset := by
  rw [entry, mem_between]
  constructor
  · -- what the parts of the pattern have read are the parts of the entry
    rintro ⟨first, hfirst, w, stop, hw, hspelling, hback, rfl⟩
    obtain ⟨mid, hmid, hgap⟩ := mem_andThen.mp hfirst
    obtain ⟨o, ho, hopener⟩ := mem_oneChar.mp hmid
    obtain ⟨g, hg, hblanks⟩ := mem_blanks.mp hgap
    obtain ⟨last, hlast⟩ := List.exists_mem_of_ne_nil _ hback
    obtain ⟨mid', hmid', hclose⟩ := mem_andThen.mp hlast
    obtain ⟨u, hu, htrail⟩ := mem_blanks.mp hmid'
    obtain ⟨c, hc, hcloser⟩ := mem_oneChar.mp hclose
    have htext : start.rest = v ++ o :: (g ++ (w ++ (u ++ c :: last.rest))) := by
      rw [hreads.rest, hopener.rest, hblanks.rest, hspelling.rest, htrail.rest, hcloser.rest]
      rfl
    refine ⟨⟨v, o, g, w, u, c, last.rest, htext, by simpa using ho, hg, hw, hu,
      by simpa using hc⟩, rfl, ?_⟩
    rw [hspelling.offset, hblanks.offset, hopener.offset, hreads.offset]
    simp only [Entry.span, Span.shift, byteLength_append, byteLength_cons, byteLength_nil,
      Span.mk.injEq]
    omega
  · -- the parts of the entry can be read one after the other
    rintro ⟨e, rfl, rfl⟩
    have htext := List.append_cancel_left (hreads.rest.symm.trans e.text_eq)
    obtain ⟨mid, hopener, hmid⟩ := Cursor.exists_reads (w := [e.opener]) htext
    obtain ⟨first, hblanks, hfirst⟩ := Cursor.exists_reads hmid
    obtain ⟨stop, hspelling, hstop⟩ := Cursor.exists_reads hfirst
    obtain ⟨mid', htrail, hmid'⟩ := Cursor.exists_reads hstop
    obtain ⟨last, hcloser, -⟩ := Cursor.exists_reads (w := [e.closer]) hmid'
    have hback : last ∈ andThen blanks (oneChar fun c => c = ',' || c = ')') stop :=
      mem_andThen.mpr ⟨mid', mem_blanks.mpr ⟨e.trail, e.isBlank_trail, htrail⟩,
        mem_oneChar.mpr ⟨e.closer, by simpa using e.closes, hcloser⟩⟩
    refine ⟨first, mem_andThen.mpr ⟨mid, mem_oneChar.mpr ⟨e.opener, by simpa using e.opens,
      hopener⟩, mem_blanks.mpr ⟨e.gap, e.isBlank_gap, hblanks⟩⟩, e.spelling, stop, e.spells,
      hspelling, List.ne_nil_of_mem hback, ?_⟩
    rw [hspelling.offset, hblanks.offset, hopener.offset, hreads.offset]
    simp only [Entry.span, Span.shift, byteLength_append, byteLength_cons, byteLength_nil,
      Span.mk.injEq]
    omega

/-- **A search for entries finds the entries of the text.** -/
theorem finds_entry (start : Cursor) : Finds (entry (literalPattern type value)) start
    fun w s => ∃ e : Entry type value start.rest, e.front = w ∧ s = e.span.shift start.offset where
  mem_iff := fun _ _ _ hreads => mem_entry hreads
  reads := by
    rintro w s ⟨e, rfl, -⟩
    exact ⟨_, e.text_eq.symm⟩

/-- A search for entries finds the first one. -/
theorem exists_first_of_leftmostFrom {t : List Char} {before : Option Char} {offset : Nat}
    {s : Span} (h : leftmostFrom (entry (literalPattern type value)) before offset t = some s) :
    ∃ e : Entry type value t, s = e.span.shift offset ∧
      ∀ e' : Entry type value t, byteLength e.front ≤ byteLength e'.front := by
  obtain ⟨w, ⟨e, rfl, rfl⟩, hfirst⟩ := (finds_entry ⟨before, offset, t⟩).exists_first h
  exact ⟨e, rfl, fun e' => hfirst e'.front _ ⟨e', rfl, rfl⟩⟩

/-- A search for entries succeeds if there is one. -/
theorem isSome_leftmostFrom_of_entry {t : List Char} (e : Entry type value t)
    (before : Option Char) (offset : Nat) :
    (leftmostFrom (entry (literalPattern type value)) before offset t).isSome :=
  (finds_entry ⟨before, offset, t⟩).isSome ⟨e, rfl, rfl⟩

/-! ### Texts without entries -/

/-- No entry of the text that consists of `a` and `t` begins in `a`. -/
def Closed (type : ValueType) (value a t : List Char) : Prop :=
  ∀ e : Entry type value (a ++ t), byteLength a ≤ byteLength e.front

theorem Closed.le_front {a t text : List Char} (h : Closed type value a t)
    (htext : text = a ++ t) (e : Entry type value text) : byteLength a ≤ byteLength e.front := by
  subst htext
  exact h e

theorem closed_append {a b t : List Char} (ha : Closed type value a (b ++ t))
    (hb : Closed type value b t) : Closed type value (a ++ b) t := by
  unfold Closed at *
  rw [List.append_assoc]
  intro e
  obtain ⟨e', rfl⟩ := e.exists_behind (ha e)
  simpa [Entry.behind] using hb e'

/-- Where neither a bracket nor a comma stands, no entry begins. -/
theorem closed_of_forall_ne {a t : List Char} (ha : ∀ c ∈ a, c ≠ '(' ∧ c ≠ ',') :
    Closed type value a t := by
  intro e
  rcases List.append_eq_append_iff.mp e.text_eq with ⟨k, hfront, -⟩ | ⟨k, hfront, hrest⟩
  · simp [hfront]
  · cases k with
    | nil => simp [hfront]
    | cons c k =>
      have hopener := ha e.opener (by simp [hfront, (List.cons.inj hrest).1])
      rcases e.opens with h | h
      · exact absurd h hopener.1
      · exact absurd h hopener.2

end LiteralSearch

open Text Unicode LiteralSearch

/-! ### Locating an inserted literal -/

/-- The literal of an inserted column is searched for behind the first word `VALUES`. -/
theorem exists_locateLiteral_eq_leftmostFrom (received : ValueType) {text value : String}
    {column : ColumnUse} (hcontext : column.context = .list) (hvalue : column.value = some value)
    {v : Word}
    (hv : (words text).find? (fun w => eqIgnoreAsciiCase w.text.toList "VALUES".toList) = some v) :
    ∃ a b, text.toList = a ++ b ∧ v.stop = byteLength a ∧
      locateLiteral text column received =
        leftmostFrom (entry (literalPattern received value.toList)) none v.stop b := by
  obtain ⟨a, b, htext, -, hstop⟩ := cuts_of_mem_words (List.mem_of_find?_eq_some hv)
  refine ⟨a ++ v.text.toList, b, htext, hstop, ?_⟩
  have hfound : firstWholeWordIgnoreCase text "VALUES" = some v.span := by
    rw [firstWholeWordIgnoreCase, hv]
    rfl
  have hdrop : dropBytes? v.span.stop text.toList = some b :=
    dropBytes?_eq_some_iff.mpr ⟨_, htext, hstop.symm⟩
  simp only [locateLiteral, hcontext, hvalue, Option.bind_eq_bind, Option.bind_some, hfound, hdrop]
  rfl

/-- **The literal of an inserted column is located at the first entry written like it**, if there
is one and all of them stand behind a word `VALUES`. -/
theorem locateLiteral_of_entries {t value : List Char} {received : ValueType} {column : ColumnUse}
    (hcontext : column.context = .list) (hvalue : column.value = some (String.ofList value))
    {w : Word} (hw : w ∈ words (String.ofList t))
    (hvalues : eqIgnoreAsciiCase w.text.toList "VALUES".toList = true)
    (hbehind : ∀ e : Entry received value t, w.stop ≤ byteLength e.front)
    (e₀ : Entry received value t) :
    ∃ e : Entry received value t,
      locateLiteral (String.ofList t) column received = some e.span ∧
        ∀ e' : Entry received value t, byteLength e.front ≤ byteLength e'.front := by
  obtain ⟨v, hv⟩ := Option.isSome_iff_exists.mp (List.find?_isSome.mpr ⟨w, hw, hvalues⟩ :
    ((words (String.ofList t)).find?
      fun w => eqIgnoreAsciiCase w.text.toList "VALUES".toList).isSome)
  -- the first word `VALUES` is this one or stands in front of it
  have hle : v.stop ≤ w.stop := by
    rcases eq_or_stop_le_of_find? hv hw hvalues with rfl | hstart
    · exact Nat.le_refl _
    · exact Nat.le_trans hstart (cuts_of_mem_words hw).start_le_stop
  obtain ⟨a, b, htext, hstop, hlocate⟩ :=
    exists_locateLiteral_eq_leftmostFrom received hcontext hvalue hv
  rw [String.toList_ofList] at htext hlocate
  rw [hlocate]
  -- every entry of the text is one of what stands behind the word
  subst htext
  have hrest : ∀ e : Entry received value (a ++ b),
      ∃ e' : Entry received value b, e = e'.behind a :=
    fun e => e.exists_behind (by rw [← hstop]; exact Nat.le_trans hle (hbehind e))
  obtain ⟨e₁, -⟩ := hrest e₀
  obtain ⟨s, hs⟩ := Option.isSome_iff_exists.mp (isSome_leftmostFrom_of_entry e₁ none v.stop)
  obtain ⟨e, rfl, hfirst⟩ := exists_first_of_leftmostFrom hs
  refine ⟨e.behind a, ?_, fun e' => ?_⟩
  · rw [hs, e.span_behind, ← hstop]
  · obtain ⟨e'', rfl⟩ := hrest e'
    have hle' := hfirst e''
    simp only [Entry.behind, byteLength_append]
    omega

end SqlAnalysis
