import SqlAnalysis.Proofs.Analysis.LiteralPattern
import SqlAnalysis.Proofs.Word.Local
import SqlAnalysis.Sql.Outline

/-!
# Literals that are compared with

The literal that a column is compared with is searched for behind the name of the column and the
operator.  The parts of such a comparison are told from each other by their own characters, so a
comparison is known from the place where its name begins.

## Main definitions

* `Compared` — a comparison of a name with a literal in a text.

## Main results

* `mem_comparison` — the pattern of a comparison matches exactly where a comparison begins.
* `finds_comparison` — a search for comparisons finds the comparisons of the text.
* `Compared.span_eq_of_front_eq` — **the place where the name begins decides where the literal
  stands.**
-/

namespace SqlAnalysis

namespace LiteralSearch

open Text Unicode

/-- A comparison of the name `name` with a literal in the text `t`. -/
structure Compared (name operator : List Char) (type : ValueType) (value t : List Char) where
  /-- What stands in front of the name. -/
  front : List Char
  /-- The closing quote of the name, if there is one. -/
  quote : List Char
  /-- The blanks in front of the operator. -/
  gap : List Char
  /-- The operator, as it is written. -/
  written : List Char
  /-- The blanks behind the operator. -/
  pad : List Char
  /-- The literal, as it is written. -/
  spelling : List Char
  /-- What stands behind the literal. -/
  rest : List Char
  /-- The parts make up the text. -/
  text_eq : t = front ++ (name ++ (quote ++ (gap ++ (written ++ (pad ++ (spelling ++ rest))))))
  /-- The name does not go on to the left. -/
  begins : ∀ c ∈ front.getLast?, isWordChar c = false
  closes : quote = [] ∨ quote = ['`'] ∨ quote = ['"']
  isBlank_gap : ∀ c ∈ gap, isBlank c = true
  writes : written = operator ∨ operator = ['<', '>'] ∧ written = ['!', '=']
  isBlank_pad : ∀ c ∈ pad, isBlank c = true
  spells : Spells type value spelling
  /-- The literal does not go on to the right. -/
  ends : ∀ c ∈ rest.head?, isWordChar c = false ∧ c ≠ '.'

variable {name operator : List Char} {type : ValueType} {value t : List Char}

namespace Compared

/-- What stands in front of the literal. -/
def lead (c : Compared name operator type value t) : List Char :=
  c.front ++ (name ++ (c.quote ++ (c.gap ++ (c.written ++ c.pad))))

/-- The span of the literal. -/
def span (c : Compared name operator type value t) : Span :=
  ⟨byteLength c.lead, byteLength (c.lead ++ c.spelling)⟩

end Compared

/-! ### The pattern of a comparison -/

/-- A literal may end at the end of the text, or where a character cannot go on with it. -/
theorem literalEnd_ne_nil_iff {cur : Cursor} :
    literalEnd cur ≠ [] ↔ ∀ c ∈ cur.rest.head?, isWordChar c = false ∧ c ≠ '.' := by
  unfold literalEnd
  cases cur.rest with
  | nil => simp
  | cons c r => simp

/-- A word character at a place makes it a boundary exactly if there is none before it. -/
theorem mem_wordBoundary_of_isWordChar {cur next : Cursor} {c : Char} {r : List Char}
    (hrest : cur.rest = c :: r) (hc : isWordChar c = true) :
    next ∈ wordBoundary cur ↔ next = cur ∧ ∀ d ∈ cur.before, isWordChar d = false := by
  rw [mem_wordBoundary, hrest]
  cases cur.before with
  | none => simp [hc]
  | some d => simp [hc]

/-- The closing quote of a name. -/
theorem mem_nameQuote {cur next : Cursor} :
    next ∈ optionally (oneChar fun c => c = '`' || c = '"') cur ↔
      ∃ quote, (quote = [] ∨ quote = ['`'] ∨ quote = ['"']) ∧ cur.Reads quote next := by
  rw [mem_optionally, mem_oneChar]
  constructor
  · rintro (⟨c, hc, hreads⟩ | rfl)
    · exact ⟨[c], by simpa using hc, hreads⟩
    · exact ⟨[], .inl rfl, Cursor.reads_nil.mpr rfl⟩
  · rintro ⟨quote, rfl | rfl | rfl, hreads⟩
    · exact .inr (Cursor.reads_nil.mp hreads)
    · exact .inl ⟨'`', rfl, hreads⟩
    · exact .inl ⟨'"', rfl, hreads⟩

/-- An operator may be written in one or two ways. -/
theorem mem_operatorPattern_iff {cur next : Cursor} :
    next ∈ operatorPattern operator cur ↔
      ∃ written, (written = operator ∨ operator = ['<', '>'] ∧ written = ['!', '=']) ∧
        cur.Reads written next := by
  rw [mem_operatorPattern]
  constructor
  · rintro (hreads | ⟨hoperator, hreads⟩)
    · exact ⟨operator, .inl rfl, hreads⟩
    · exact ⟨['!', '='], .inr ⟨hoperator, rfl⟩, hreads⟩
  · rintro ⟨written, rfl | ⟨hoperator, rfl⟩, hreads⟩
    · exact .inl hreads
    · exact .inr ⟨hoperator, hreads⟩

/-- What a comparison reads in front of its literal. -/
theorem mem_lead {cur next : Cursor} {c : Char} {r : List Char} (hname : name = c :: r)
    (hc : isWordChar c = true) :
    next ∈ (andThen wordBoundary <| andThen (exactly name) <|
      andThen (optionally (oneChar fun c => c = '`' || c = '"')) <|
        andThen blanks <| andThen (operatorPattern operator) blanks) cur ↔
      (∀ d ∈ cur.before, isWordChar d = false) ∧
        ∃ quote gap written pad, (quote = [] ∨ quote = ['`'] ∨ quote = ['"']) ∧
          (∀ d ∈ gap, isBlank d = true) ∧
            (written = operator ∨ operator = ['<', '>'] ∧ written = ['!', '=']) ∧
              (∀ d ∈ pad, isBlank d = true) ∧
                cur.Reads (name ++ (quote ++ (gap ++ (written ++ pad)))) next := by
  have hboundary : ∀ mid m, mid.Reads name m → (mid ∈ wordBoundary cur ↔
      mid = cur ∧ ∀ d ∈ cur.before, isWordChar d = false) := by
    intro mid m hreads
    have hrest : mid.rest = c :: (r ++ m.rest) := by
      rw [hreads.rest, hname, List.cons_append]
    constructor
    · intro h
      obtain rfl := (mem_wordBoundary.mp h).1
      exact (mem_wordBoundary_of_isWordChar hrest hc).mp h
    · rintro ⟨rfl, hbefore⟩
      exact (mem_wordBoundary_of_isWordChar hrest hc).mpr ⟨rfl, hbefore⟩
  simp only [mem_andThen, mem_exactly, mem_nameQuote, mem_blanks, mem_operatorPattern_iff,
    Cursor.reads_append]
  constructor
  · rintro ⟨m, hm, m₁, hread, m₂, ⟨quote, hquote, h₂⟩, m₃, ⟨gap, hgap, h₃⟩, m₄,
      ⟨written, hwritten, h₄⟩, pad, hpad, hnext⟩
    obtain ⟨rfl, hbefore⟩ := (hboundary m m₁ hread).mp hm
    exact ⟨hbefore, quote, gap, written, pad, hquote, hgap, hwritten, hpad, m₁, hread, m₂, h₂, m₃,
      h₃, m₄, h₄, hnext⟩
  · rintro ⟨hbefore, quote, gap, written, pad, hquote, hgap, hwritten, hpad, m₁, hread, m₂, h₂, m₃,
      h₃, m₄, h₄, hnext⟩
    exact ⟨cur, (hboundary cur m₁ hread).mpr ⟨rfl, hbefore⟩, m₁, hread, m₂, ⟨quote, hquote, h₂⟩,
      m₃, ⟨gap, hgap, h₃⟩, m₄, ⟨written, hwritten, h₄⟩, pad, hpad, hnext⟩

/-- **The pattern of a comparison matches exactly where a comparison begins**, if the name begins
with a word character. -/
theorem mem_comparison {next : Cursor} {v : List Char} {s : Span} {c : Char} {r : List Char}
    (hname : name = c :: r) (hc : isWordChar c = true)
    (hreads : Cursor.Reads ⟨none, 0, t⟩ v next) :
    s ∈ comparison name operator (literalPattern type value) next ↔
      ∃ e : Compared name operator type value t, e.front = v ∧ s = e.span := by
  have hbefore : next.before = v.getLast? := by
    rw [hreads.before]
    exact Option.or_none
  have hoffset : next.offset = byteLength v := by
    rw [hreads.offset]
    exact Nat.zero_add _
  simp only [comparison, mem_between, mem_lead hname hc, literalEnd_ne_nil_iff]
  constructor
  · -- what the parts of the pattern have read are the parts of the comparison
    rintro ⟨first, ⟨hbegins, quote, gap, written, pad, hquote, hgap, hwritten, hpad, hlead⟩, w,
      stop, hw, hspelling, hends, rfl⟩
    have htext : t = v ++ (name ++ (quote ++ (gap ++ (written ++ (pad ++ (w ++ stop.rest)))))) := by
      have hrest : t = v ++ next.rest := hreads.rest
      rw [hrest, hlead.rest, hspelling.rest]
      simp only [List.append_assoc]
    refine ⟨⟨v, quote, gap, written, pad, w, stop.rest, htext, hbefore ▸ hbegins, hquote, hgap,
      hwritten, hpad, hw, hends⟩, rfl, ?_⟩
    rw [hspelling.offset, hlead.offset, hoffset]
    simp only [Compared.span, Compared.lead, byteLength_append]
  · -- the parts of the comparison can be read one after the other
    rintro ⟨e, rfl, rfl⟩
    have htext : next.rest = name ++ (e.quote ++ (e.gap ++ (e.written ++ e.pad))) ++
        (e.spelling ++ e.rest) := by
      have hrest := List.append_cancel_left (hreads.rest.symm.trans e.text_eq)
      simp only [hrest, List.append_assoc]
    obtain ⟨first, hlead, hfirst⟩ := Cursor.exists_reads htext
    obtain ⟨stop, hspelling, hstop⟩ := Cursor.exists_reads hfirst
    refine ⟨first, ⟨hbefore ▸ e.begins, e.quote, e.gap, e.written, e.pad, e.closes, e.isBlank_gap,
      e.writes, e.isBlank_pad, hlead⟩, e.spelling, stop, e.spells, hspelling, hstop ▸ e.ends, ?_⟩
    rw [hspelling.offset, hlead.offset, hoffset]
    simp only [Compared.span, Compared.lead, byteLength_append]

/-- A search for comparisons finds the comparisons of the text. -/
theorem finds_comparison {c : Char} {r : List Char} (hname : name = c :: r)
    (hc : isWordChar c = true) :
    Finds (comparison name operator (literalPattern type value)) ⟨none, 0, t⟩
      fun w s => ∃ e : Compared name operator type value t, e.front = w ∧ s = e.span where
  mem_iff := fun _ _ _ hreads => mem_comparison hname hc hreads
  reads := by
    rintro w s ⟨e, rfl, -⟩
    exact ⟨_, e.text_eq.symm⟩

/-! ### The place of a comparison -/

namespace Compared

variable {o : Sql.Comparison}

/-- An operator does not begin with a blank or a quote. -/
theorem exists_cons_of_written (e : Compared name o.symbol.toList type value t) :
    ∃ c r, e.written = c :: r ∧ isBlank c = false ∧ (c = '`' || c = '"') = false := by
  rcases e.writes with hwritten | ⟨-, hwritten⟩
  · rw [hwritten]
    cases o <;> exact ⟨_, _, rfl, by decide +kernel, by decide⟩
  · exact ⟨_, _, hwritten, by decide +kernel, by decide⟩

/-- Neither does what stands between the name and the operator. -/
theorem head?_gap_append (e : Compared name o.symbol.toList type value t) (u : List Char) :
    ∀ c ∈ (e.gap ++ (e.written ++ u)).head?, (c = '`' || c = '"') = false := by
  cases hgap : e.gap with
  | nil =>
    obtain ⟨d, r, hwritten, -, hd⟩ := e.exists_cons_of_written
    exact forall_mem_head?_append (p := fun c => c = '`' || c = '"') hwritten hd u
  | cons d g =>
    have hblank := e.isBlank_gap d (hgap ▸ List.mem_cons_self)
    refine forall_mem_head?_append (p := fun c => c = '`' || c = '"') rfl ?_ _
    rw [Bool.or_eq_false_iff, decide_eq_false_iff_not, decide_eq_false_iff_not]
    constructor
    · rintro rfl
      revert hblank
      decide +kernel
    · rintro rfl
      revert hblank
      decide +kernel

/-- Both ways to write an operator are told from each other. -/
theorem written_eq_of_append {e e' : Compared name operator type value t} {u u' : List Char}
    (h : e.written ++ u = e'.written ++ u') : e.written = e'.written := by
  rcases e.writes with hw | ⟨ho, hw⟩
  · rcases e'.writes with hw' | ⟨ho', hw'⟩
    · rw [hw, hw']
    · rw [hw, hw', ho'] at h
      cases (List.cons.inj h).1
  · rcases e'.writes with hw' | ⟨ho', hw'⟩
    · rw [hw, hw', ho] at h
      cases (List.cons.inj h).1
    · rw [hw, hw']

/-- **The place where the name begins decides where the literal stands.** -/
theorem span_eq_of_front_eq (hvalue : Recognizable type value)
    {e e' : Compared name o.symbol.toList type value t} (h : e.front = e'.front) :
    e.span = e'.span := by
  have htext := e.text_eq.symm.trans e'.text_eq
  rw [h] at htext
  have hname := List.append_cancel_left (List.append_cancel_left htext)
  -- part by part: each ends where something else begins
  have hquotes : ∀ q : List Char, q = [] ∨ q = ['`'] ∨ q = ['"'] →
      ∀ c ∈ q, (c = '`' || c = '"') = true := by
    rintro q (rfl | rfl | rfl) <;> simp
  obtain ⟨hquote, hgap⟩ := append_inj_of_class (hquotes _ e.closes) (e.head?_gap_append _)
    (hquotes _ e'.closes) (e'.head?_gap_append _) hname
  have hwritten : ∀ (d : Compared name o.symbol.toList type value t) (u : List Char),
      ∀ c ∈ (d.written ++ u).head?, isBlank c = false := by
    intro d u
    obtain ⟨x, r, hx, hblank, -⟩ := d.exists_cons_of_written
    exact forall_mem_head?_append hx hblank u
  obtain ⟨hgap, hoperator⟩ := append_inj_of_class e.isBlank_gap (hwritten e _) e'.isBlank_gap
    (hwritten e' _) hgap
  have hsame := written_eq_of_append hoperator
  rw [hsame] at hoperator
  have hspells : ∀ w u : List Char, Spells type value w →
      ∀ c ∈ (w ++ u).head?, isBlank c = false := by
    intro w u hw
    obtain ⟨x, r, hx, hblank⟩ := hvalue.exists_cons_of_spells hw
    exact forall_mem_head?_append hx hblank u
  obtain ⟨hpad, hliteral⟩ := append_inj_of_class e.isBlank_pad (hspells _ _ e.spells)
    e'.isBlank_pad (hspells _ _ e'.spells) (List.append_cancel_left hoperator)
  have hspelling := eq_of_spells_append e.spells e'.spells hliteral
  simp only [span, lead, h, hquote, hgap, hsame, hpad, hspelling]

end Compared

end LiteralSearch

end SqlAnalysis
