import SqlAnalysis.Text.Bytes

/-!
# Slices and boundaries

Cutting a text at byte offsets, said without offsets: a span cuts a piece out of a text when the
text falls into three parts, the piece is the middle one, and the span starts and stops where
it does.

## Main definitions

* `IsBoundary n t` — a character of `t` starts at the offset `n`, or `t` ends there.
* `Span.Cuts s w t` — the span `s` cuts the piece `w` out of `t`.

## Main results

* `slice?_eq_some_iff` — **a slice is what its span cuts out.**
* `Span.Cuts.within` — a piece of a piece is a piece of the whole.
* `isBoundary_of_offsetOf?` — lines and columns lead to boundaries.
-/

namespace SqlAnalysis.Text

/-- A character of the text `t` starts at the offset `n`, or `t` ends there. -/
def IsBoundary (n : Nat) (t : List Char) : Prop :=
  ∃ a b, t = a ++ b ∧ byteLength a = n

/-- The span `s` cuts the piece `w` out of the text `t`. -/
def Span.Cuts (s : Span) (w t : List Char) : Prop :=
  ∃ a b, t = a ++ w ++ b ∧ s.start = byteLength a ∧ s.stop = byteLength (a ++ w)

/-! ### Dropping and taking bytes -/

/-- Only the empty text has no bytes. -/
theorem byteLength_eq_zero {t : List Char} : byteLength t = 0 ↔ t = [] := by
  cases t with
  | nil => simp
  | cons c t =>
    have := c.utf8Size_pos
    simp only [byteLength_cons, reduceCtorEq, iff_false]
    omega

theorem byteLength_pos {t : List Char} (h : t ≠ []) : 0 < byteLength t :=
  Nat.pos_of_ne_zero fun hzero => h (byteLength_eq_zero.mp hzero)

/-- Every character has at least one byte. -/
theorem length_le_byteLength (t : List Char) : t.length ≤ byteLength t := by
  induction t with
  | nil => exact Nat.le_refl 0
  | cons c t ih =>
    have hc := c.utf8Size_pos
    rw [List.length_cons, byteLength_cons]
    omega

/-- Two splits of a text at the same offset are the same split. -/
theorem append_inj_of_byteLength {a b c d : List Char} (h : a ++ b = c ++ d)
    (hlength : byteLength a = byteLength c) : a = c ∧ b = d := by
  rcases List.append_eq_append_iff.mp h with ⟨k, rfl, rfl⟩ | ⟨k, rfl, rfl⟩
  · have hk : k = [] := byteLength_eq_zero.mp (by rw [byteLength_append] at hlength; omega)
    simp [hk]
  · have hk : k = [] := byteLength_eq_zero.mp (by rw [byteLength_append] at hlength; omega)
    simp [hk]

theorem dropBytes?_append (a r : List Char) : dropBytes? (byteLength a) (a ++ r) = some r := by
  induction a with
  | nil => simp [dropBytes?]
  | cons c a ih =>
    obtain ⟨k, hk⟩ : ∃ k, c.utf8Size + byteLength a = k + 1 :=
      ⟨c.utf8Size + byteLength a - 1, by have := c.utf8Size_pos; omega⟩
    have hrest : k + 1 - c.utf8Size = byteLength a := by omega
    rw [byteLength_cons, hk, List.cons_append, dropBytes?, if_pos (by omega), hrest, ih]

theorem dropBytes?_eq_some_iff {n : Nat} {t r : List Char} :
    dropBytes? n t = some r ↔ ∃ a, t = a ++ r ∧ byteLength a = n := by
  constructor
  · intro h
    fun_induction dropBytes? n t with
    | case1 t =>
      cases h
      exact ⟨[], rfl, rfl⟩
    | case2 | case4 => simp at h
    | case3 n c t hle ih =>
      obtain ⟨a, rfl, ha⟩ := ih h
      exact ⟨c :: a, rfl, by rw [byteLength_cons]; omega⟩
  · rintro ⟨a, rfl, rfl⟩
    exact dropBytes?_append a r

theorem takeBytes?_append (w b : List Char) : takeBytes? (byteLength w) (w ++ b) = some w := by
  induction w with
  | nil => simp [takeBytes?]
  | cons c w ih =>
    obtain ⟨k, hk⟩ : ∃ k, c.utf8Size + byteLength w = k + 1 :=
      ⟨c.utf8Size + byteLength w - 1, by have := c.utf8Size_pos; omega⟩
    have hrest : k + 1 - c.utf8Size = byteLength w := by omega
    rw [byteLength_cons, hk, List.cons_append, takeBytes?, if_pos (by omega), hrest, ih]
    rfl

theorem takeBytes?_eq_some_iff {n : Nat} {t w : List Char} :
    takeBytes? n t = some w ↔ ∃ b, t = w ++ b ∧ byteLength w = n := by
  constructor
  · intro h
    fun_induction takeBytes? n t generalizing w with
    | case1 t =>
      cases h
      exact ⟨t, rfl, rfl⟩
    | case2 | case4 => simp at h
    | case3 n c t hle ih =>
      obtain ⟨v, hv, rfl⟩ := Option.map_eq_some_iff.mp h
      obtain ⟨b, rfl, hb⟩ := ih hv
      exact ⟨b, rfl, by rw [byteLength_cons]; omega⟩
  · rintro ⟨b, rfl, rfl⟩
    exact takeBytes?_append w b

/-! ### Slices -/

/-- **A slice is what its span cuts out.** -/
theorem slice?_eq_some_iff {s : Span} {t w : List Char} :
    slice? s t = some w ↔ s.Cuts w t := by
  unfold slice?
  constructor
  · intro h
    split at h
    · obtain ⟨r, hr, hw⟩ := Option.bind_eq_some_iff.mp h
      obtain ⟨a, rfl, ha⟩ := dropBytes?_eq_some_iff.mp hr
      obtain ⟨b, rfl, hb⟩ := takeBytes?_eq_some_iff.mp hw
      exact ⟨a, b, by simp, ha.symm, by rw [byteLength_append]; omega⟩
    · simp at h
  · rintro ⟨a, b, rfl, hstart, hstop⟩
    rw [byteLength_append] at hstop
    rw [if_pos (by omega), Option.bind_eq_some_iff]
    exact ⟨w ++ b, dropBytes?_eq_some_iff.mpr ⟨a, by simp, hstart.symm⟩,
      takeBytes?_eq_some_iff.mpr ⟨b, rfl, by omega⟩⟩

namespace Span.Cuts

variable {s r : Span} {w t u : List Char}

theorem start_le_stop (h : s.Cuts w t) : s.start ≤ s.stop := by
  obtain ⟨a, b, -, hstart, hstop⟩ := h
  rw [byteLength_append] at hstop
  omega

theorem stop_le (h : s.Cuts w t) : s.stop ≤ byteLength t := by
  obtain ⟨a, b, rfl, -, hstop⟩ := h
  rw [byteLength_append, hstop]
  omega

theorem isBoundary_start (h : s.Cuts w t) : IsBoundary s.start t := by
  obtain ⟨a, b, rfl, hstart, -⟩ := h
  exact ⟨a, w ++ b, by simp, hstart.symm⟩

theorem isBoundary_stop (h : s.Cuts w t) : IsBoundary s.stop t := by
  obtain ⟨a, b, rfl, -, hstop⟩ := h
  exact ⟨a ++ w, b, rfl, hstop.symm⟩

/-- The length of the piece. -/
theorem stop_eq (h : s.Cuts w t) : s.stop = s.start + byteLength w := by
  obtain ⟨a, b, -, hstart, hstop⟩ := h
  rw [hstop, hstart, byteLength_append]

/-- **A piece of a piece is a piece of the whole.** -/
theorem within (hs : s.Cuts w t) (hr : r.Cuts t u) : (s.shift r.start).Cuts w u := by
  obtain ⟨a, b, rfl, hstart, hstop⟩ := hs
  obtain ⟨a', b', rfl, hstart', -⟩ := hr
  refine ⟨a' ++ a, b ++ b', by simp, ?_, ?_⟩
  · rw [Span.shift, hstart, hstart', byteLength_append, Nat.add_comm]
  · rw [Span.shift, hstop, hstart', List.append_assoc a', byteLength_append a']
    exact Nat.add_comm _ _

end Span.Cuts

/-! ### Boundaries -/

theorem isBoundary_length (t : List Char) : IsBoundary (byteLength t) t :=
  ⟨t, [], by simp, rfl⟩

theorem IsBoundary.le {n : Nat} {t : List Char} (h : IsBoundary n t) : n ≤ byteLength t := by
  obtain ⟨a, b, rfl, rfl⟩ := h
  rw [byteLength_append]
  omega

/-- A boundary behind a character is one boundary of the rest further on. -/
theorem IsBoundary.cons {n : Nat} {t : List Char} (c : Char) (h : IsBoundary n t) :
    IsBoundary (n + c.utf8Size) (c :: t) := by
  obtain ⟨a, b, rfl, rfl⟩ := h
  exact ⟨c :: a, b, rfl, by rw [byteLength_cons, Nat.add_comm]⟩

theorem isBoundary_iff_dropBytes? {n : Nat} {t : List Char} :
    IsBoundary n t ↔ ∃ r, dropBytes? n t = some r := by
  constructor
  · rintro ⟨a, b, rfl, rfl⟩
    exact ⟨b, dropBytes?_eq_some_iff.mpr ⟨a, rfl, rfl⟩⟩
  · rintro ⟨r, hr⟩
    obtain ⟨a, rfl, ha⟩ := dropBytes?_eq_some_iff.mp hr
    exact ⟨a, r, rfl, ha⟩

/-- Two boundaries in order cut a piece out. -/
theorem exists_cuts_of_isBoundary {m n : Nat} {t : List Char} (hm : IsBoundary m t)
    (hn : IsBoundary n t) (hle : m ≤ n) : ∃ w, (⟨m, n⟩ : Span).Cuts w t := by
  obtain ⟨a, b, rfl, rfl⟩ := hm
  obtain ⟨a', b', hsplit, rfl⟩ := hn
  rcases List.append_eq_append_iff.mp hsplit with ⟨w, rfl, rfl⟩ | ⟨w, rfl, rfl⟩
  · exact ⟨w, a, b', by simp, rfl, rfl⟩
  · -- the second boundary stands in front of the first, so nothing is between them
    have hw : w = [] := by
      rw [byteLength_append] at hle
      exact byteLength_eq_zero.mp (by omega)
    subst hw
    exact ⟨[], a', b, by simp, by simp, by simp⟩

/-- Lines and columns lead to boundaries. -/
theorem isBoundary_of_offsetOf? {line column n : Nat} {t : List Char}
    (h : offsetOf? line column t = some n) : IsBoundary n t := by
  fun_induction offsetOf? line column t generalizing n with
  | case1 | case2 | case4 | case5 => simp at h
  | case3 t =>
    rw [← Option.some.inj h]
    exact ⟨[], t, rfl, rfl⟩
  | case6 column c t _ ih | case7 line column t ih | case8 line column c t _ ih =>
    obtain ⟨m, hm, rfl⟩ := Option.map_eq_some_iff.mp h
    exact (ih hm).cons _

end SqlAnalysis.Text
