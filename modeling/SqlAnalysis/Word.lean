import SqlAnalysis.Text.Bytes
import SqlAnalysis.Unicode.CharClass
import SqlAnalysis.Unicode.Case

/-!
# Words of a query

Hover and diagnostics point at words of the raw query text, found without a parse.  A word is
a number `-?\d*\.\d\w*` or a run of characters that are neither separators nor blanks; at each
place the number is tried first, and a character that starts neither is passed over.  String
literals and comments are not recognised: a word inside them is a word like any other.

## Main definitions

* `Word` — a piece of text with its byte span.
* `Word.scan`, `words` — all words of a text, from left to right.
* `locate` — the first word that touches an offset.
* `firstWholeWord`, `firstWholeWordIgnoreCase` — the first occurrence of a given word.
-/

namespace SqlAnalysis

open Text Unicode

/-- A piece of a query with its byte span. -/
structure Word where
  /-- The characters of the word. -/
  text : String
  /-- First byte. -/
  start : Nat
  /-- One past the last byte. -/
  stop : Nat
  deriving DecidableEq, Repr, Inhabited

namespace Word

/-- The span of a word. -/
def span (w : Word) : Span :=
  ⟨w.start, w.stop⟩

/-- The number of bytes a word spans, zero when its ends are reversed. -/
def length (w : Word) : Nat :=
  w.stop - w.start

/-- A word that spans no byte, whatever its characters are. -/
def isEmpty (w : Word) : Bool :=
  w.length == 0

/-- A cursor at `offset` is inside the word or touches one of its edges. -/
def encloses (w : Word) (offset : Nat) : Bool :=
  w.start ≤ offset && offset ≤ w.stop

/-! ### The word grammar -/

/-- A punctuation character that never belongs to a run. -/
def isSeparator (c : Char) : Bool :=
  c ∈ ['`', '~', '!', '@', '#', '$', '%', '^', '&', '*', '(', ')', '-', '=', '+', '[', '{', ']',
    '}', '\\', '|', ';', ':', '\'', '"', ',', '.', '<', '>', '/', '?']

/-- A character that a run is made of. -/
def isRunChar (c : Char) : Bool :=
  !isSeparator c && !isBlank c

/-- The number at the front of a text, if there is one, and what follows it. -/
def number? (t : List Char) : Option (List Char × List Char) :=
  let (sign, digits) := match t with
    | '-' :: r => (['-'], r)
    | r => ([], r)
  match digits.dropWhile isDigit with
  | '.' :: d :: r =>
    if isDigit d then
      some (sign ++ digits.takeWhile isDigit ++ '.' :: d :: r.takeWhile isWordChar,
        r.dropWhile isWordChar)
    else none
  | _ => none

/-- The word at the front of a text, if there is one, and what follows it. -/
def head? (t : List Char) : Option (List Char × List Char) :=
  match number? t with
  | some r => some r
  | none =>
    match t with
    | c :: r =>
      if isRunChar c then some (c :: r.takeWhile isRunChar, r.dropWhile isRunChar) else none
    | [] => none

theorem number?_length {t w r : List Char} (h : number? t = some (w, r)) :
    r.length < t.length := by
  -- Everything behind the sign is at most as long as the text, and the point and a digit go.
  have key : ∀ u : List Char, u.length ≤ t.length →
      ∀ d s, u.dropWhile isDigit = '.' :: d :: s → (s.dropWhile isWordChar).length < t.length := by
    intro u hu d s he
    have h1 := (List.dropWhile_sublist isDigit (l := u)).length_le
    have h2 := (List.dropWhile_sublist isWordChar (l := s)).length_le
    rw [he] at h1
    simp only [List.length_cons] at h1
    omega
  unfold number? at h
  split at h
  rename_i sign digits hs
  have hle : digits.length ≤ t.length := by
    split at hs <;> (cases hs; simp)
  split at h
  · rename_i d s he
    split at h
    · simp only [Option.some.injEq, Prod.mk.injEq] at h
      rw [← h.2]
      exact key digits hle d s he
    · simp at h
  · simp at h

theorem head?_length {t w r : List Char} (h : head? t = some (w, r)) : r.length < t.length := by
  unfold head? at h
  split at h
  · rename_i q hn
    cases h
    exact number?_length hn
  · split at h
    · split at h
      · simp only [Option.some.injEq, Prod.mk.injEq] at h
        have h2 := (List.dropWhile_sublist isRunChar (l := ‹List Char›)).length_le
        rw [← h.2, List.length_cons]
        omega
      · simp at h
    · simp at h

/-- The words of the text `t`, which starts at the byte offset `pos`. -/
def scan (pos : Nat) (t : List Char) : List Word :=
  match _h : head? t with
  | some (w, r) =>
    ⟨String.ofList w, pos, pos + byteLength w⟩ :: scan (pos + byteLength w) r
  | none =>
    match t with
    | [] => []
    | c :: r => scan (pos + c.utf8Size) r
  termination_by t.length
  decreasing_by
    · exact head?_length ‹_›
    · simp

end Word

/-- All words of a text, from left to right. -/
def words (text : String) : List Word :=
  Word.scan 0 text.toList

/-! ### Looking words up -/

/-- The first of `ws` that touches the offset.  The search ends at the first word that starts
behind the offset. -/
def locateIn (offset : Nat) : List Word → Option Word
  | [] => none
  | w :: ws =>
    if offset < w.start then none
    else if offset ≤ w.stop then some w
    else locateIn offset ws

/-- The word that touches the byte `offset` of a text.  A word that ends exactly at the offset
counts, and wins over one that starts there. -/
def locate (offset : Nat) (text : String) : Option Word :=
  locateIn offset (words text)

/-- The byte offsets at which `target` occurs in the text `t` that starts at `pos`, from left
to right and without overlaps.  `skip` characters of the last occurrence are still to be
passed over. -/
def occurrencesFrom (target : List Char) : (skip pos : Nat) → List Char → List Nat
  | _, _, [] => []
  | skip + 1, pos, c :: t => occurrencesFrom target skip (pos + c.utf8Size) t
  | 0, pos, c :: t =>
    if target.isPrefixOf (c :: t) then
      pos :: occurrencesFrom target (target.length - 1) (pos + c.utf8Size) t
    else occurrencesFrom target 0 (pos + c.utf8Size) t

/-- The span of the first occurrence of `target` that is a whole word of the text.  An
occurrence counts when the word located at its start is exactly `target`, so `user` is never
found inside `users`. -/
def firstWholeWord (text target : String) : Option Span :=
  if target.isEmpty then none
  else
    let ws := words text
    (occurrencesFrom target.toList 0 0 text.toList).find?
        (fun i => (locateIn i ws).any (·.text == target))
      |>.map fun i => ⟨i, i + byteLength target.toList⟩

/-- The span of the first word of the text that equals `target` up to ASCII case. -/
def firstWholeWordIgnoreCase (text target : String) : Option Span :=
  ((words text).find? fun w => eqIgnoreAsciiCase w.text.toList target.toList).map Word.span

end SqlAnalysis
