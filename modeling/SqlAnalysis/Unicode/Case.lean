import SqlAnalysis.Unicode.CaseTable
import SqlAnalysis.Unicode.CharClass

/-!
# Letter case

Three notions of "the same up to case" meet in the analysis of a query.  Keywords and
suggestions' own words are compared ignoring ASCII case; edit distances are taken between
full lower-case forms; and a literal `null`, `true` or `false` is searched for up to simple
case folding, one character against one.

## Main definitions

* `asciiLower`, `eqIgnoreAsciiCase` — case of the letters `a` to `z` only.
* `lowerChar`, `foldChar` — the lower case and the simple case folding of one character.
* `lower` — the lower-case form of a text, with the final form of sigma at the end of a word.
-/

namespace SqlAnalysis.Unicode

/-! ### ASCII case -/

/-- The lower-case form of an ASCII letter; every other character is kept. -/
def asciiLowerChar (c : Char) : Char :=
  if 'A' ≤ c ∧ c ≤ 'Z' then Char.ofNat (c.toNat + 32) else c

/-- The text with its ASCII letters in lower case. -/
def asciiLower (t : List Char) : List Char :=
  t.map asciiLowerChar

/-- Equality of texts up to the case of their ASCII letters. -/
def eqIgnoreAsciiCase (a b : List Char) : Bool :=
  asciiLower a == asciiLower b

/-! ### Single characters -/

/-- The image of `n` under the first range of `rs` that holds it. -/
def mapRanges (rs : List (Nat × Nat × Nat × Nat)) (n : Nat) : Nat :=
  match rs.find? fun r => r.1 ≤ n && n ≤ r.2.1 && (n - r.1) % r.2.2.1 == 0 with
  | some r => r.2.2.2 + (n - r.1)
  | none => n

/-- The lower case of one character, when that is a single character again. -/
def lowerChar (c : Char) : Char :=
  Char.ofNat (mapRanges lowerRanges c.toNat)

/-- The simple case folding of one character: two characters are equal up to case when
their foldings are equal. -/
def foldChar (c : Char) : Char :=
  match foldExceptions.find? fun e => e.1 == c.toNat with
  | some e => Char.ofNat e.2
  | none => lowerChar c

/-! ### Whole texts

Lower case is taken character by character, with two exceptions: the dotted capital I
becomes two characters, and a capital sigma takes its final form when it ends a word, that
is when a cased letter stands before it and none after it, case-ignorable characters in
between not counting. -/

/-- A cased letter. -/
def isCased (c : Char) : Bool :=
  inRanges casedRanges c.toNat

/-- A character that does not interrupt a cased word. -/
def isCaseIgnorable (c : Char) : Bool :=
  inRanges caseIgnorableRanges c.toNat

/-- The first character of `t` that is not case-ignorable is a cased letter. -/
def startsCased (t : List Char) : Bool :=
  match t.dropWhile isCaseIgnorable with
  | [] => false
  | c :: _ => isCased c

/-- Lower case of the text `rest`, where `before` is the text already read, last character
first. -/
def lowerFrom (before : List Char) : List Char → List Char
  | [] => []
  | c :: rest =>
    let image :=
      if c = 'Σ' then if startsCased before && !startsCased rest then ['ς'] else ['σ']
      else if c = 'İ' then ['i', '\u0307']
      else [lowerChar c]
    image ++ lowerFrom (c :: before) rest

/-- The lower-case form of a text. -/
def lower (t : List Char) : List Char :=
  lowerFrom [] t

end SqlAnalysis.Unicode
