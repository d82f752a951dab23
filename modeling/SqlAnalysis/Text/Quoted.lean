import SqlAnalysis.Unicode.CharClass
import SqlAnalysis.Unicode.HiddenTable

/-!
# Quoted texts

A text that is quoted inside a message stands between quotes, and nothing in it can be taken for
the end of it or be overlooked: quotes and backslashes have a backslash in front of them, and
what cannot be seen is shown by a letter or by its number.

## Main definitions

* `shownChar` — a character of a quoted text as it is shown.
* `quoted` — a text between quotes.
-/

namespace SqlAnalysis.Text

open Unicode

/-- A character that shows nothing of its own. -/
def isHidden (c : Char) : Bool :=
  inRanges hiddenRanges c.toNat

/-- A character shown by its number in hexadecimal digits. -/
def byNumber (c : Char) : List Char :=
  ['\\', 'u', '\x7b'] ++ Nat.toDigits 16 c.toNat ++ ['\x7d']

/-- A character of a quoted text as it is shown. -/
def shownChar (c : Char) : List Char :=
  match c with
  | '"' => ['\\', '"']
  | '\\' => ['\\', '\\']
  | '\n' => ['\\', 'n']
  | '\r' => ['\\', 'r']
  | '\t' => ['\\', 't']
  | '\x00' => ['\\', '0']
  | c => if isHidden c then byNumber c else [c]

/-- A text between quotes as a message shows it. -/
def quoted (s : String) : String :=
  "\"" ++ String.ofList (s.toList.flatMap shownChar) ++ "\""

end SqlAnalysis.Text
