import SqlAnalysis.Unicode.Case

/-!
# Tokens

What the lexer cuts a query into.  White space and comments are tokens too: they decide which
tokens touch each other, and they have places like every other token.

## Main definitions

* `Location` — a line and a column, both counted from one.
* `Token` — a piece of a query, with what it means.
* `Lexeme` — a token and where it starts and stops.
* `keywordForm` — the upper-case form by which a bare word is recognised as a keyword.
-/

namespace SqlAnalysis.Sql

open Unicode

/-- A line and a column, both counted from one; columns count characters. -/
structure Location where
  /-- Number of the line. -/
  line : Nat
  /-- Number of the character in its line. -/
  column : Nat
  deriving DecidableEq, Repr, Inhabited

namespace Location

/-- The location behind one character. -/
def next (l : Location) (c : Char) : Location :=
  if c = '\n' then ⟨l.line + 1, 1⟩ else ⟨l.line, l.column + 1⟩

/-- The location behind a text. -/
def after (l : Location) (t : List Char) : Location :=
  t.foldl next l

/-- A location as the end of an error message. -/
def suffix (l : Location) : String :=
  " at Line: " ++ toString l.line ++ ", Column: " ++ toString l.column

@[simp] theorem after_nil (l : Location) : l.after [] = l := rfl

@[simp] theorem after_cons (l : Location) (c : Char) (t : List Char) :
    l.after (c :: t) = (l.next c).after t := rfl

@[simp] theorem after_append (l : Location) (a b : List Char) :
    l.after (a ++ b) = (l.after a).after b := by
  simp [after]

end Location

/-- A piece of a query. -/
inductive Token
  /-- A name or a keyword; `quoted` when it stood between backquotes. -/
  | word (text : String) (quoted : Bool)
  /-- A number as it is written, without the suffix `L` that makes it `long`. -/
  | number (text : String) (long : Bool)
  /-- A text between quote characters, its escapes resolved. -/
  | text (mark : Char) (content : String)
  /-- A text with a letter in front of its quote: `N` for national, `B` for bytes. -/
  | marked (letter : Char) (mark : Char) (content : String)
  /-- A number or text in hexadecimal digits. -/
  | hex (digits : String)
  /-- A question mark that stands for a value. -/
  | placeholder (text : String)
  /-- An operator or a bracket; `!=` is the same operator as `<>`. -/
  | symbol (text : String)
  /-- Any other character. -/
  | stray (c : Char)
  /-- White space or a comment, as a message shows it. -/
  | blank (text : String)
  /-- The end of the query, in a list of tokens that marks it. -/
  | endMark
  deriving DecidableEq, Repr, Inhabited

/-- The text of a token in an error message. -/
def Token.display : Token → String
  | word t quoted => if quoted then "`" ++ t ++ "`" else t
  | number t long => if long then t ++ "L" else t
  | text mark s => mark.toString ++ s ++ mark.toString
  | marked letter mark s => letter.toString ++ mark.toString ++ s ++ mark.toString
  | hex ds => "X'" ++ ds ++ "'"
  | placeholder t => t
  | symbol t => t
  | stray c => c.toString
  | blank t => t
  | endMark => "EOF"

/-- White space or a comment. -/
def Token.isBlank : Token → Bool
  | blank _ => true
  | _ => false

/-- A token and the place where it stands. -/
structure Lexeme where
  /-- The token. -/
  token : Token
  /-- The location of its first character. -/
  start : Location
  /-- The location behind its last character. -/
  stop : Location
  deriving DecidableEq, Repr, Inhabited

/-- The upper case of a character, as far as it consists of ASCII letters; other characters
never make up a keyword and are kept. -/
def asciiUpperImage (c : Char) : List Char :=
  if 'a' ≤ c ∧ c ≤ 'z' then [Char.ofNat (c.toNat - 32)]
  else
    match c with
    | 'ß' => ['S', 'S']
    | 'ı' => ['I']
    | 'ſ' => ['S']
    | 'ﬀ' => ['F', 'F']
    | 'ﬁ' => ['F', 'I']
    | 'ﬂ' => ['F', 'L']
    | 'ﬃ' => ['F', 'F', 'I']
    | 'ﬄ' => ['F', 'F', 'L']
    | 'ﬅ' => ['S', 'T']
    | 'ﬆ' => ['S', 'T']
    | _ => [c]

/-- The form in which a bare word is compared with keywords. -/
def keywordForm (text : String) : String :=
  String.ofList (text.toList.flatMap asciiUpperImage)

/-- The keyword form of a bare word; the empty text for every other token. -/
def Token.keyword : Token → String
  | word t false => keywordForm t
  | _ => ""

end SqlAnalysis.Sql
