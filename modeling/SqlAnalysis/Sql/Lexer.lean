import SqlAnalysis.Sql.Token

/-!
# Cutting a query into tokens

At every place the lexer decides on one token and on the characters that belong to it, looking
at what follows and, for numbers and points, at the token before.  It fails only on texts and
quoted names that never end, on comments that never end, and on an underscore right behind a
point.

## Main definitions

* `Lexer.Piece` — a token with its characters.
* `Lexer.first` — the first token of a text.
* `lex` — all tokens of a text with their places, or an error message that ends with a place.
-/

namespace SqlAnalysis.Sql

open Unicode

namespace Lexer

/-- A token together with the characters it is made of. -/
structure Piece where
  /-- The token. -/
  token : Token
  /-- Its characters; at least one. -/
  taken : List Char
  deriving Repr

/-- Why no token was found, and the characters in front of the place to blame. -/
structure Refusal where
  /-- What is wrong. -/
  reason : String
  /-- The characters in front of the place. -/
  before : List Char
  deriving Repr

/-! ### Names -/

/-- A character that a bare name may start with.  Everything outside ASCII counts. -/
def isNameStart (c : Char) : Bool :=
  isAsciiLetter c || c = '_' || c = '$' || c = '@' || 127 < c.toNat

/-- A character that a bare name may go on with. -/
def isNamePart (c : Char) : Bool :=
  isNameStart c || isAsciiDigit c

/-- The bare word that starts with the characters `front` and goes on in `rest`. -/
def bareWord (front rest : List Char) : Piece :=
  let t := front ++ rest.takeWhile isNamePart
  ⟨.word (String.ofList t) false, t⟩

/-- The characters up to and including a closing backquote, and the name they make up: two
backquotes in a row stand for one. -/
def quotedName : List Char → Option (List Char × List Char)
  | [] => none
  | '`' :: '`' :: r => (quotedName r).map fun (raw, name) => ('`' :: '`' :: raw, '`' :: name)
  | c :: r =>
    if c = '`' then some (['`'], [])
    else (quotedName r).map fun (raw, name) => (c :: raw, c :: name)

/-! ### Texts -/

/-- What a backslash and the character behind it stand for.  The two wildcards keep their
backslash. -/
def unescaped (c : Char) : List Char :=
  match c with
  | '0' => ['\x00']
  | 'a' => ['\x07']
  | 'b' => ['\x08']
  | 'f' => ['\x0c']
  | 'n' => ['\n']
  | 'r' => ['\r']
  | 't' => ['\t']
  | 'Z' => ['\x1a']
  | '%' => ['\\', '%']
  | '_' => ['\\', '_']
  | c => [c]

/-- The characters up to and including a closing quote, and the text they stand for: two
quotes in a row stand for one and, if `escapes`, a backslash gives the next character a
meaning. -/
def quotedText (mark : Char) (escapes : Bool) : List Char → Option (List Char × List Char)
  | [] => none
  | [c] => if c = mark then some ([c], []) else none
  | c :: d :: r =>
    if c = mark then
      if d = mark then
        (quotedText mark escapes r).map fun (raw, s) => (c :: d :: raw, c :: s)
      else some ([c], [])
    else if escapes && c = '\\' then
      (quotedText mark escapes r).map fun (raw, s) => (c :: d :: raw, unescaped d ++ s)
    else (quotedText mark escapes (d :: r)).map fun (raw, s) => (c :: raw, c :: s)

/-- The text whose opening quote `mark` stands behind the characters `front`. -/
def textPiece (front : List Char) (mark : Char) (escapes : Bool) (rest : List Char)
    (token : String → Token) : Except Refusal Piece :=
  match quotedText mark escapes rest with
  | some (raw, s) => .ok ⟨token (String.ofList s), front ++ mark :: raw⟩
  | none => .error ⟨"Unterminated string literal", front⟩

/-! ### Comments -/

/-- The rest of a line, its line feed included. -/
def restOfLine : List Char → List Char
  | [] => []
  | c :: t => if c = '\n' then [c] else c :: restOfLine t

/-- The characters up to the end of a block comment. -/
def blockComment : List Char → Option (List Char)
  | [] => none
  | '*' :: '/' :: _ => some ['*', '/']
  | c :: t => (blockComment t).map (c :: ·)

/-- The comment that the characters make up. -/
def comment (t : List Char) : Piece :=
  ⟨.blank (String.ofList t), t⟩

/-! ### Numbers -/

/-- A hexadecimal digit. -/
def isHexDigit (c : Char) : Bool :=
  isAsciiDigit c || ('a' ≤ c && c ≤ 'f') || ('A' ≤ c && c ≤ 'F')

/-- The exponent at the front of a text: `e`, an optional sign and digits.  Empty when the
digits are missing. -/
def exponent (t : List Char) : List Char :=
  match t with
  | e :: t =>
    let (sign, t) := match t with
      | c :: r => if c = '+' || c = '-' then ([c], r) else ([], t)
      | [] => ([], t)
    let digits := t.takeWhile isAsciiDigit
    if digits.isEmpty then [] else e :: (sign ++ digits)
  | [] => []

/-- The token that starts with a digit or a point: a number, a name that starts with digits, or
a point between two names. -/
def number (before : Option Token) (t : List Char) : Piece :=
  let digits := t.takeWhile isAsciiDigit
  match digits, t.dropWhile isAsciiDigit with
  | ['0'], 'x' :: r =>
    let hs := r.takeWhile isHexDigit
    ⟨.hex (String.ofList hs), '0' :: 'x' :: hs⟩
  | _, rest =>
    let point := rest.takeWhile (· = '.') |>.take 1
    let whole := digits ++ point
    let afterWord := match before with
      | some (.word ..) => true
      | _ => false
    if whole = ['.'] && afterWord then ⟨.symbol ".", ['.']⟩
    else
      let rest := rest.drop point.length
      let written := whole ++ rest.takeWhile isAsciiDigit
      if written = ['.'] then ⟨.symbol ".", ['.']⟩
      else
        let rest := rest.dropWhile isAsciiDigit
        if rest.head?.any (fun c => c = 'e' || c = 'E') then
          let e := exponent rest
          let written := written ++ e
          if before = some (.symbol ".") then ⟨.word (String.ofList written) false, written⟩
          else if (rest.drop e.length).head? = some 'L' then
            ⟨.number (String.ofList written) true, written ++ ['L']⟩
          else ⟨.number (String.ofList written) false, written⟩
        else
          let name := rest.takeWhile isNamePart
          if name.isEmpty then ⟨.number (String.ofList written) false, written⟩
          else ⟨.word (String.ofList (written ++ name)) false, written ++ name⟩

/-! ### Operators -/

/-- The operators and brackets, a longer one before its beginnings. -/
def symbols : List String :=
  ["!~~*", "<=>", "->>", "||/", "!~*", "!~~", "~~*",
   "->", "|/", "||", "=>", "==", "!=", "!!", "!~", "<=", "<>", "<<", "<@", ">=", ">>", "::",
   ":=", "&&", "^@", "~*", "~~",
   "(", ")", ",", "-", "/", "+", "*", "%", "|", "=", "!", "<", ">", ":", ";", "\\", "[", "]",
   "&", "^", "\x7b", "\x7d", "~"]

/-- The operator at the front of a text. -/
def operator? (t : List Char) : Option Piece :=
  (symbols.find? fun s => s.toList.isPrefixOf t).map fun s =>
    ⟨.symbol (if s = "!=" then "<>" else s), s.toList⟩

/-- The token that starts with `@`, with `rest` behind it.  In front of a blank or a quote the
sign stands alone; otherwise whatever follows starts a name. -/
def atSign (rest : List Char) : Piece :=
  match rest with
  | [] => ⟨.symbol "@", ['@']⟩
  | '>' :: _ => ⟨.symbol "@>", ['@', '>']⟩
  | '?' :: _ => ⟨.symbol "@?", ['@', '?']⟩
  | ['@'] => ⟨.symbol "@@", ['@', '@']⟩
  | '@' :: c :: r => if c = ' ' then ⟨.symbol "@@", ['@', '@']⟩ else bareWord ['@', '@', c] r
  | c :: r =>
    if c = ' ' || c = '\'' || c = '"' || c = '`' then ⟨.symbol "@", ['@']⟩
    else bareWord ['@', c] r

/-! ### The lexer -/

/-- A character that counts as white space when nothing else claims it. -/
def isAsciiBlank (c : Char) : Bool :=
  c = ' ' || ('\t' ≤ c && c ≤ '\r')

/-- White space as a message shows it: line breaks and tabs as such, anything else as a space. -/
def shownBlank (c : Char) : String :=
  match c with
  | '\n' | '\r' => "\n"
  | '\t' => "\t"
  | _ => " "

/-- The first token of the text `c :: t`, where `before` is the token in front of it. -/
def first (before : Option Token) (c : Char) (t : List Char) : Except Refusal Piece :=
  match c, t with
  | '\r', '\n' :: _ => .ok ⟨.blank "\n", ['\r', '\n']⟩
  | 'b', '\'' :: r => textPiece ['b'] '\'' false r (.marked 'B' '\'')
  | 'B', '\'' :: r => textPiece ['B'] '\'' false r (.marked 'B' '\'')
  | 'b', '"' :: r => textPiece ['b'] '"' false r (.marked 'B' '"')
  | 'B', '"' :: r => textPiece ['B'] '"' false r (.marked 'B' '"')
  | 'n', '\'' :: r => textPiece ['n'] '\'' true r (.marked 'N' '\'')
  | 'N', '\'' :: r => textPiece ['N'] '\'' true r (.marked 'N' '\'')
  | 'x', '\'' :: r => textPiece ['x'] '\'' true r .hex
  | 'X', '\'' :: r => textPiece ['X'] '\'' true r .hex
  | '\'', r => textPiece [] '\'' true r (.text '\'')
  | '"', r => textPiece [] '"' true r (.text '"')
  | '`', r =>
    match quotedName r with
    | some (raw, name) => .ok ⟨.word (String.ofList name) true, '`' :: raw⟩
    | none => .error ⟨"Expected close delimiter '`' before EOF.", []⟩
  | '.', '_' :: _ =>
    match before with
    | some (.word ..) => .ok ⟨.symbol ".", ['.']⟩
    | _ => .error ⟨"Unexpected character '_'", []⟩
  | '-', '-' :: ' ' :: r => .ok (comment ('-' :: '-' :: ' ' :: restOfLine r))
  | '#', r => .ok (comment ('#' :: restOfLine r))
  | '/', '*' :: r =>
    match blockComment r with
    | some raw => .ok (comment ('/' :: '*' :: raw))
    | none => .error ⟨"Unexpected EOF while in a multi-line comment", '/' :: '*' :: r⟩
  | '@', r => .ok (atSign r)
  | '?', r =>
    let ds := r.takeWhile isNumeric
    .ok ⟨.placeholder (String.ofList ('?' :: ds)), '?' :: ds⟩
  | c, r =>
    if isAsciiDigit c || c = '.' then .ok (number before (c :: r))
    else if isNameStart c then .ok (bareWord [c] r)
    else if isAsciiBlank c then .ok ⟨.blank (shownBlank c), [c]⟩
    else .ok ((operator? (c :: r)).getD ⟨.stray c, [c]⟩)

/-- The lexemes of a text from a location on.  `skip` characters belong to the token `before`;
each token is decided on at its first character. -/
def scan (before : Option Token) :
    (skip : Nat) → Location → List Char → Except String (List Lexeme)
  | _, _, [] => .ok []
  | skip + 1, l, c :: t => scan before skip (l.next c) t
  | 0, l, c :: t =>
    match first before c t with
    | .error e => .error (e.reason ++ (l.after e.before).suffix)
    | .ok p =>
      (scan (some p.token) (p.taken.length - 1) (l.next c) t).map
        (⟨p.token, l, l.after p.taken⟩ :: ·)

end Lexer

/-- The lexemes of a query in order. -/
def lex (query : String) : Except String (List Lexeme) :=
  Lexer.scan none 0 ⟨1, 1⟩ query.toList

end SqlAnalysis.Sql
