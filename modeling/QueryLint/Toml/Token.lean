/-!
# Tokens of TOML text

Every text is a sequence of tokens: the lexer rejects nothing. A quoted text that is not closed ends
with its line or, if it may have several lines, with the whole text.
-/

namespace QueryLint.Toml

/-- How a piece of text is quoted. A long one stands in three quotes and may have several lines. -/
inductive Quoting where
  | bare
  | basic
  | literal
  | longBasic
  | longLiteral
  deriving DecidableEq, Repr, Inhabited

/-- What a token is. -/
inductive TokenKind where
  | dot
  | equals
  | comma
  | openBracket
  | closeBracket
  | openBrace
  | closeBrace
  | blank
  | comment
  | newline
  | piece (quoting : Quoting)
  deriving DecidableEq, Repr, Inhabited

/-- A token as it is written, and the offset at which it starts. -/
structure Token where
  kind : TokenKind
  text : List Char
  start : Nat
  deriving DecidableEq, Repr, Inhabited

namespace Token

/-- The offset behind a token. -/
def stop (t : Token) : Nat := t.start + t.text.length

/-! ### Quoted texts -/

/-- A basic text from behind its opening quote. A backslash keeps a quote from closing it. -/
def basicTail : List Char → List Char
  | [] => []
  | '\n' :: _ => []
  | '\x22' :: _ => ['\x22']
  | '\\' :: '\\' :: rest => '\\' :: '\\' :: basicTail rest
  | '\\' :: '\x22' :: rest => '\\' :: '\x22' :: basicTail rest
  | c :: rest => c :: basicTail rest

/-- A literal text from behind its opening quote. -/
def literalTail : List Char → List Char
  | [] => []
  | '\n' :: _ => []
  | '\'' :: _ => ['\'']
  | c :: rest => c :: literalTail rest

/-- Three closing quotes, and up to two more in front of them that belong to the text. -/
def closing (quote : Char) (behind : List Char) : List Char :=
  List.replicate 3 quote ++ (behind.takeWhile (· == quote)).take 2

/-- A long basic text from behind its opening quotes. -/
def longBasicTail : List Char → List Char
  | [] => []
  | '\x22' :: '\x22' :: '\x22' :: rest => closing '\x22' rest
  | '\\' :: '\\' :: rest => '\\' :: '\\' :: longBasicTail rest
  | '\\' :: '\x22' :: rest => '\\' :: '\x22' :: longBasicTail rest
  | c :: rest => c :: longBasicTail rest

/-- A long literal text from behind its opening quotes. -/
def longLiteralTail : List Char → List Char
  | [] => []
  | '\'' :: '\'' :: '\'' :: rest => closing '\'' rest
  | c :: rest => c :: longLiteralTail rest

/-! ### The lexer -/

/-- Whether a character is a blank within a line. -/
def isBlank (c : Char) : Bool := c == ' ' || c == '\t'

/-- Whether a character ends a bare word. -/
def endsWord (c : Char) : Bool :=
  [ '.', '=', ',', '[', ']', '\x7b', '\x7d', ' ', '\t', '#', '\r', '\n'].contains c

/-- The kind and the characters of the first token of a text. -/
def scan : List Char → TokenKind × List Char
  | '.' :: _ => (.dot, ['.'])
  | '=' :: _ => (.equals, ['='])
  | ',' :: _ => (.comma, [','])
  | '[' :: _ => (.openBracket, ['['])
  | ']' :: _ => (.closeBracket, [']'])
  | '\x7b' :: _ => (.openBrace, ['\x7b'])
  | '\x7d' :: _ => (.closeBrace, ['\x7d'])
  | '\n' :: _ => (.newline, ['\n'])
  | '\r' :: '\n' :: _ => (.newline, ['\r', '\n'])
  | '\r' :: _ => (.newline, ['\r'])
  | '#' :: rest => (.comment, '#' :: rest.takeWhile fun c => c != '\r' && c != '\n')
  | '\x22' :: '\x22' :: '\x22' :: rest =>
    (.piece .longBasic, '\x22' :: '\x22' :: '\x22' :: longBasicTail rest)
  | '\'' :: '\'' :: '\'' :: rest =>
    (.piece .longLiteral, '\'' :: '\'' :: '\'' :: longLiteralTail rest)
  | '\x22' :: rest => (.piece .basic, '\x22' :: basicTail rest)
  | '\'' :: rest => (.piece .literal, '\'' :: literalTail rest)
  | text =>
    if (text.head?.map isBlank).getD false then (.blank, text.takeWhile isBlank)
    else (.piece .bare, text.takeWhile fun c => !endsWord c)

/-- The tokens of a text that starts at an offset; the fuel bounds their number. -/
def scanFrom : Nat → Nat → List Char → List Token
  | 0, _, _ => []
  | fuel + 1, start, text =>
    if text.isEmpty then []
    else
      let (kind, found) := scan text
      ⟨kind, found, start⟩ :: scanFrom fuel (start + found.length) (text.drop found.length)

/-- The tokens of a text. A mark of the byte order in front of it is passed over. -/
def scanAll (text : List Char) : List Token :=
  match text with
  | '\uFEFF' :: rest => scanFrom rest.length 1 rest
  | other => scanFrom other.length 0 other

end Token

end QueryLint.Toml
