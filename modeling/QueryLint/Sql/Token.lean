import QueryLint.Sql.Dialect
import QueryLint.Text.Alphabetic
import QueryLint.Text.Blank

/-!
# Tokens of SQL text

What the lexer produces and the grammar consumes: a token, the place where it starts, and the blanks
and comments behind it. A token can be shown in two ways, as it is quoted in error messages
(`Token.spelled`) and by its kind (`Token.kindName`).
-/

namespace QueryLint.Sql

/-- A place in a text, line and column counted from 1 in characters. Line 0 is no place at all. -/
structure Place where
  line : Nat
  column : Nat
  deriving DecidableEq, Repr, Inhabited

namespace Place

/-- The first place of a text. -/
def start : Place := ⟨1, 1⟩

/-- The place of what lies behind the end of a text. -/
def none : Place := ⟨0, 0⟩

/-- The place after one more character. -/
def next (p : Place) (c : Char) : Place :=
  if c == '\n' then ⟨p.line + 1, 1⟩ else ⟨p.line, p.column + 1⟩

/-- The place after some more characters. -/
def after (p : Place) (cs : List Char) : Place :=
  cs.foldl next p

/-- The words that tell a place at the end of an error message. -/
def suffix (p : Place) : String :=
  if p.line == 0 then "" else s!" at Line: {p.line}, Column: {p.column}"

end Place

/-- A name or keyword. The upper-case spelling of an unquoted word tells which keyword it may be. -/
structure Word where
  value : String
  quote : Option Char
  keyword : String
  deriving DecidableEq, Repr, Inhabited

namespace Word

/-- The capitals of a letter, which for a ligature are several. Of the letters beyond ASCII only
those are listed whose capitals are ASCII. -/
def capitals (c : Char) : List Char :=
  match c with
  | 'ı' => ['I']
  | 'ſ' => ['S']
  | 'ß' => ['S', 'S']
  | 'ﬀ' => ['F', 'F']
  | 'ﬁ' => ['F', 'I']
  | 'ﬂ' => ['F', 'L']
  | 'ﬃ' => ['F', 'F', 'I']
  | 'ﬄ' => ['F', 'F', 'L']
  | 'ﬅ' => ['S', 'T']
  | 'ﬆ' => ['S', 'T']
  | c => [c.toUpper]

/-- The character that closes a quoted name. -/
def closingQuote (c : Char) : Char :=
  if c == '[' then ']' else c

/-- A word with its keyword, which only an unquoted word can be. -/
def make (value : String) (quote : Option Char) : Word where
  value
  quote
  keyword := if quote.isNone then String.ofList (value.toList.flatMap capitals) else ""

/-- The word in its quotes. -/
def spelled (w : Word) : String :=
  match w.quote with
  | some q => s!"{q}{w.value}{closingQuote q}"
  | none => w.value

end Word

/-- The kinds of string literals. -/
inductive TextKind where
  | single
  | double
  | dollar (tag : Option String)
  | escape
  | unicode
  | national
  | hex
  | byteSingle
  | byteDouble
  | rawSingle
  | rawDouble
  | longRawSingle
  | longRawDouble
  deriving DecidableEq, Repr, Inhabited

/-- A token. Punctuation and operators are told by their spelling. -/
inductive Token where
  | word (w : Word)
  | number (digits : String) (long : Bool)
  | text (kind : TextKind) (content : String)
  | placeholder (name : String)
  | sign (spelling : String)
  | operator (spelling : String)
  | stray (c : Char)
  deriving DecidableEq, Repr, Inhabited

namespace TextKind

/-- A string literal written with what stands before and behind its content. -/
def wrap (kind : TextKind) (content : String) : String :=
  match kind with
  | single => s!"'{content}'"
  | double => s!"\"{content}\""
  | dollar none => s!"$${content}$$"
  | dollar (some tag) => s!"${tag}${content}${tag}$"
  | escape => s!"E'{content}'"
  | unicode => s!"U&'{content}'"
  | national => s!"N'{content}'"
  | hex => s!"X'{content}'"
  | byteSingle => s!"B'{content}'"
  | byteDouble => s!"B\"{content}\""
  | rawSingle => s!"R'{content}'"
  | rawDouble => s!"R\"{content}\""
  | longRawSingle => s!"R'''{content}'''"
  | longRawDouble => s!"R\"\"\"{content}\"\"\""

end TextKind

namespace Token

/-- A token as error messages quote it. -/
def spelled : Token → String
  | word w => w.spelled
  | number digits long => if long then digits ++ "L" else digits
  | text kind content => kind.wrap content
  | placeholder name => name
  | sign spelling => spelling
  | operator spelling => spelling
  | stray c => c.toString

/-- The names of the kinds of operator tokens. -/
def signNames : List (String × String) := [
  ("<<", "ShiftLeft"), (">>", "ShiftRight"), (":", "Colon"), ("!", "ExclamationMark"),
  ("[", "LBracket"), ("#", "Sharp"), ("//", "DuckIntDiv"), ("^@", "CaretAt"),
  ("?", "Question"), ("@", "AtSign"), ("?|", "QuestionPipe"), ("?&", "QuestionAnd"),
  ("##", "DoubleSharp"), ("?-", "QuestionMarkDash"), ("?#", "QuestionMarkSharp"),
  ("&&", "Overlap"), ("@@", "AtAt"), ("~=", "TildeEqual"), ("<->", "TwoWayArrow"),
  ("&<", "AmpersandLeftAngleBracket"),
  ("&>", "AmpersandRightAngleBracket"), ("<^", "LeftAngleBracketCaret"),
  (">^", "RightAngleBracketCaret")]

/-- A token by its kind and content, as messages about operators quote it. -/
def kindName : Token → String
  | word w =>
    let quote := match w.quote with
      | some q => s!"Some('{q}')"
      | none => "None"
    let keyword := if w.keyword.isEmpty then "NoKeyword" else w.keyword
    s!"Word(Word \x7b value: \"{w.value}\", quote_style: {quote}, keyword: {keyword} \x7d)"
  | sign spelling => (signNames.lookup spelling).getD spelling
  | operator spelling => s!"CustomBinaryOperator(\"{spelling}\")"
  | other => other.spelled

end Token

/-- A blank or a comment where it stands in a text. -/
structure Blank where
  text : String
  place : Place
  deriving DecidableEq, Repr, Inhabited

namespace Blank

/-- The text of what some characters at a place are as a blank: a line break, a tab and a comment
are themselves, and every other blank is a space. -/
def ofChars (place : Place) (cs : List Char) : Blank where
  text := match cs with
    | '\r' :: _ => "\n"
    | [c] => if c == '\n' || c == '\t' || !Text.isBlank c then c.toString else " "
    | _ => String.ofList cs
  place

end Blank

/-- A token where it stands in a text, with the blanks and comments between it and the next
token. -/
structure Lexeme where
  token : Token
  place : Place
  blanks : List Blank
  deriving DecidableEq, Repr, Inhabited

end QueryLint.Sql
