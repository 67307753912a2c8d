import QueryLint.Document
import QueryLint.Text.Numeral

/-!
# Documents as YAML

A document in block style. Lists and records start on the line below their key, and a list inside a
record is not indented. Texts are plain where that is possible (`TextStyle`): not if they would be
read back as something else, or if some character has a meaning in its place.
-/

namespace QueryLint.Document

/-! ### Plain texts that are no texts -/

/-- The words that are read as nothing or as a flag. -/
def reservedWords : List String :=
  ["null", "Null", "NULL", "~", "true", "True", "TRUE", "false", "False", "FALSE"]

/-- Digits behind a leading zero and an optional sign. -/
def isZeroPadded (text : List Char) : Bool :=
  let digits := match text with
    | '-' :: rest => rest
    | '+' :: rest => rest
    | other => other
  match digits with
  | '0' :: c :: rest => (c :: rest).all Char.isDigit
  | _ => false

/-- A number with its radix, of at most 128 bits. -/
def isRadixNumber (text : List Char) : Bool :=
  let (limit, unsigned) := match text with
    | '-' :: rest => ((1 <<< 127) + 1, rest)
    | '+' :: rest => (1 <<< 128, rest)
    | other => (1 <<< 128, other)
  match Text.splitRadix unsigned with
  | some (radix, digits) =>
    match Text.ofRadix? radix digits with
    | some value => value < limit
    | none => false
  | none => false

/-- A decimal number with an optional sign. -/
def isSignedDecimal (text : List Char) : Bool :=
  match text with
  | '-' :: rest => Text.isDecimal64 rest
  | '+' :: rest => Text.isDecimal64 rest
  | other => Text.isDecimal64 other

/-- The words that are read as no finite number. -/
def infiniteWords : List String :=
  [".inf", ".Inf", ".INF", "+.inf", "+.Inf", "+.INF", "-.inf", "-.Inf", "-.INF", ".nan",
    ".NaN", ".NAN"]

/-- Whether a plain text would be read as something else than a text. -/
def readsAsOther (text : List Char) : Bool :=
  text.isEmpty || reservedWords.contains (String.ofList text) || isZeroPadded text
    || isRadixNumber text || isSignedDecimal text || infiniteWords.contains (String.ofList text)

/-! ### Characters -/

/-- Characters that break a line. -/
def isBreak (c : Char) : Bool :=
  c == '\n' || c == '\r' || c == '\u0085' || c == '\u2028' || c == '\u2029'

/-- Characters that may stand as they are. -/
def isPrintable (c : Char) : Bool :=
  let n := c.toNat
  n == 0x0A || (0x20 ≤ n && n ≤ 0x7E) || (0xA0 ≤ n && n ≠ 0xFEFF && n ≠ 0xFFFE && n ≠ 0xFFFF)

/-- Whether a blank, a break or the end of the text comes next. -/
def endsWord : List Char → Bool
  | [] => true
  | c :: _ => c == ' ' || c == '\t' || c == '\x00' || isBreak c

/-- Characters that have a meaning at the start of a text. -/
def isIndicator (c : Char) : Bool :=
  "#,[]\x7b\x7d&*!|>'\x22%@\x60".toList.contains c

/-- Whether some character behind the first one has a meaning in its place: a colon in front of a
blank, or a number sign behind one. -/
def hasInnerIndicator (before : Char) : List Char → Bool
  | [] => false
  | c :: rest =>
    (c == ':' && endsWord rest) || (c == '#' && endsWord [before]) || hasInnerIndicator c rest

/-- Whether a text has a meaning of its own where it starts or inside. -/
def hasIndicator (text : List Char) : Bool :=
  match text with
  | [] => false
  | c :: rest =>
    "---".toList.isPrefixOf text || "...".toList.isPrefixOf text || isIndicator c
      || ((c == '?' || c == ':' || c == '-') && endsWord rest) || hasInnerIndicator c rest

/-- Whether somewhere a character of one kind stands before one of another. -/
def hasPair (p q : Char → Bool) : List Char → Bool
  | [] => false
  | [_] => false
  | c :: d :: rest => (p c && q d) || hasPair p q (d :: rest)

/-! ### Styles -/

/-- How a text is written. -/
inductive TextStyle where
  | plain
  | singleQuoted
  | doubleQuoted
  /-- On lines of its own. -/
  | literal
  deriving DecidableEq, Repr

/-- The first and the last character of a text. -/
def atEnds (text : List Char) : List Char :=
  text.head?.toList ++ text.getLast?.toList

/-- How a text is written. One with line feeds stands on lines of its own if none of them ends in a
blank. -/
def styleOf (text : List Char) : TextStyle :=
  let isSpace := fun c => c == ' '
  if !text.all isPrintable || hasPair isSpace isBreak text then .doubleQuoted
  else if text.contains '\n' then
    if text.getLast? == some ' ' then .doubleQuoted else .literal
  else if hasPair isBreak isSpace text then .doubleQuoted
  else if readsAsOther text || (atEnds text).any isSpace || text.any isBreak
    || hasIndicator text then
    .singleQuoted
  else .plain

/-! ### Texts -/

/-- Blanks up to a column. -/
def blanks (column : Nat) : List Char :=
  List.replicate column ' '

/-- A text with blanks up to a column where a line starts with something. -/
def indentLines (column : Nat) (atStart : Bool) : List Char → List Char
  | [] => []
  | c :: rest =>
    if isBreak c then c :: indentLines column true rest
    else if atStart then blanks column ++ c :: indentLines column false rest
    else c :: indentLines column false rest

/-- The characters with an escape of one letter. -/
def shortEscapes : List (Char × Char) := [
  ('\x00', '0'), ('\x07', 'a'), ('\x08', 'b'), ('\t', 't'), ('\n', 'n'), ('\x0b', 'v'),
  ('\x0c', 'f'), ('\r', 'r'), ('\x1b', 'e'), ('\x22', '\x22'), ('\\', '\\'), ('\u0085', 'N'),
  ('\u2028', 'L'), ('\u2029', 'P')]

/-- How a character is written between double quotes. -/
def escapeYaml (c : Char) : List Char :=
  match shortEscapes.lookup c with
  | some letter => ['\\', letter]
  | none =>
    if isPrintable c then [c]
    else if c.toNat ≤ 0xFF then '\\' :: 'x' :: Text.upperHex 2 c.toNat
    else if c.toNat ≤ 0xFFFF then '\\' :: 'u' :: Text.upperHex 4 c.toNat
    else '\\' :: 'U' :: Text.upperHex 8 c.toNat

/-- What stands behind the sign of a text on lines of its own: a mark for blanks at its start, and
one for the breaks at its end, unless that is exactly one. -/
def literalHints (text : List Char) : List Char :=
  let front := match text with
    | c :: _ => if c == ' ' || isBreak c then ['2'] else []
    | [] => []
  let behind := match text.reverse with
    | c :: d :: _ => if !isBreak c then ['-'] else if isBreak d then ['+'] else []
    | [c] => if isBreak c then ['+'] else ['-']
    | [] => ['-']
  front ++ behind

/-- A text in some style, the further lines of which start at a column, without the end of its
line. -/
def textIn (style : TextStyle) (column : Nat) (text : List Char) : List Char :=
  match style with
  | .plain => text
  | .singleQuoted =>
    let doubled := text.flatMap fun c => if c == '\'' then ['\'', '\''] else [c]
    '\'' :: indentLines column false (doubled ++ ['\''])
  | .doubleQuoted => '\x22' :: text.flatMap escapeYaml ++ ['\x22']
  | .literal => '|' :: literalHints text ++ '\n' :: indentLines column true text

/-- The end of a line, unless a text already ends with a break. -/
def endLine (text : List Char) : List Char :=
  match text.getLast? with
  | some c => if isBreak c then text else text ++ ['\n']
  | none => ['\n']

/-- A text and the end of its line. -/
def yamlText (column : Nat) (text : List Char) : List Char :=
  endLine (textIn (styleOf text) column text)

/-- The most bytes of a key on the line of its value. -/
def simpleKeyLimit : Nat := 128

/-- A key in a record at a column, up to the colon. A long one or one with breaks has lines of its
own. -/
def yamlKey (column : Nat) (key : String) : List Char :=
  let text := key.toList
  if text.any isBreak || key.utf8ByteSize > simpleKeyLimit then
    '?' :: ' ' :: yamlText (column + 2) text ++ blanks column ++ [':']
  else textIn (styleOf text) column text ++ [':']

/-! ### Documents -/

mutual

/-- What stands behind the key of a record at a column, with the end of the line. -/
def behindKey (column : Nat) : Document → List Char
  | .text content => ' ' :: yamlText (column + 2) content.toList
  | .number value => ' ' :: (toString value).toList ++ ['\n']
  | .flag value => ' ' :: (flagText value).toList ++ ['\n']
  | .list [] => " []\n".toList
  | .list (first :: rest) => '\n' :: yamlItems column true (first :: rest)
  | .record [] => " \x7b\x7d\n".toList
  | .record (first :: rest) => '\n' :: yamlEntries (column + 2) true (first :: rest)

/-- What stands at a column behind the start of its line, with the end of the line. -/
def inLine (column : Nat) : Document → List Char
  | .text content => yamlText column content.toList
  | .number value => (toString value).toList ++ ['\n']
  | .flag value => (flagText value).toList ++ ['\n']
  | .list [] => "[]\n".toList
  | .list (first :: rest) => yamlItems column false (first :: rest)
  | .record [] => "\x7b\x7d\n".toList
  | .record (first :: rest) => yamlEntries column false (first :: rest)

/-- The items of a list at a column, the first of which may stand behind the start of its line. -/
def yamlItems (column : Nat) (atStart : Bool) : List Document → List Char
  | [] => []
  | item :: rest =>
    (if atStart then blanks column else []) ++ '-' :: ' ' :: inLine (column + 2) item
      ++ yamlItems column true rest

/-- The entries of a record at a column, the first of which may stand behind the start of its
line. -/
def yamlEntries (column : Nat) (atStart : Bool) : List (String × Document) → List Char
  | [] => []
  | (key, value) :: rest =>
    (if atStart then blanks column else []) ++ yamlKey column key ++ behindKey column value
      ++ yamlEntries column true rest

end

/-- A document in block style. -/
def yaml (d : Document) : String :=
  String.ofList (inLine 0 d)

end QueryLint.Document
