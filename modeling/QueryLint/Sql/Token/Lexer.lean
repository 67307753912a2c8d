import QueryLint.Sql.Token
import QueryLint.Text.Blank
import QueryLint.Text.Decimal

/-!
# From text to tokens

`Token.scan` reads one token or blank from the front of a text, `Token.scanAll` the whole text.
Every scanner takes the characters that are left and returns those that it leaves, so the place of a
token, or of a fault, follows from the characters before it.
-/

namespace QueryLint.Sql

/-- Text that is no token: what is wrong, and the characters from where it is wrong. -/
structure LexFault where
  message : String
  rest : List Char

namespace Token

/-- What a scanner finds: a value and the characters behind it. -/
abbrev Scanned (α : Type) := Except LexFault (α × List Char)

/-! ### Names -/

/-- Whether a name of the dialect can start with a character. -/
def startsName (d : Dialect) (c : Char) : Bool :=
  match d with
  | .generic => Text.isAlphabetic c || c == '_' || c == '#' || c == '@'
  | .mysql => c.isAlpha || c == '_' || c == '$' || c == '@' || 128 ≤ c.toNat
  | .postgresql => c.isAlpha || c == '_' || 128 ≤ c.toNat
  | .sqlite => c.isAlpha || c == '_' || (127 ≤ c.toNat && c.toNat ≤ 0xffff)

/-- Whether a name of the dialect can go on with a character. -/
def continuesName (d : Dialect) (c : Char) : Bool :=
  match d with
  | .generic => startsName d c || c.isDigit || c == '$'
  | .mysql => startsName d c || c.isDigit
  | .postgresql => startsName d c || c.isDigit || c == '$'
  | .sqlite => startsName d c || c.isDigit

/-- The word that starts with the given characters. -/
def scanWord (d : Dialect) (opening : List Char) (cs : List Char) : Token × List Char :=
  let part := continuesName d
  let name := String.ofList (opening ++ cs.takeWhile part)
  let rest := cs.dropWhile part
  if name.toList.all (fun c => c.isDigit || c == '.') then
    let isNumber := fun c : Char => c.isDigit || c == '.'
    (.number (name ++ String.ofList (rest.takeWhile isNumber)) false, rest.dropWhile isNumber)
  else (.word (.make name none), rest)

/-- A quoted name up to its closing quote, which doubled stands for itself. -/
def scanQuotedName (close : Char) : List Char → List Char → Option (String × List Char)
  | _, [] => none
  | found, [c] => if c == close then some (String.ofList found.reverse, []) else none
  | found, c :: c' :: rest =>
    if c == close then
      if c' == close then scanQuotedName close (c :: found) rest
      else some (String.ofList found.reverse, c' :: rest)
    else scanQuotedName close (c :: found) (c' :: rest)
termination_by _ cs => cs.length

/-! ### Strings -/

/-- The character that a letter after a backslash stands for in a string. -/
def backslashed (c : Char) : Char :=
  match c with
  | '0' => '\x00'
  | 'a' => '\x07'
  | 'b' => '\x08'
  | 'f' => '\x0c'
  | 'n' => '\n'
  | 'r' => '\r'
  | 't' => '\t'
  | 'Z' => '\x1a'
  | other => other

/-- A string up to its closing quote, which doubled stands for itself. A backslash may escape the
next character, and may be kept before a wildcard. -/
def scanString (quote : Char) (backslash keepsWildcard : Bool) :
    List Char → List Char → Option (String × List Char)
  | _, [] => none
  | found, c :: rest =>
    if c == quote then
      match rest with
      | [] => some (String.ofList found.reverse, [])
      | c' :: rest' =>
        if c' == quote then scanString quote backslash keepsWildcard (c :: found) rest'
        else some (String.ofList found.reverse, c' :: rest')
    else if backslash && c == '\\' then
      match rest with
      | [] => none
      | c' :: rest' =>
        if keepsWildcard && (c' == '%' || c' == '_') then
          scanString quote backslash keepsWildcard (c' :: '\\' :: found) rest'
        else scanString quote backslash keepsWildcard (backslashed c' :: found) rest'
    else scanString quote backslash keepsWildcard (c :: found) rest
termination_by _ cs => cs.length

/-- A string up to three closing quotes in a row. -/
def scanLongString (quote : Char) : List Char → List Char → Option (String × List Char)
  | found, c :: rest =>
    match rest with
    | c' :: c'' :: rest' =>
      if c == quote && c' == quote && c'' == quote then some (String.ofList found.reverse, rest')
      else scanLongString quote (c :: found) rest
    | _ => none
  | _, [] => none

/-- The value of a hexadecimal digit. -/
def hexValue? (c : Char) : Option Nat :=
  if c.isDigit then some (c.toNat - '0'.toNat)
  else if 'a' ≤ c && c ≤ 'f' then some (c.toNat - 'a'.toNat + 10)
  else if 'A' ≤ c && c ≤ 'F' then some (c.toNat - 'A'.toNat + 10)
  else none

/-- The number written by hexadecimal digits. -/
def hexNumber (digits : List Char) : Nat :=
  digits.foldl (fun n c => 16 * n + (hexValue? c).getD 0) 0

/-- The character with a code point, if there is one. -/
def charOfCode? (code : Nat) : Option Char :=
  if code < 0xd800 || (0xdfff < code && code < 0x110000) then some (Char.ofNat code) else none

/-- The number that hexadecimal digits stand for, before which a plus sign may stand. -/
def signedHexNumber? (cs : List Char) : Option Nat :=
  let digits := match cs with
    | '+' :: rest => rest
    | _ => cs
  if digits.isEmpty || !digits.all (fun c => (hexValue? c).isSome) then none
  else some (hexNumber digits)

/-- The character of one byte. -/
def charOfByte? (code : Nat) : Option Char :=
  if code % 256 ≤ 127 then some (Char.ofNat (code % 256)) else none

/-- One escape of an `E'…'` string, from behind its backslash. -/
def scanEscape : List Char → Option (Char × List Char)
  | [] => none
  | c :: rest =>
    let unicode (count : Nat) : Option (Char × List Char) :=
      if rest.length < count then none
      else
        match (signedHexNumber? (rest.take count)).bind charOfCode? with
        | some c => some (c, rest.drop count)
        | none => none
    let byte (code count : Nat) : Option (Char × List Char) :=
      (charOfByte? code).map fun c => (c, rest.drop count)
    let found := match c with
      | 'b' => some ('\x08', rest)
      | 'f' => some ('\x0c', rest)
      | 'n' => some ('\n', rest)
      | 'r' => some ('\r', rest)
      | 't' => some ('\t', rest)
      | 'u' => unicode 4
      | 'U' => unicode 8
      | 'x' =>
        let digits := (rest.take 2).takeWhile (fun c => (hexValue? c).isSome)
        if digits.isEmpty then some ('x', rest) else byte (hexNumber digits) digits.length
      | c =>
        if '0' ≤ c && c ≤ '7' then
          let more := (rest.take 2).takeWhile (fun c => '0' ≤ c && c ≤ '7')
          byte ((c :: more).foldl (fun (n : Nat) (c : Char) => 8 * n + (c.toNat - '0'.toNat)) 0)
            more.length
        else some (c, rest)
    found.filter fun (c, _) => c != '\x00'

/-- An `E'…'` string, from behind its opening quote. -/
def scanEscapeString : Nat → List Char → List Char → Option (String × List Char)
  | 0, _, _ => none
  | _, _, [] => none
  | fuel + 1, found, c :: rest =>
    if c == '\'' then
      match rest with
      | '\'' :: rest' => scanEscapeString fuel ('\'' :: found) rest'
      | _ => some (String.ofList found.reverse, rest)
    else if c == '\\' then
      match scanEscape rest with
      | some (c', rest') => scanEscapeString fuel (c' :: found) rest'
      | none => none
    else scanEscapeString fuel (c :: found) rest

/-- The character written by so many hexadecimal digits in a `U&'…'` string. -/
def scanCodePoint (count : Nat) (cs : List Char) : Scanned Char :=
  let digits := (cs.take count).takeWhile (fun c => (hexValue? c).isSome)
  let rest := cs.drop digits.length
  if digits.length == count then
    match charOfCode? (hexNumber digits) with
    | some c => .ok (c, rest)
    | none =>
      let code := String.ofList (Nat.toDigits 16 (hexNumber digits))
      .error ⟨s!"Invalid unicode character: {code}", rest⟩
  else match rest with
    | [] => .error ⟨"Unexpected EOF while parsing hex digit in escaped unicode string.", []⟩
    | c :: rest' => .error ⟨s!"Invalid hex digit in escaped unicode string: {c}", rest'⟩

/-- A `U&'…'` string, from behind its opening quote. -/
def scanUnicodeString : Nat → List Char → List Char → Scanned String
  | 0, _, _ => .error ⟨"Unterminated unicode encoded string literal", []⟩
  | _, _, [] => .error ⟨"Unterminated unicode encoded string literal", []⟩
  | fuel + 1, found, c :: rest =>
    if c == '\'' then
      match rest with
      | '\'' :: rest' => scanUnicodeString fuel ('\'' :: found) rest'
      | _ => .ok (String.ofList found.reverse, rest)
    else if c == '\\' then
      match rest with
      | '\\' :: rest' => scanUnicodeString fuel ('\\' :: found) rest'
      | _ =>
        let code := match rest with
          | '+' :: rest' => scanCodePoint 6 rest'
          | _ => scanCodePoint 4 rest
        match code with
        | .ok (c', rest') => scanUnicodeString fuel (c' :: found) rest'
        | .error fault => .error fault
    else scanUnicodeString fuel (c :: found) rest

/-- The text up to a delimiter, and what stands behind the delimiter. -/
def splitAtText (delimiter : List Char) : List Char → List Char → Option (List Char × List Char)
  | _, [] => none
  | found, c :: rest =>
    if delimiter.isPrefixOf (c :: rest) then
      some (found.reverse, (c :: rest).drop delimiter.length)
    else splitAtText delimiter (c :: found) rest

/-- What a dollar sign opens, from behind it: a placeholder or a dollar-quoted string. -/
def scanDollar (d : Dialect) (cs : List Char) : Scanned Token :=
  match cs with
  | '$' :: rest =>
    if d.dollarPlaceholders then
      let part := fun c => Text.isAlphabetic c || Text.isNumeric c || c == '_' || c == '$'
      .ok (.placeholder ("$" ++ String.ofList (cs.takeWhile part)), cs.dropWhile part)
    else match splitAtText ['$', '$'] [] rest with
      | some (content, rest') => .ok (.text (.dollar none) (String.ofList content), rest')
      | none => .error ⟨"Unterminated dollar-quoted string", []⟩
  | _ =>
    let part := fun c => Text.isAlphabetic c || Text.isNumeric c || c == '_'
      || (c == '$' && d.dollarPlaceholders)
    let name := cs.takeWhile part
    match cs.dropWhile part with
    | '$' :: rest =>
      match splitAtText ('$' :: name ++ ['$']) [] rest with
      | some (content, rest') =>
        .ok (.text (.dollar (some (String.ofList name))) (String.ofList content), rest')
      | none => .error ⟨"Unterminated dollar-quoted, expected $", []⟩
    | rest => .ok (.placeholder ("$" ++ String.ofList name), rest)

/-! ### Comments -/

/-- The text behind a comment `/* … */`, from behind its opening. -/
def skipComment (nested : Bool) : Nat → List Char → Option (List Char)
  | _, [] => none
  | depth, [_] => if depth == 0 then some [] else none
  | depth, c :: c' :: rest =>
    if nested && c == '/' && c' == '*' then skipComment nested (depth + 1) rest
    else if c == '*' && c' == '/' then
      if depth ≤ 1 then some rest else skipComment nested (depth - 1) rest
    else skipComment nested depth (c' :: rest)
termination_by _ cs => cs.length

/-- The text behind a line comment. -/
def skipLine (d : Dialect) (cs : List Char) : List Char :=
  (cs.dropWhile fun c => c != '\n' && !(c == '\r' && d == .postgresql)).drop 1

/-! ### Numbers -/

/-- The leading digits of a text; with underscores, single ones between digits belong to them. -/
def scanDigits (underscores : Bool) (isDigit : Char → Bool) : List Char → List Char × List Char
  | [] => ([], [])
  | c :: rest =>
    let separates :=
      underscores && c == '_' && (rest.head?.map (fun c => (hexValue? c).isSome)).getD false
    if isDigit c || separates then
      let (digits, rest') := scanDigits underscores isDigit rest
      (c :: digits, rest')
    else ([], c :: rest)

/-- The exponent of a number, if one follows. -/
def scanExponent (cs : List Char) : List Char × List Char :=
  match cs with
  | e :: rest =>
    if e == 'e' || e == 'E' then
      let (plusOrMinus, rest') := match rest with
        | '+' :: rest' => (['+'], rest')
        | '-' :: rest' => (['-'], rest')
        | rest' => ([], rest')
      let digits := rest'.takeWhile Char.isDigit
      if digits.isEmpty then ([], cs)
        else (e :: plusOrMinus ++ digits, rest'.dropWhile Char.isDigit)
    else ([], cs)
  | [] => ([], cs)

/-- Whether the token before is a word, which makes a period a separator of names. -/
def isWord : Option Token → Bool
  | some (.word _) => true
  | _ => false

/-- A number, a period, or a name that starts with digits. The letter of an exponent ends the digits
of a name, also where no exponent follows it. -/
def scanNumber (d : Dialect) (previous : Option Token) (cs : List Char) : Scanned Token :=
  match cs with
  | '.' :: '_' :: rest =>
    if isWord previous then .ok (.sign ".", '_' :: rest)
    else .error ⟨"Unexpected character '_'", cs⟩
  | _ =>
    let (whole, rest) := scanDigits d.numericUnderscores Char.isDigit cs
    match whole, rest with
    | ['0'], 'x' :: rest' =>
      let (digits, rest'') := scanDigits d.numericUnderscores (fun c => (hexValue? c).isSome) rest'
      .ok (.text .hex (String.ofList digits), rest'')
    | _, _ =>
      let (point, rest) := match rest with
        | '.' :: rest' => (['.'], rest')
        | rest' => ([], rest')
      if whole.isEmpty && d.numericNames && isWord previous then .ok (.sign ".", rest)
      else
        let (fraction, rest) := scanDigits d.numericUnderscores Char.isDigit rest
        let number := whole ++ point ++ fraction
        if number == ['.'] then .ok (.sign ".", rest)
        else
          let announced := rest.head? == some 'e' || rest.head? == some 'E'
          let (exponent, rest) := scanExponent rest
          let letters := rest.takeWhile (continuesName d)
          if d.numericNames && !announced && !letters.isEmpty then
            .ok (.word (.make (String.ofList (number ++ letters)) none), rest.drop letters.length)
          else if d.numericNames && announced && previous == some (.sign ".") then
            .ok (.word (.make (String.ofList (number ++ exponent)) none), rest)
          else
            let digits := String.ofList (number ++ exponent)
            match rest with
            | 'L' :: rest' => .ok (.number digits true, rest')
            | _ => .ok (.number digits false, rest)

/-! ### Operators -/

/-- An operator that goes on with further operator characters where the dialect has operators of
its users' making. -/
def scanOperator (d : Dialect) (spelling : String) (cs : List Char) : Token × List Char :=
  let more := cs.takeWhile d.isOperatorPart
  if more.isEmpty then (.sign spelling, cs)
  else (.operator (spelling ++ String.ofList more), cs.drop more.length)

/-- Operators that no operator character can extend. -/
def closedSigns : List String :=
  ["!~~*", "!~~", "!~*", "!~", "!!", "=>", "==", "::", ":=", "^@"]

/-- Operators that no operator character can extend, among those on points, lines and boxes. -/
def geometricClosedSigns : List String :=
  ["&<|", "@-@", "?||", "?|", "?&", "?-|", "?-", "?#"]

/-- Operators of several characters, longer ones before their beginnings. -/
def openSigns : List String := [
  "<=>", "->>", "#>>", "~~*", "||/", "->", "#>", "#-", "<=", "<>", "<<", "<@", ">=", ">>", "||",
  "|/", "&&", "~~", "~*"]

/-- Operators of several characters on points, lines and boxes. -/
def geometricOpenSigns : List String :=
  ["<<|", "<->", "<^", "|&>", "|>>", "&<", "##", "~=", ">^"]

/-- Beginnings of operators that are none alone. -/
def unfinishedSigns : List String := ["<-", "|&", "|>", "@-"]

/-- The characters behind a spelling, if the text starts with it. -/
def behind? (spelling : String) (cs : List Char) : Option (List Char) :=
  if spelling.toList.isPrefixOf cs then some (cs.drop spelling.length) else none

/-- The first of some spellings that the text starts with. -/
def startingSign? (signs : List String) (cs : List Char) : Option (String × List Char) :=
  signs.findSome? fun s => (behind? s cs).map fun rest => (s, rest)

/-- The beginning of an operator, which further operator characters must complete. -/
def scanUnfinished (d : Dialect) (spelling : String) (cs : List Char) : Scanned Token :=
  match scanOperator d spelling cs with
  | (.sign _, rest) => .error ⟨s!"Expected a valid binary operator after '{spelling}'", rest⟩
  | complete => .ok complete

/-- An operator on points, lines and boxes at the front of a text. `<|` is written for `<<|`, and
`&>` and a lone question mark take the character behind them along. -/
def scanGeometricSign (d : Dialect) (cs : List Char) : Option (Scanned Token) :=
  match startingSign? geometricClosedSigns cs with
  | some (s, rest) => some (.ok (.sign s, rest))
  | none =>
  match startingSign? geometricOpenSigns cs with
  | some (s, rest) => some (.ok (scanOperator d s rest))
  | none =>
  match startingSign? unfinishedSigns cs with
  | some (s, rest) => some (scanUnfinished d s rest)
  | none =>
  match cs with
  | '<' :: '|' :: rest => some (.ok (scanOperator d "<<|" rest))
  | '&' :: '>' :: rest => some (.ok (.sign "&>", rest.drop 1))
  | '?' :: rest => some (.ok (.sign "?", rest.drop 1))
  | '@' :: '@' :: rest => some (.ok (.sign "@@", rest))
  | _ => none

/-- An operator or a punctuation mark at the front of a text. -/
def scanSign (d : Dialect) (c : Char) (rest : List Char) : Option (Token × List Char) :=
  let cs := c :: rest
  match behind? "!=" cs with
  | some rest' => some (.sign "<>", rest')
  | none =>
  match startingSign? closedSigns cs with
  | some (s, rest') => some (.sign s, rest')
  | none =>
  match if d.pipeOperators then behind? "|>" cs else none with
  | some rest' => some (.sign "|>", rest')
  | none =>
  match startingSign? openSigns cs with
  | some (s, rest') => some (scanOperator d s rest')
  | none =>
  if "+*/=(),;\\[]^:!\x7b\x7d".toList.contains c then some (.sign c.toString, rest)
  else if "-%|<>&~#".toList.contains c then some (scanOperator d c.toString rest)
  else none

/-! ### Tokens -/

/-- A string token with its opening quote at the front. -/
def scanText (d : Dialect) (kind : TextKind) (quote : Char) (backslash : Bool) (cs : List Char) :
    Scanned (Option Token) :=
  match scanString quote backslash d.keepsWildcardEscapes [] (cs.drop 1) with
  | some (content, rest) => .ok (some (.text kind content), rest)
  | none => .error ⟨"Unterminated string literal", cs⟩

/-- A string without escapes between single or triple quotes, from its opening quotes on. Two quotes
are an empty string. -/
def scanRawText (d : Dialect) (kind long : TextKind) (quote : Char) (cs : List Char) :
    Scanned (Option Token) :=
  let behind (opening : Nat) : LexFault := ⟨"Unterminated string literal", cs.drop opening⟩
  match ((cs.take 3).takeWhile (· == quote)).length with
  | 3 =>
    match scanLongString quote [] (cs.drop 3) with
    | some (content, rest) => .ok (some (.text long content), rest)
    | none => .error (behind 3)
  | 2 => .ok (some (.text kind ""), cs.drop 2)
  | _ =>
    match scanString quote false d.keepsWildcardEscapes [] (cs.drop 1) with
    | some (content, rest) => .ok (some (.text kind content), rest)
    | none => .error (behind 1)

/-- A blank in the place of a token. -/
def blank (rest : List Char) : Scanned (Option Token) :=
  .ok (none, rest)

/-- A token that needs no further look. -/
def found (result : Token × List Char) : Scanned (Option Token) :=
  .ok (some result.1, result.2)

/-- What an at sign opens: an operator or, where names can start so, a name. -/
def scanAt (d : Dialect) (rest : List Char) : Token × List Char :=
  let name (opening : List Char) (cs : List Char) : Option (Token × List Char) :=
    match cs with
    | c :: cs' => if startsName d '@' then some (scanWord d (opening ++ [c]) cs') else none
    | [] => none
  match rest with
  | '>' :: rest' => (.sign "@>", rest')
  | '?' :: rest' => (.sign "@?", rest')
  | '@' :: rest' =>
    match rest' with
    | ' ' :: _ => (.sign "@@", rest')
    | _ => (name ['@', '@'] rest').getD (.sign "@@", rest')
  | c :: _ =>
    if c == ' ' || c == '\'' || c == '\x22' || c == '\x60' then (.sign "@", rest)
    else (name ['@'] rest).getD (.sign "@", rest)
  | [] => (.sign "@", rest)

/-- A literal that a letter before a quote announces. -/
def scanAnnounced (d : Dialect) (c : Char) (rest : List Char) : Option (Scanned (Option Token)) :=
  let letter := c.toUpper
  match rest with
  | '\'' :: rest' =>
    if letter == 'B' && d.byteStrings then some (scanText d .byteSingle '\'' false rest)
    else if letter == 'R' && d.rawStrings then
      some (scanRawText d .rawSingle .longRawSingle '\'' rest)
    else if letter == 'N' then some (scanText d .national '\'' d.backslashEscapes rest)
    else if letter == 'E' && d.escapeStrings then
      match scanEscapeString (rest.length + 1) [] rest' with
      | some (content, rest'') => some (.ok (some (.text .escape content), rest''))
      | none => some (.error ⟨"Unterminated encoded string literal", c :: rest⟩)
    else if letter == 'X' then some (scanText d .hex '\'' true rest)
    else none
  | '\x22' :: _ =>
    if letter == 'B' && d.byteStrings then some (scanText d .byteDouble '\x22' false rest)
    else if letter == 'R' && d.rawStrings then
      some (scanRawText d .rawDouble .longRawDouble '\x22' rest)
    else none
  | '&' :: '\'' :: rest' =>
    if letter == 'U' && d.unicodeStrings then
      some ((scanUnicodeString (rest.length + 1) [] rest').map fun (content, rest'') =>
        (some (.text .unicode content), rest''))
    else none
  | _ => none

/-- One token, or a blank, at the front of a text that is not empty; the token before decides how a
period is read. -/
def scan (d : Dialect) (previous : Option Token) (c : Char) (rest : List Char) :
    Scanned (Option Token) :=
  match scanAnnounced d c rest with
  | some result => result
  | none =>
  if c == ' ' || c == '\t' || c == '\n' then blank rest
  else if c == '\r' then
    match rest with
    | '\n' :: rest' => blank rest'
    | _ => blank rest
  else if c == '\'' then scanText d .single '\'' d.backslashEscapes (c :: rest)
  else if c == '\x22' && !d.opensQuotedName c then
    scanText d .double c d.backslashEscapes (c :: rest)
  else if d.opensQuotedName c then
    let close := Word.closingQuote c
    match scanQuotedName close [] rest with
    | some (name, rest') => .ok (some (.word (.make name (some c))), rest')
    | none => .error ⟨s!"Expected close delimiter '{close}' before EOF.", c :: rest⟩
  else if c.isDigit || c == '.' then
    (scanNumber d previous (c :: rest)).map fun (token, rest') => (some token, rest')
  else if c == '-' && rest.head? == some '-'
      && (!d.dashCommentNeedsBlank || (rest.drop 1).head? == some ' ') then
    blank (skipLine d (rest.drop 1))
  else if c == '/' && rest.head? == some '*' then
    match skipComment d.nestedComments 1 (rest.drop 1) with
    | some rest' => blank rest'
    | none => .error ⟨"Unexpected EOF while in a multi-line comment", []⟩
  else if c == '/' && rest.head? == some '/' && d == .generic then found (.sign "//", rest.drop 1)
  else if c == '#' && d.hashComments then blank (skipLine d rest)
  else if c == '#' && startsName d '#'
    && (rest.head?.map fun c => c != ' ' && c != '-' && c != '>').getD false then
    found (scanWord d (c :: rest.take 1) (rest.drop 1))
  else match if d.geometricOperators then scanGeometricSign d (c :: rest) else none with
  | some result => result.map fun (token, rest') => (some token, rest')
  | none =>
  if c == '@' then found (scanAt d rest)
  else if c == '%' && (rest.head?.map Text.isBlank).getD false then found (.sign "%", rest)
  else if c == '?' then
    found (.placeholder ("?" ++ String.ofList (rest.takeWhile Text.isNumeric)),
      rest.dropWhile Text.isNumeric)
  else match scanSign d c rest with
    | some result => found result
    | none =>
      if startsName d c then found (scanWord d [c] rest)
      else if c == '$' then (scanDollar d rest).map fun (token, rest') => (some token, rest')
      else if Text.isBlank c then blank rest
      else found (.stray c, rest)

/-- The tokens of a text from a place on, given the token before, behind the blanks that the text
opens with. The fuel bounds the number of tokens and blanks. -/
def scanFrom (d : Dialect) :
    Nat → Option Token → Place → List Char → Except (String × Place) (List Blank × List Lexeme)
  | _, _, _, [] => .ok ([], [])
  | 0, _, _, _ => .ok ([], [])
  | fuel + 1, previous, place, c :: rest =>
    let taken (cs : List Char) : List Char := (c :: rest).take (rest.length + 1 - cs.length)
    match scan d previous c rest with
    | .error fault => .error (fault.message, place.after (taken fault.rest))
    | .ok (none, rest') =>
      (scanFrom d fuel none (place.after (taken rest')) rest').map fun (blanks, lexemes) =>
        (.ofChars place (taken rest') :: blanks, lexemes)
    | .ok (some token, rest') =>
      (scanFrom d fuel (some token) (place.after (taken rest')) rest').map fun (blanks, lexemes) =>
        ([], { token, place, blanks } :: lexemes)

/-- All tokens of a text. -/
def scanAll (d : Dialect) (text : List Char) : Except (String × Place) (List Lexeme) :=
  (scanFrom d (text.length + 1) none .start text).map Prod.snd

end Token

end QueryLint.Sql
