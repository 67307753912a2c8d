import QueryLint.Sql.Grammar.Basic
import QueryLint.Sql.Keyword.Words
import QueryLint.Sql.Printer

/-!
# Literals

Readers for literal values and placeholders, for whole numbers of bounded size, and for strings in
places where only a string will do.
-/

namespace QueryLint.Sql

namespace Reader

/-! ### Values -/

/-- The strings that directly follow a string and belong to it, in dialects that join them. -/
def joinedStrings : Nat → Reader String
  | 0 => return ""
  | fuel + 1 => do
    match ← peekToken with
    | some (.text .single content) | some (.text .double content) =>
      let _ ← advance
      return content ++ (← joinedStrings fuel)
    | _ => return ""

/-- A string with those that are joined to it. -/
def joined (content : String) : Reader String := do
  if ← trait Dialect.joinsStringLiterals then
    return content ++ (← joinedStrings (← size))
  else return content

/-- A placeholder: a colon or an at sign and a name that no blank separates from it. -/
def signedPlaceholder (opening : String) (l : Lexeme) : Reader Value := do
  let _ ← advance
  match l.blanks, ← peekToken with
  | blank :: _, _ => throw (.apart "placeholder" blank)
  | [], some (.word w) =>
    let _ ← advance
    return .placeholder (opening ++ w.value)
  | [], some (.number digits false) =>
    let _ ← advance
    return .placeholder (opening ++ digits)
  | [], _ => expected "placeholder"

/-- The literal that a string token is. -/
def textValue (kind : TextKind) (content : String) : Value :=
  match kind with
  | .single => .single content
  | .double => .double content
  | .dollar tag => .dollar tag content
  | .escape => .escape content
  | .unicode => .unicode content
  | .national => .national content
  | .hex => .hex content
  | .byteSingle => .byteSingle content
  | .byteDouble => .byteDouble content
  | .rawSingle => .rawSingle content
  | .rawDouble => .rawDouble content
  | .longRawSingle => .longRawSingle content
  | .longRawDouble => .longRawDouble content

/-- A literal or a placeholder. -/
def value : Reader Value := do
  let taken (v : Value) : Reader Value := do
    let _ ← advance
    return v
  match ← peek with
  | none => expected "a value"
  | some l =>
    match l.token with
    | .word w =>
      if w.keyword == "TRUE" then taken (.boolean true)
      else if w.keyword == "FALSE" then taken (.boolean false)
      else if w.keyword == "NULL" then taken .null
      else if w.quote == some '\x22' then taken (.double w.value)
      else if w.quote.isSome then expected "A value?"
      else expected "a concrete value"
    | .number digits long => taken (.number digits long)
    | .text .single content =>
      let _ ← advance
      return .single (← joined content)
    | .text .double content =>
      let _ ← advance
      return .double (← joined content)
    | .text kind content => taken (textValue kind content)
    | .placeholder name => taken (.placeholder name)
    | .sign s => if s == ":" || s == "@" then signedPlaceholder s l else expected "a value"
    | _ => expected "a value"

/-- The text of a literal or a placeholder. -/
def valueText : Reader String := do
  return (← value).render

/-- The literal that introduces a character set takes one string alone. -/
def introducedValue : Reader Value := do
  match ← peekToken with
  | some (.text kind content) =>
    let _ ← advance
    return textValue kind content
  | _ => value

/-! ### Numbers -/

/-- A fault at the last token taken since the given start, where something else was due. -/
def behindLast {α : Type} (what : String) (start : List Lexeme) : Reader α := do
  let taken := start.length - (← size)
  setLeft (start.drop (taken - 1))
  expected what

/-- A number or a placeholder. Anything else is a fault at its last token. -/
def numberValue : Reader String := do
  let start ← left
  match ← value with
  | .number digits long => return (Value.number digits long).render
  | .placeholder name => return name
  | _ => behindLast "literal number" start

/-- A number or a placeholder, with its sign. -/
def signedNumberText : Reader String := do
  if ← sign "+" then return "+" ++ (← numberValue)
  else if ← sign "-" then return "-" ++ (← numberValue)
  else numberValue

/-- The whole number below a limit that digits stand for. Digits are taken from the left, so a
number that is too large is told before what is no digit behind it. -/
def wholeNumber (typeName digits : String) (limit : Nat) (start : Place) : Reader Nat := do
  let run := digits.toList.takeWhile Char.isDigit
  let n := (String.ofList run).toNat?.getD 0
  if limit ≤ n then
    broken s!"Could not parse '{digits}' as {typeName}: number too large to fit in target type"
      start
  else if run.length == digits.length then return n
  else broken s!"Could not parse '{digits}' as {typeName}: invalid digit found in string" start

/-- A number without sign, fraction or exponent. -/
def naturalNumber : Reader String := do
  let start ← place
  match ← peekToken with
  | some (.number digits _) =>
    let _ ← advance
    return toString (← wholeNumber "u64" digits Text.limit64 start)
  | _ => expected "literal int"

/-- A whole number with an optional sign. A sign in front of zero is dropped. -/
def signedNumber : Reader String := do
  let negative ← sign "-"
  unless negative do
    let _ ← sign "+"
  let start ← place
  match ← peekToken with
  | some (.number digits _) =>
    let _ ← advance
    let n ← wholeNumber "i64" digits (1 <<< 63) start
    return toString (if negative then -(n : Int) else n)
  | _ => expected "number"

/-! ### Strings -/

/-- A string, or a word that is no keyword in the place of one. -/
def literalString : Reader String := do
  let found (content : String) : Reader String := do
    let _ ← advance
    return content
  match ← peekToken with
  | some (.word w) =>
    if Keyword.isWord w.keyword then expected "literal string" else found w.value
  | some (.text .single content) | some (.text .double content)
  | some (.text .unicode content) => found content
  | some (.text .escape content) =>
    if ← trait Dialect.escapeStrings then found content else expected "literal string"
  | _ => expected "literal string"

/-- A string in single quotes, its own quotes not doubled. -/
def plainString : Reader String := do
  return s!"'{← literalString}'"

/-- The names in a list, in parentheses with the given text before them; nothing for none. -/
def listed (before : String) (names : List Ident) : String :=
  if names.isEmpty then "" else s!"{before}({commaSeparated (names.map Ident.render)})"

/-- A string in single quotes. -/
def quotedString : Reader String := do
  return quoted '\'' (← literalString)

end Reader

end QueryLint.Sql
