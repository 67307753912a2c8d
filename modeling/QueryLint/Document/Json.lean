import QueryLint.Document

/-!
# Documents as JSON

A document is written on one line (`compact`), or with one value on each line (`pretty`). Texts are
quoted by `quote`, which leaves every character but quotes, backslashes and control characters as it
is.
-/

namespace QueryLint.Document

/-! ### Texts -/

/-- The lower-case digit of a number below 16. -/
def hexDigit (n : Nat) : Char :=
  if n < 10 then Char.ofNat ('0'.toNat + n) else Char.ofNat ('a'.toNat + (n - 10))

/-- How a character is written between quotes. -/
def escapeChar (c : Char) : List Char :=
  if c == '\x22' then ['\\', '\x22']
  else if c == '\\' then ['\\', '\\']
  else if c == '\x08' then ['\\', 'b']
  else if c == '\x0c' then ['\\', 'f']
  else if c == '\n' then ['\\', 'n']
  else if c == '\r' then ['\\', 'r']
  else if c == '\t' then ['\\', 't']
  else if c.toNat < 32 then ['\\', 'u', '0', '0', hexDigit (c.toNat / 16), hexDigit (c.toNat % 16)]
  else [c]

/-- A text between quotes. -/
def quote (content : List Char) : List Char :=
  '\x22' :: content.flatMap escapeChar ++ ['\x22']

/-- A text between quotes. -/
def quoteText (content : String) : String :=
  String.ofList (quote content.toList)

/-! ### On one line -/

mutual

/-- A document on one line, without blanks. -/
def compact : Document → String
  | .text content => quoteText content
  | .number value => toString value
  | .flag value => flagText value
  | .list items => "[" ++ String.intercalate "," (compactItems items) ++ "]"
  | .record entries => "\x7b" ++ String.intercalate "," (compactEntries entries) ++ "\x7d"

/-- The items of a list, each on one line. -/
def compactItems : List Document → List String
  | [] => []
  | item :: rest => compact item :: compactItems rest

/-- The entries of a record, each on one line. -/
def compactEntries : List (String × Document) → List String
  | [] => []
  | (key, value) :: rest => (quoteText key ++ ":" ++ compact value) :: compactEntries rest

end

/-! ### On many lines -/

/-- The start of a line so many levels deep. -/
def lineAt (level : Nat) : String :=
  "\n" ++ String.ofList (List.replicate (2 * level) ' ')

mutual

/-- A document with one value on each line, so many levels deep. -/
def prettyAt (level : Nat) : Document → String
  | .text content => quoteText content
  | .number value => toString value
  | .flag value => flagText value
  | .list [] => "[]"
  | .list (first :: rest) =>
    "[" ++ String.intercalate "," (prettyItems (level + 1) (first :: rest)) ++ lineAt level ++ "]"
  | .record [] => "\x7b\x7d"
  | .record (first :: rest) =>
    "\x7b" ++ String.intercalate "," (prettyEntries (level + 1) (first :: rest)) ++ lineAt level
      ++ "\x7d"

/-- The items of a list, each on lines of its own. -/
def prettyItems (level : Nat) : List Document → List String
  | [] => []
  | item :: rest => (lineAt level ++ prettyAt level item) :: prettyItems level rest

/-- The entries of a record, each on lines of its own. -/
def prettyEntries (level : Nat) : List (String × Document) → List String
  | [] => []
  | (key, value) :: rest =>
    (lineAt level ++ quoteText key ++ ": " ++ prettyAt level value) :: prettyEntries level rest

end

/-- A document with one value on each line. -/
def pretty (d : Document) : String :=
  prettyAt 0 d

end QueryLint.Document
