/-!
# Why a text is not the JSON that was due

The causes for which a JSON text is rejected, and their wording. A text may break the grammar of
JSON, or be JSON of another shape than was due.
-/

namespace QueryLint.Json

/-- What stands in a text where something else was due. -/
inductive Found where
  | null
  | flag (value : Bool)
  | whole (value : Int)
  /-- A number with a point, an exponent or too many digits. -/
  | fraction (spelling : String)
  | text (content : String)
  | list
  | object
  deriving DecidableEq, Repr

/-- Why a text is rejected. -/
inductive Fault where
  /-- The text ends inside a list, an object, a text, or where a value was due. -/
  | endInList
  | endInObject
  | endInText
  | endInValue
  | colonDue
  | listCommaDue
  | objectCommaDue
  | valueDue
  /-- A word is neither `null` nor `true` nor `false`. -/
  | unknownWord
  | badEscape
  | badNumber
  | numberTooLarge
  /-- One half of a surrogate pair stands alone. -/
  | loneSurrogate
  /-- The second half of a surrogate pair is due. -/
  | secondSurrogateDue
  | controlCharacter
  | keyNotText
  | trailingComma
  | trailingCharacters
  | wrongType (found : Found) (due : String)
  | wrongValue (found : Found) (due : String)
  | wrongLength (length : Nat) (due : String)
  | unknownName (name : String) (known : List String)
  | missingField (key : String)
  | repeatedField (key : String)
  deriving DecidableEq, Repr

/-! ### Wording -/

/-- A text between grave accents. -/
def marked (text : String) : String := "\x60" ++ text ++ "\x60"

/-- How a character is spelled in a message. -/
def spellChar (c : Char) : List Char :=
  if c == '\x00' then ['\\', '0']
  else if c == '\t' then ['\\', 't']
  else if c == '\r' then ['\\', 'r']
  else if c == '\n' then ['\\', 'n']
  else if c == '\x22' || c == '\\' then ['\\', c]
  else if c.toNat < 32 || (127 ≤ c.toNat && c.toNat < 160) then
    '\\' :: 'u' :: '\x7b' :: Nat.toDigits 16 c.toNat ++ ['\x7d']
  else [c]

namespace Found

/-- What was found, in words. -/
def words : Found → String
  | null => "null"
  | flag value => "boolean " ++ marked (if value then "true" else "false")
  | whole value => "integer " ++ marked (toString value)
  | fraction spelling => "floating point " ++ marked spelling
  | text content => "string \x22" ++ String.ofList (content.toList.flatMap spellChar) ++ "\x22"
  | list => "sequence"
  | object => "map"

end Found

namespace Fault

/-- The wording of a fault. -/
def message : Fault → String
  | endInList => "EOF while parsing a list"
  | endInObject => "EOF while parsing an object"
  | endInText => "EOF while parsing a string"
  | endInValue => "EOF while parsing a value"
  | colonDue => "expected " ++ marked ":"
  | listCommaDue => "expected " ++ marked "," ++ " or " ++ marked "]"
  | objectCommaDue => "expected " ++ marked "," ++ " or " ++ marked "\x7d"
  | valueDue => "expected value"
  | unknownWord => "expected ident"
  | badEscape => "invalid escape"
  | badNumber => "invalid number"
  | numberTooLarge => "number out of range"
  | loneSurrogate => "lone leading surrogate in hex escape"
  | secondSurrogateDue => "unexpected end of hex escape"
  | controlCharacter =>
    "control character (\\u0000-\\u001F) found while parsing a string"
  | keyNotText => "key must be a string"
  | trailingComma => "trailing comma"
  | trailingCharacters => "trailing characters"
  | wrongType found due => s!"invalid type: {found.words}, expected {due}"
  | wrongValue found due => s!"invalid value: {found.words}, expected {due}"
  | wrongLength length due => s!"invalid length {length}, expected {due}"
  | unknownName name known =>
    let listed := String.intercalate ", " (known.map marked)
    "unknown variant " ++ marked name ++ ", expected one of " ++ listed
  | missingField key => "missing field " ++ marked key
  | repeatedField key => "duplicate field " ++ marked key

end Fault

end QueryLint.Json
