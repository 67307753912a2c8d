import QueryLint.Json.Fault
import QueryLint.Text.Binary64
import QueryLint.Text.Numeral

/-!
# Reading JSON

A reader takes the text that is left and either yields a value with the text behind it, or the first
fault. The caller says what is due, so that a value of another type is a fault where it starts.
Values that nobody asked for are passed over by `skipValue`.
-/

namespace QueryLint.Json

/-- A reader of JSON. -/
abbrev Reader (α : Type) := StateT (List Char) (Except Fault) α

namespace Reader

/-! ### Characters -/

/-- Characters that may stand between tokens. -/
def isGap (c : Char) : Bool :=
  c == ' ' || c == '\n' || c == '\t' || c == '\r'

/-- The next character. -/
def peek : Reader (Option Char) := do
  return (← get).head?

/-- The next character that is no gap, in front of which the reader then stands. -/
def peekToken : Reader (Option Char) := do
  set ((← get).dropWhile isGap)
  peek

/-- Takes the next character. -/
def advance : Reader (Option Char) := do
  let text ← get
  set (text.drop 1)
  return text.head?

/-- Takes the next character, given the fault for the end of the text. -/
def take (atEnd : Fault) : Reader Char := do
  match ← advance with
  | some c => return c
  | none => throw atEnd

/-- Takes a run of digits. -/
def digits : Reader (List Char) := do
  let text ← get
  set (text.dropWhile Char.isDigit)
  return text.takeWhile Char.isDigit

/-! ### Texts -/

/-- Takes four hexadecimal digits. What follows counts in bytes of UTF-8. -/
def fourDigits : Reader Nat := do
  let text ← get
  match (text.take 4).mapM (Text.digitValue? 16), text.drop 3 with
  | some values, _ :: _ =>
    set (text.drop 4)
    return values.foldl (fun n v => n * 16 + v) 0
  | _, _ =>
    if (String.ofList (text.take 4)).utf8ByteSize < 4 then throw .endInText else throw .badEscape

/-- Whether a number is the first half of a surrogate pair. -/
def isFirstHalf (n : Nat) : Bool := 0xD800 ≤ n && n ≤ 0xDBFF

/-- Whether a number is the second half of a surrogate pair. -/
def isSecondHalf (n : Nat) : Bool := 0xDC00 ≤ n && n ≤ 0xDFFF

/-- Takes the number of a character behind `\u`. -/
def codePoint : Reader Char := do
  let n ← fourDigits
  if isSecondHalf n then throw .loneSurrogate
  else if !isFirstHalf n then return Char.ofNat n
  else
    unless (← take .endInText) == '\\' do throw .secondSurrogateDue
    unless (← take .endInText) == 'u' do throw .secondSurrogateDue
    let m ← fourDigits
    unless isSecondHalf m do throw .loneSurrogate
    return Char.ofNat (0x10000 + (n - 0xD800) * 0x400 + (m - 0xDC00))

/-- The escapes of one letter. -/
def letterEscape? : Char → Option Char
  | '\x22' => some '\x22'
  | '\\' => some '\\'
  | '/' => some '/'
  | 'b' => some '\x08'
  | 'f' => some '\x0c'
  | 'n' => some '\n'
  | 'r' => some '\r'
  | 't' => some '\t'
  | _ => none

/-- Takes the rest of an escape behind the backslash. If the text is only passed over, surrogates
need not be in pairs. -/
def escape (skipped : Bool) : Reader Char := do
  let c ← take .endInText
  if c == 'u' then
    if skipped then
      let _ ← fourDigits
      return ' '
    else codePoint
  else match letterEscape? c with
    | some meant => return meant
    | none => throw .badEscape

/-- Takes the characters of a text up to its closing quote; the fuel bounds their number. -/
def textFrom (skipped : Bool) : Nat → Reader (List Char)
  | 0 => throw .endInText
  | fuel + 1 => do
    let c ← take .endInText
    if c == '\x22' then return []
    else if c == '\\' then
      let meant ← escape skipped
      return meant :: (← textFrom skipped fuel)
    else if c.toNat < 32 then throw .controlCharacter
    else return c :: (← textFrom skipped fuel)

/-- Takes a text from behind its opening quote. -/
def textBehindQuote (skipped : Bool) : Reader String := do
  return String.ofList (← textFrom skipped ((← get).length + 1))

/-! ### Numbers -/

/-- A number as it was read. -/
inductive Number where
  | whole (value : Int)
  | fraction (spelling : String)
  deriving DecidableEq, Repr

/-- A number with one more digit, the number of digits it took, and whether it took all so far. The
first digit that makes it too large for 64 bits and all behind it are not taken. -/
def appendDigit (found : Nat × Nat × Bool) (c : Char) : Nat × Nat × Bool :=
  let (n, count, complete) := found
  let next := n * 10 + (c.toNat - '0'.toNat)
  if complete && next < Text.limit64 then (next, count + 1, true) else (n, count, false)

/-- The number of the first digits of a run, and how many digits do not fit into 64 bits with
them. -/
def leading64 (digits : List Char) : Nat × Nat :=
  let (n, count, _) := digits.foldl appendDigit (0, 0, true)
  (n, digits.length - count)

/-- A number divided by powers of ten below `10 ^ -308`; the fuel bounds the divisions. -/
def divide (f : Float) (power : Nat) : Nat → Float
  | 0 => f
  | fuel + 1 =>
    if power ≤ 308 then f / Float.ofScientific 1 false power
    else divide (f / Float.ofScientific 1 false 308) (power - 308) fuel

/-- The number `mantissa * 10 ^ exponent` in binary64, computed by one product or quotient. -/
def scaled (negative : Bool) (mantissa : Nat) (exponent : Int) : Reader Number := do
  let f := mantissa.toUInt64.toFloat
  let signed := fun (f : Float) =>
    Number.fraction (String.ofList (Text.spellFloat (if negative then -f else f)))
  if exponent < 0 then return signed (divide f exponent.natAbs 4)
  else if mantissa == 0 then return signed f
  else if exponent > 308 then throw .numberTooLarge
  else
    let product := f * Float.ofScientific 1 false exponent.toNat
    if product.isInf then throw .numberTooLarge else return signed product

/-- Takes the exponent of a number, from its `e`. -/
def exponent : Reader Int := do
  let _ ← advance
  let negative := (← peek) == some '-'
  if negative || (← peek) == some '+' then
    let _ ← advance
  match ← peek with
  | none => throw .endInValue
  | some c =>
    unless c.isDigit do throw .badNumber
    let n := Text.ofDigits (← digits)
    return if negative then -(n : Int) else n

/-- Takes an exponent, if there is one, and scales a number by it. -/
def scaledByExponent (negative : Bool) (mantissa : Nat) (shift : Int) : Reader Number := do
  match ← peek with
  | some c =>
    if c == 'e' || c == 'E' then scaled negative mantissa (shift + (← exponent))
    else scaled negative mantissa shift
  | none => scaled negative mantissa shift

/-- Takes the digits behind a point, and an exponent. -/
def fractionOf (negative : Bool) (mantissa dropped : Nat) : Reader Number := do
  let _ ← advance
  let fraction ← digits
  if fraction.isEmpty then
    if (← peek).isNone then throw .endInValue else throw .badNumber
  else
    let (mantissa, kept, _) := fraction.foldl appendDigit (mantissa, 0, true)
    scaledByExponent negative mantissa ((dropped : Int) - kept)

/-- Takes a number from behind its sign. -/
def unsigned (negative : Bool) : Reader Number := do
  match ← peek with
  | none => throw .endInValue
  | some c =>
    unless c.isDigit do throw .badNumber
    let whole ← digits
    if c == '0' && whole.length > 1 then throw .badNumber
    let (mantissa, dropped) := leading64 whole
    match ← peek with
    | some '.' => fractionOf negative mantissa dropped
    | some 'e' => scaledByExponent negative mantissa dropped
    | some 'E' => scaledByExponent negative mantissa dropped
    | _ =>
      if dropped > 0 then scaled negative mantissa dropped
      else if !negative then return .whole mantissa
      else if mantissa == 0 || mantissa > 1 <<< 63 then scaled true mantissa 0
      else return .whole (-(mantissa : Int))

/-- Takes a number. -/
def number : Reader Number := do
  if (← peek) == some '-' then
    let _ ← advance
    unsigned true
  else unsigned false

/-- What was found where a number stands. -/
def Number.found : Number → Found
  | whole value => .whole value
  | fraction spelling => .fraction spelling

/-! ### Values that are due -/

/-- Takes the rest of a word. -/
def restOfWord (rest : List Char) : Reader Unit :=
  rest.forM fun c => do
    unless (← take .endInValue) == c do throw .unknownWord

/-- The fault for a value of another type than was due. -/
def wrongType {α : Type} (due : String) : Reader α := do
  let found : Found ← match ← peek with
    | none => throw .endInValue
    | some '[' => pure .list
    | some '\x7b' => pure .object
    | some '\x22' => do
      let _ ← advance
      pure (.text (← textBehindQuote false))
    | some c =>
      if c == '-' || c.isDigit then pure (← number).found
      else if c == 'n' then do restOfWord "null".toList; pure .null
      else if c == 't' then do restOfWord "true".toList; pure (.flag true)
      else if c == 'f' then do restOfWord "false".toList; pure (.flag false)
      else throw .valueDue
  throw (.wrongType found due)

/-- Takes a text, which is due as something. -/
def textAs (due : String) : Reader String := do
  match ← peekToken with
  | some '\x22' =>
    let _ ← advance
    textBehindQuote false
  | _ => wrongType due

/-- Takes a text. -/
def text : Reader String := textAs "a string"

/-- Takes a number of 64 bits. -/
def natural64 : Reader Nat := do
  let due := "u64"
  match ← peekToken with
  | some c =>
    if c == '-' || c.isDigit then
      match ← number with
      | .whole (.ofNat n) => return n
      | .whole value => throw (.wrongValue (.whole value) due)
      | .fraction spelling => throw (.wrongType (.fraction spelling) due)
    else wrongType due
  | none => throw .endInValue

/-- Takes `null`, which is due as something. -/
def nullAs (due : String) : Reader Unit := do
  match ← peekToken with
  | some 'n' => restOfWord "null".toList
  | _ => wrongType due

/-! ### Values that are passed over -/

/-- Passes over the digits behind a point and an exponent. -/
def skipFraction : Reader Unit := do
  if (← peek) == some '.' then
    let _ ← advance
    if (← digits).isEmpty then throw .badNumber
  if (← peek) == some 'e' || (← peek) == some 'E' then
    let _ ← advance
    if (← peek) == some '+' || (← peek) == some '-' then
      let _ ← advance
    if (← digits).isEmpty then throw .badNumber

/-- Passes over a number. -/
def skipNumber : Reader Unit := do
  if (← peek) == some '-' then
    let _ ← advance
  let whole ← digits
  if whole.isEmpty || (whole.head? == some '0' && whole.length > 1) then throw .badNumber
  skipFraction

/-- Takes a key and its colon. -/
def keyAndColon (skipped : Bool) : Reader String := do
  match ← peekToken with
  | none => throw .endInObject
  | some '\x22' =>
    let _ ← advance
    let key ← textBehindQuote skipped
    match ← peekToken with
    | none => throw .endInObject
    | some ':' =>
      let _ ← advance
      return key
    | some _ => throw .colonDue
  | some _ => throw .keyNotText

mutual

/-- Passes over a value; the fuel bounds the number of its parts. -/
def skipValueWith : Nat → Reader Unit
  | 0 => throw .endInValue
  | fuel + 1 => do
    match ← peekToken with
    | none => throw .endInValue
    | some '\x22' =>
      let _ ← advance
      let _ ← textBehindQuote true
    | some '[' =>
      let _ ← advance
      if (← peekToken) == some ']' then
        let _ ← advance
      else skipItems fuel
    | some '\x7b' =>
      let _ ← advance
      if (← peekToken) == some '\x7d' then
        let _ ← advance
      else skipEntries fuel
    | some c =>
      if c == '-' || c.isDigit then skipNumber
      else if c == 'n' then restOfWord "null".toList
      else if c == 't' then restOfWord "true".toList
      else if c == 'f' then restOfWord "false".toList
      else throw .valueDue

/-- Passes over the items of a list up to its end. -/
def skipItems : Nat → Reader Unit
  | 0 => throw .endInList
  | fuel + 1 => do
    if (← peekToken).isNone then throw .endInList
    skipValueWith fuel
    match ← peekToken with
    | none => throw .endInList
    | some ',' =>
      let _ ← advance
      if (← peekToken).isNone then throw .endInValue
      skipItems fuel
    | some ']' =>
      let _ ← advance
    | some _ => throw .listCommaDue

/-- Passes over the entries of an object up to its end. -/
def skipEntries : Nat → Reader Unit
  | 0 => throw .endInObject
  | fuel + 1 => do
    let _ ← keyAndColon true
    skipValueWith fuel
    match ← peekToken with
    | none => throw .endInObject
    | some ',' =>
      let _ ← advance
      skipEntries fuel
    | some '\x7d' =>
      let _ ← advance
    | some _ => throw .objectCommaDue

end

/-- Passes over a value. -/
def skipValue : Reader Unit := do
  skipValueWith ((← get).length + 1)

/-! ### Lists and objects -/

/-- Whether a list has another item, in front of which the reader then stands. -/
def hasItem (first : Bool) : Reader Bool := do
  match ← peekToken with
  | none => throw .endInList
  | some ']' => return false
  | some c =>
    if first then return true
    else if c != ',' then throw .listCommaDue
    else
      let _ ← advance
      match ← peekToken with
      | none => throw .endInValue
      | some ']' => throw .trailingComma
      | some _ => return true

/-- Whether an object has another entry, in front of which the reader then stands. -/
def hasEntry (first : Bool) : Reader Bool := do
  match ← peekToken with
  | none => throw .endInObject
  | some '\x7d' => return false
  | some c =>
    if first then
      if c == '\x22' then return true else throw .keyNotText
    else if c != ',' then throw .objectCommaDue
    else
      let _ ← advance
      match ← peekToken with
      | none => throw .endInValue
      | some '\x22' => return true
      | some '\x7d' => throw .trailingComma
      | some _ => throw .keyNotText

/-- Takes the entries of an object, each of which changes what was read so far; the fuel bounds
their number. -/
def entriesFrom {σ : Type} (entry : String → σ → Reader σ) : Nat → Bool → σ → Reader σ
  | 0, _, _ => throw .endInObject
  | fuel + 1, first, found => do
    if ← hasEntry first then
      let key ← keyAndColon false
      entriesFrom entry fuel false (← entry key found)
    else return found

/-- Takes the entries of an object up to its closing brace, from behind the opening one. -/
def entries {σ : Type} (entry : String → σ → Reader σ) (start : σ) : Reader σ := do
  entriesFrom entry ((← get).length + 1) true start

/-- Takes the closing bracket of a list. -/
def closeList : Reader Unit := do
  match ← peekToken with
  | some ']' =>
    let _ ← advance
  | some ',' =>
    let _ ← advance
    if (← peekToken) == some ']' then throw .trailingComma else throw .trailingCharacters
  | some _ => throw .trailingCharacters
  | none => throw .endInList

/-- The value of a whole text. -/
def whole {α : Type} (reader : Reader α) (text : String) : Except Fault α := do
  let (value, rest) ← reader text.toList
  if (rest.dropWhile isGap).isEmpty then return value else throw .trailingCharacters

end Reader

end QueryLint.Json
