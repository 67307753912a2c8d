import QueryLint.Text.Binary64
import QueryLint.Text.Numeral
import QueryLint.Toml.Moment
import QueryLint.Toml.Syntax

/-!
# Keys and scalars

What the pieces of a TOML text stand for: texts, numbers, flags, dates and times. `Piece.key` and
`Piece.scalar` reject a piece at the first character that does not belong to it.
-/

namespace QueryLint.Toml

/-- A value that has no parts. -/
inductive Scalar where
  | text (content : String)
  | whole (value : Int)
  | fraction
  | flag (value : Bool)
  | moment
  deriving DecidableEq, Repr, Inhabited

namespace Piece

/-! ### Quoted texts -/

/-- Whether a character may stand for itself in a quoted text. -/
def isPlain (c : Char) : Bool :=
  c == '\t' || (32 ≤ c.toNat && c.toNat != 127)

/-- The characters of a literal text at an offset. -/
def literal (long : Bool) : List Char → Nat → Except Fault (List Char)
  | [], _ => .ok []
  | '\n' :: rest, n => if long then return '\n' :: (← literal long rest (n + 1)) else throw ⟨n⟩
  | '\r' :: '\n' :: rest, n =>
    if long then return '\r' :: '\n' :: (← literal long rest (n + 2)) else throw ⟨n⟩
  | '\r' :: _, n => throw ⟨if long then n + 1 else n⟩
  | c :: rest, n => if isPlain c then return c :: (← literal long rest (n + 1)) else throw ⟨n⟩

/-- The escapes of one letter. -/
def letterEscape? : Char → Option Char
  | 'b' => some '\x08'
  | 'e' => some '\x1b'
  | 'f' => some '\x0c'
  | 'n' => some '\n'
  | 'r' => some '\r'
  | 't' => some '\t'
  | '\\' => some '\\'
  | '\x22' => some '\x22'
  | _ => none

/-- How many digits the escape of a letter has. -/
def escapeDigits? : Char → Option Nat
  | 'x' => some 2
  | 'u' => some 4
  | 'U' => some 8
  | _ => none

/-- The character of a number. -/
def character? (n : Nat) : Option Char :=
  if n.isValidChar then some (Char.ofNat n) else none

/-- The character that an escape at an offset stands for, and how long it is behind its
backslash. -/
def escape (text : List Char) (n : Nat) : Except Fault (Char × Nat) :=
  match text with
  | [] => throw ⟨n⟩
  | c :: rest =>
    match letterEscape? c, escapeDigits? c with
    | some meant, _ => return (meant, 1)
    | none, none => throw ⟨n⟩
    | none, some count =>
      let digits := rest.take count
      match (Text.ofRadix? 16 digits).bind character? with
      | some meant => if digits.length == count then return (meant, count + 1) else throw ⟨n + 1⟩
      | none => throw ⟨n + 1⟩

/-- How many blanks and ends of lines follow a backslash, if there is an end of a line among
them. -/
def foldedLength (text : List Char) : Option Nat :=
  let isFolded := fun c => Token.isBlank c || c == '\n' || c == '\r'
  let folded := text.takeWhile isFolded
  if (folded.dropWhile Token.isBlank).isEmpty then none else some folded.length

/-- The characters of a basic text at an offset; the fuel bounds their number. -/
def basic (long : Bool) : Nat → List Char → Nat → Except Fault (List Char)
  | 0, _, _ => .ok []
  | _, [], _ => .ok []
  | fuel + 1, '\\' :: rest, n =>
    match (if long then foldedLength rest else none) with
    | some length => basic long fuel (rest.drop length) (n + 1 + length)
    | none => do
      let (meant, length) ← escape rest (n + 1)
      return meant :: (← basic long fuel (rest.drop length) (n + 1 + length))
  | fuel + 1, c :: rest, n =>
    if long && c == '\n' then return c :: (← basic long fuel rest (n + 1))
    else if long && c == '\r' then
      if rest.head? == some '\n' then return c :: (← basic long fuel rest (n + 1))
        else throw ⟨n + 1⟩
    else if isPlain c && (long || c != '\x22') then return c :: (← basic long fuel rest (n + 1))
    else throw ⟨n⟩

/-- What stands between the quotes of a piece, if the closing ones are there. -/
def between (quotes : Nat) (quote : Char) (p : Piece) : Except Fault (List Char) :=
  let inner := p.text.drop quotes
  let rest := inner.length - quotes
  if quotes ≤ inner.length && inner.drop rest == List.replicate quotes quote then
    return inner.take rest
  else throw ⟨p.start + p.text.length⟩

/-- A text without the end of a line in front, and how long that is. -/
def dropNewline : List Char → List Char × Nat
  | '\r' :: '\n' :: rest => (rest, 2)
  | '\n' :: rest => (rest, 1)
  | text => (text, 0)

/-- The text that a quoted piece stands for, and nothing for a bare one. -/
def quoted (p : Piece) : Except Fault (Option String) := do
  match p.quoting with
  | .bare => return none
  | .literal =>
    let inner ← p.between 1 '\''
    return some (String.ofList (← literal false inner (p.start + 1)))
  | .basic =>
    let inner ← p.between 1 '\x22'
    return some (String.ofList (← basic false inner.length inner (p.start + 1)))
  | .longLiteral =>
    let (inner, skipped) := dropNewline (← p.between 3 '\'')
    return some (String.ofList (← literal true inner (p.start + 3 + skipped)))
  | .longBasic =>
    let (inner, skipped) := dropNewline (← p.between 3 '\x22')
    return some (String.ofList (← basic true inner.length inner (p.start + 3 + skipped)))

/-! ### Keys -/

/-- Whether a character may stand in a bare key. -/
def isKeyChar (c : Char) : Bool := c.isAlphanum || c == '-' || c == '_'

/-- The key that a piece stands for. A long text is no key. -/
def key (p : Piece) : Except Fault String := do
  if p.quoting == .longBasic || p.quoting == .longLiteral then throw ⟨p.start⟩
  match ← p.quoted with
  | some name => return name
  | none =>
    let good := p.text.takeWhile isKeyChar
    if p.text.isEmpty || good.length < p.text.length then throw ⟨p.start + good.length⟩
    return String.ofList p.text

/-! ### Numbers -/

/-- Where the first underscore stands that is not between two digits, given the character before. -/
def badUnderscore (isDigit : Char → Bool) : Option Char → List Char → Nat → Option Nat
  | _, [], _ => none
  | before, '_' :: rest, n =>
    let left := (before.map isDigit).getD false
    let right := (rest.head?.map fun c => isDigit c || c == '_').getD false
    if left && right then badUnderscore isDigit (some '_') rest (n + 1) else some n
  | _, c :: rest, n => badUnderscore isDigit (some c) rest (n + 1)

/-- Rejects a number at its first misplaced underscore. -/
def checkUnderscores (isDigit : Char → Bool) (text : List Char) (start : Nat) : Except Fault Unit :=
  match badUnderscore isDigit none text start with
  | some n => throw ⟨n⟩
  | none => return ()

/-- A text without underscores. -/
def bareDigits (text : List Char) : List Char := text.filter (· != '_')

/-- Takes the digits of a number, with underscores, from a text at an offset. Zeros in front are
allowed only where it is said. -/
def takeDigits (zeros : Bool) (text : List Char) (n : Nat) : Except Fault (List Char × Nat) :=
  let part := text.takeWhile fun c => c.isDigit || c == '_'
  let count := (bareDigits part).length
  if count == 0 || (count > 1 && !zeros && part.head? == some '0') then throw ⟨n⟩
  else return (text.drop part.length, n + part.length)

/-- Checks a decimal number with a point or an exponent, without its sign. -/
def checkFraction (text : List Char) (n : Nat) : Except Fault Unit := do
  let (text, n) ← takeDigits false text n
  let (text, n) ← match text with
    | '.' :: rest => takeDigits true rest (n + 1)
    | other => pure (other, n)
  let (text, n) ← match text with
    | c :: rest =>
      if c == 'e' || c == 'E' then
        match rest with
        | '+' :: digits => takeDigits true digits (n + 2)
        | '-' :: digits => takeDigits true digits (n + 2)
        | digits => takeDigits true digits (n + 1)
      else pure (text, n)
    | [] => pure (text, n)
  if !text.isEmpty then throw ⟨n⟩

/-- The decimal number that digits with a point or an exponent stand for. -/
def decimalNumber (text : List Char) : Text.DecimalNumber :=
  let isMark := fun c : Char => c == 'e' || c == 'E'
  let number := text.takeWhile fun c => !isMark c
  let whole := number.takeWhile Char.isDigit
  let fraction := (number.dropWhile Char.isDigit).drop 1
  let digits := ((Text.ofRadix? 10 (whole ++ fraction)).getD 0)
  let power : Int := match (text.dropWhile fun c => !isMark c).drop 1 with
    | '-' :: rest => -((Text.ofRadix? 10 rest).getD 0 : Int)
    | '+' :: rest => ((Text.ofRadix? 10 rest).getD 0 : Int)
    | rest => ((Text.ofRadix? 10 rest).getD 0 : Int)
  ⟨digits, power - fraction.length⟩

/-- The whole number of a radix that a text with underscores stands for. -/
def wholeOf (radix : Nat) (negative : Bool) (text : List Char) (start : Nat) :
    Except Fault Scalar :=
  match Text.ofRadix? radix (bareDigits text) with
  | some n => return .whole (if negative then -(n : Int) else n)
  | none => throw ⟨start⟩

/-- The number in a radix of its own, from behind the mark of the radix at an offset. -/
def radixNumber (radix : Nat) (text : List Char) (n start : Nat) : Except Fault Scalar := do
  let good := text.takeWhile fun c => (Text.digitValue? radix c).isSome || c == '_'
  if good.length < text.length then throw ⟨n + good.length⟩
  checkUnderscores (fun c => (Text.digitValue? radix c).isSome) text n
  wholeOf radix false text start

/-- The radix that a letter behind a zero names. -/
def radix? : Char → Option Nat
  | 'x' => some 16
  | 'o' => some 8
  | 'b' => some 2
  | _ => none

/-- The number, date or time that starts with a digit or an underscore behind a sign, in a piece. -/
def decimal (p : Piece) (signed negative : Bool) (text : List Char) (n : Nat) :
    Except Fault Scalar := do
  let rest := text.dropWhile Char.isDigit
  let check := checkUnderscores Char.isDigit p.text p.start
  let noZeros : Except Fault Unit :=
    if text.head? == some '0' && text.length > 1 then throw ⟨n⟩ else return ()
  if rest.isEmpty || rest.head? == some '_'
    && !rest.any (fun c => c == '.' || c == 'e' || c == 'E') then
    noZeros
    check
    wholeOf 10 negative text p.start
  else if rest.head? == some '-' || rest.head? == some ':' then
    if !signed && Moment.isMoment p.text then return .moment else throw ⟨p.start⟩
  else if rest.contains ' ' then throw ⟨p.start⟩
  else if rest.any fun c => c == '.' || c == 'e' || c == 'E' then
    checkFraction text n
    check
    if (decimalNumber (bareDigits text)).overflows then throw ⟨p.start⟩ else return .fraction
  else throw ⟨p.start⟩

/-- The scalar that starts behind an optional sign, in a piece. -/
def unsigned (p : Piece) (signed negative : Bool) (text : List Char) (n : Nat) :
    Except Fault Scalar :=
  match text with
  | '0' :: c :: digits =>
    match radix? c with
    | some radix => if signed then throw ⟨p.start⟩ else radixNumber radix digits (n + 2) p.start
    | none => decimal p signed negative text n
  | c :: _ =>
    if c.isDigit then decimal p signed negative text n
    else if c == '_' || c == '.' then throw ⟨n⟩
    else if text == "inf".toList || text == "nan".toList then return .fraction
    else if signed && (c == '+' || c == '-') then throw ⟨n⟩
    else throw ⟨p.start⟩
  | [] => throw ⟨p.start⟩

/-- The scalar that a piece stands for. -/
def scalar (p : Piece) : Except Fault Scalar := do
  match ← p.quoted with
  | some content => return .text content
  | none =>
    match p.text with
    | '+' :: rest => p.unsigned true false rest (p.start + 1)
    | '-' :: rest => p.unsigned true true rest (p.start + 1)
    | text =>
      if text == "true".toList then return .flag true
      else if text == "false".toList then return .flag false
      else p.unsigned false false text p.start

end Piece

end QueryLint.Toml
