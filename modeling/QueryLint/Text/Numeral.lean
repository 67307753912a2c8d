import QueryLint.Text.Binary64
import QueryLint.Text.Search

/-!
# Numerals

The ways to write a number in plain text: whole numbers in several radices, and decimal numbers with
a point or an exponent. A decimal number counts only if it fits into binary64, that is, if it rounds
to a finite number there.
-/

namespace QueryLint.Text

/-! ### Whole numbers -/

/-- What a digit of some radix up to sixteen is worth. -/
def digitValue? (radix : Nat) (c : Char) : Option Nat :=
  let value :=
    if c.isDigit then c.toNat - '0'.toNat
    else if 'a' ≤ c && c ≤ 'f' then c.toNat - 'a'.toNat + 10
    else if 'A' ≤ c && c ≤ 'F' then c.toNat - 'A'.toNat + 10
    else radix
  if value < radix then some value else none

/-- The number that some digits of a radix stand for, of which there is at least one. -/
def ofRadix? (radix : Nat) (digits : List Char) : Option Nat :=
  if digits.isEmpty then none
  else (digits.mapM (digitValue? radix)).map fun values =>
    values.foldl (fun n v => n * radix + v) 0

/-- The radix and the digits of a numeral that names its radix. -/
def splitRadix : List Char → Option (Nat × List Char)
  | '0' :: 'x' :: digits => some (16, digits)
  | '0' :: 'o' :: digits => some (8, digits)
  | '0' :: 'b' :: digits => some (2, digits)
  | _ => none

/-- A number in upper-case hexadecimal digits, at least so many. -/
def upperHex (width n : Nat) : List Char :=
  let digits := (Nat.toDigits 16 n).map Char.toUpper
  List.replicate (width - digits.length) '0' ++ digits

/-! ### Decimal numbers -/

/-- The exponent that a text is, with an optional sign. -/
def exponent? (text : List Char) : Option Int :=
  match text with
  | '-' :: digits => (ofRadix? 10 digits).map fun n => -(n : Int)
  | '+' :: digits => (ofRadix? 10 digits).map Int.ofNat
  | digits => (ofRadix? 10 digits).map Int.ofNat

/-- A decimal number without a sign. There is a digit before or behind the point. -/
def decimal? (text : List Char) : Option DecimalNumber :=
  let whole := text.takeWhile Char.isDigit
  let behind := text.dropWhile Char.isDigit
  let (fraction, behind) := match behind with
    | '.' :: rest => (rest.takeWhile Char.isDigit, rest.dropWhile Char.isDigit)
    | rest => ([], rest)
  if whole.isEmpty && fraction.isEmpty then none
  else
    let mantissa := ofDigits (whole ++ fraction)
    let shift : Int := -(fraction.length : Int)
    match behind with
    | [] => some ⟨mantissa, shift⟩
    | c :: rest =>
      if c == 'e' || c == 'E' then (exponent? rest).map fun e => ⟨mantissa, e + shift⟩ else none

/-- Whether a text is a decimal number without a sign that fits into binary64. -/
def isDecimal64 (text : List Char) : Bool :=
  match decimal? text with
  | some d => !d.overflows
  | none => false

end QueryLint.Text
