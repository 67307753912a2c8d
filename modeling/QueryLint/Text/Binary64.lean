/-!
# Numbers of binary64 in decimal

The shortest decimal number that is read back as a given number of binary64, and of these the
nearest. A number rounds to `mantissa * 2 ^ exponent` if it lies at most half a unit away from it;
below a power of two the unit is half as large. For one digit, two digits and so on the two
neighbours on the decimal grid are tested.
-/

namespace QueryLint.Text

/-- A power of ten. -/
def tenTo (n : Nat) : Nat := Nat.pow 10 n

/-- The positive number `mantissa * 2 ^ exponent` of binary64. -/
structure Binary64 where
  mantissa : Nat
  exponent : Int
  deriving DecidableEq, Repr

/-- The decimal number `digits * 10 ^ exponent`. -/
structure DecimalNumber where
  digits : Nat
  exponent : Int
  deriving DecidableEq, Repr

namespace Binary64

/-- The number behind a bit pattern, without its sign. -/
def ofBits (bits : UInt64) : Binary64 :=
  let field : Nat := (bits.toNat >>> 52) % 0x800
  let fraction : Nat := bits.toNat % (1 <<< 52)
  if field == 0 then ⟨fraction, -1074⟩ else ⟨fraction + (1 <<< 52), (field : Int) - 1075⟩

/-- The numbers that are measured: on one scale the number, the ends of the interval that rounds to
it, and the unit of the decimal grid. -/
structure Measure where
  low : Nat
  number : Nat
  high : Nat
  unit : Nat
  /-- Whether the ends themselves round to the number. -/
  closed : Bool

/-- The measure of a number on the grid of the multiples of `10 ^ power`. -/
def measure (b : Binary64) (power : Int) : Measure :=
  let shift := b.exponent - 2
  let scale := tenTo (-power).toNat <<< shift.toNat
  let below := if b.mantissa == 1 <<< 52 && b.exponent > -1074 then 1 else 2
  { low := (4 * b.mantissa - below) * scale
    number := 4 * b.mantissa * scale
    high := (4 * b.mantissa + 2) * scale
    unit := tenTo power.toNat <<< (-shift).toNat
    closed := b.mantissa % 2 == 0 }

/-- Whether a multiple of the unit rounds to the number. -/
def Measure.accepts (m : Measure) (multiple : Nat) : Bool :=
  let point := multiple * m.unit
  if m.closed then m.low ≤ point && point ≤ m.high else m.low < point && point < m.high

/-- The multiple of the unit nearest to the number, if one next to it rounds to the number. -/
def Measure.nearest? (m : Measure) : Option Nat :=
  let floor := m.number / m.unit
  let rest := 2 * (m.number % m.unit)
  let candidates :=
    if rest < m.unit || (rest == m.unit && floor % 2 == 0) then [floor, floor + 1]
    else [floor + 1, floor]
  candidates.find? m.accepts

/-- The power of ten that a number is at least, but less than ten times. -/
def decade (b : Binary64) : Int :=
  let m := b.measure 0
  let guess : Int := ((Nat.toDigits 10 m.number).length : Int) - (Nat.toDigits 10 m.unit).length
  if m.number * tenTo (-guess).toNat ≥ m.unit * tenTo guess.toNat then guess else guess - 1

/-- The shortest decimal number that rounds to a positive number. -/
def shortest (b : Binary64) : DecimalNumber :=
  let top := b.decade
  let tried := (List.range 17).findSome? fun (more : Nat) =>
    let power := top - (more : Int)
    ((b.measure power).nearest?).map fun digits => DecimalNumber.mk digits power
  tried.getD ⟨b.mantissa, b.exponent⟩

end Binary64

namespace DecimalNumber

/-- The number without zeros at the end of its digits; the fuel bounds them. -/
def strip : Nat → DecimalNumber → DecimalNumber
  | 0, d => d
  | fuel + 1, ⟨digits, exponent⟩ =>
    if digits % 10 == 0 && digits != 0 then strip fuel ⟨digits / 10, exponent + 1⟩
    else ⟨digits, exponent⟩

/-- A positive number in digits. The point stands inside or at the ends of at most sixteen digits,
or before up to four zeros; otherwise an exponent is written with its sign. -/
def spell (d : DecimalNumber) : List Char :=
  let ⟨number, exponent⟩ := d.strip 20
  let digits := Nat.toDigits 10 number
  let point := (digits.length : Int) + exponent
  if 0 ≤ exponent && point ≤ 16 then
    digits ++ List.replicate exponent.toNat '0' ++ ['.', '0']
  else if 0 < point && point ≤ 16 then
    digits.take point.toNat ++ '.' :: digits.drop point.toNat
  else if -5 < point && point ≤ 0 then
    '0' :: '.' :: List.replicate (-point).toNat '0' ++ digits
  else
    let mark := if point > 0 then "+" else ""
    let behind := (mark ++ toString (point - 1)).toList
    match digits with
    | [digit] => digit :: 'e' :: behind
    | first :: rest => first :: '.' :: rest ++ 'e' :: behind
    | [] => []

/-- Whether a number in digits is too large for binary64: it lies at least half a unit above the
largest number. -/
def overflows (d : DecimalNumber) : Bool :=
  let size := ((Nat.toDigits 10 d.digits).length : Int) + d.exponent
  if d.digits == 0 || size ≤ 308 then false
  else if 310 ≤ size then true
  else d.digits * tenTo d.exponent.toNat ≥ ((1 <<< 1024) - (1 <<< 970)) * tenTo (-d.exponent).toNat

end DecimalNumber

/-- A finite number of binary64 in the fewest digits that are read back as it. -/
def spellFloat (f : Float) : List Char :=
  let bits := f.toBits
  let b := Binary64.ofBits bits
  let digits := if b.mantissa == 0 then ['0', '.', '0'] else b.shortest.spell
  if bits.toNat ≥ 1 <<< 63 then '-' :: digits else digits

end QueryLint.Text
