/-!
# SipHash-1-3

The keyed hash SipHash with one round for each block and three rounds at the end, under the key
zero. A text is hashed as its UTF-8 bytes with the byte `ff` behind them, a number as its eight
bytes, the lowest one first.
-/

namespace QueryLint.Digest

/-! ### What is hashed -/

/-- The bytes of a text, with a byte behind them that no UTF-8 text contains. -/
def textBytes (text : String) : List UInt8 :=
  text.toUTF8.toList ++ [0xff]

/-- The eight bytes of a number, the lowest one first. -/
def numberBytes (n : UInt64) : List UInt8 :=
  [0, 8, 16, 24, 32, 40, 48, 56].map fun (shift : UInt64) => (n >>> shift).toUInt8

/-- The number whose lowest bytes are given, the lowest one first. -/
def ofBytes (bytes : List UInt8) : UInt64 :=
  bytes.foldr (fun b n => n <<< 8 ||| b.toUInt64) 0

/-! ### The hash -/

/-- The inner state of the hash. -/
structure SipState where
  a : UInt64
  b : UInt64
  c : UInt64
  d : UInt64

/-- The bits of a word, rotated to the left. -/
def rotate (word : UInt64) (by_ : UInt64) : UInt64 :=
  word <<< by_ ||| word >>> (64 - by_)

namespace SipState

/-- The state under the key zero. -/
def start : SipState :=
  ⟨0x736f6d6570736575, 0x646f72616e646f6d, 0x6c7967656e657261, 0x7465646279746573⟩

/-- One round. -/
def round (s : SipState) : SipState :=
  let a := s.a + s.b
  let b := rotate s.b 13 ^^^ a
  let a := rotate a 32
  let c := s.c + s.d
  let d := rotate s.d 16 ^^^ c
  let a := a + d
  let d := rotate d 21 ^^^ a
  let c := c + b
  let b := rotate b 17 ^^^ c
  ⟨a, b, rotate c 32, d⟩

/-- The state behind one block. -/
def absorb (s : SipState) (block : UInt64) : SipState :=
  let s' := round { s with d := s.d ^^^ block }
  { s' with a := s'.a ^^^ block }

/-- The state behind all bytes; the last block holds the bytes that are left and their total
count. -/
def absorbAll (total : Nat) : SipState → List UInt8 → SipState
  | s, b₀ :: b₁ :: b₂ :: b₃ :: b₄ :: b₅ :: b₆ :: b₇ :: rest =>
    absorbAll total (s.absorb (ofBytes [b₀, b₁, b₂, b₃, b₄, b₅, b₆, b₇])) rest
  | s, last => s.absorb (ofBytes last ||| (UInt64.ofNat total) <<< 56)

/-- The hash that a state ends in. -/
def finish (s : SipState) : UInt64 :=
  let s := round (round (round { s with c := s.c ^^^ 0xff }))
  s.a ^^^ s.b ^^^ s.c ^^^ s.d

end SipState

/-- The hash of some bytes. -/
def sipHash (bytes : List UInt8) : UInt64 :=
  (SipState.start.absorbAll bytes.length bytes).finish

/-- A number as sixteen lower-case hexadecimal digits. -/
def hex (n : UInt64) : String :=
  let digits := Nat.toDigits 16 n.toNat
  String.ofList (List.replicate (16 - digits.length) '0' ++ digits)

end QueryLint.Digest
