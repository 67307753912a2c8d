import Mathlib.Algebra.Group.Nat.Defs
import Mathlib.Tactic.Common
import QueryLint.Digest.SipHash

/-!
# What is hashed can be read back

A text is hashed as its UTF-8 bytes and the byte `ff`. No UTF-8 text contains this byte, so a reader
of the bytes knows where a text ends, whatever comes behind it (`textBytes_append_inj`); a number
always has eight bytes. So the bytes that an identifier is the hash of tell all that it is made of
(`Issue.Identity.bytes_injective`). The digits of a hash tell the hash (`hex_injective`).
-/

namespace QueryLint

namespace Digest

/-! ### The bytes of texts -/

/-- The bytes of an array are listed one after the other behind those already gathered. -/
theorem toList_loop_eq (bytes : ByteArray) (i : Nat) (acc : List UInt8) :
    ByteArray.toList.loop bytes i acc = acc.reverse ++ bytes.data.toList.drop i := by
  fun_induction ByteArray.toList.loop bytes i acc with
  | case1 i acc h ih =>
    have hi : i < bytes.data.toList.length := by simpa using h
    rw [ih, List.drop_eq_getElem_cons hi]
    simp [ByteArray.get!, h]
  | case2 i acc h =>
    rw [List.drop_eq_nil_of_le (by simpa using Nat.le_of_not_lt h), List.append_nil]

/-- The bytes of a text are those of its characters. -/
theorem toList_toUTF8 (text : String) :
    text.toUTF8.toList = text.toList.flatMap String.utf8EncodeChar := by
  rw [String.toUTF8_eq_toByteArray, ← String.utf8Encode_toList, List.utf8Encode, ByteArray.toList,
    toList_loop_eq, List.toList_data_toByteArray]
  rfl

/-- The bytes of a text determine it. -/
theorem toList_toUTF8_injective : Function.Injective fun text : String => text.toUTF8.toList := by
  intro a b h
  have hdata : a.toByteArray.data.toList = b.toByteArray.data.toList := by
    simpa [ByteArray.toList, toList_loop_eq] using h
  exact String.toByteArray_inj.mp (ByteArray.ext (Array.toList_inj.mp hdata))

/-- No character has a byte `ff`. -/
theorem ne_of_mem_utf8EncodeChar {c : Char} {b : UInt8} (h : b ∈ String.utf8EncodeChar c) :
    b ≠ 0xff := by
  have hbound : ∀ n < 255, UInt8.ofNat n ≠ 0xff := by
    intro n hn heq
    have hnat : n % 256 = 255 := congrArg UInt8.toNat heq
    omega
  simp only [String.utf8EncodeChar] at h
  -- One case for each count of bytes; each byte is written as a number below 255.
  split_ifs at h <;> simp only [List.mem_cons, List.not_mem_nil, or_false] at h
  · exact h ▸ hbound _ (by omega)
  · rcases h with rfl | rfl <;> exact hbound _ (by omega)
  · rcases h with rfl | rfl | rfl <;> exact hbound _ (by omega)
  · rcases h with rfl | rfl | rfl | rfl <;> exact hbound _ (by omega)

/-- The byte that ends a part stands nowhere in an encoded text. -/
theorem notMem_toUTF8 (text : String) : 0xff ∉ text.toUTF8.toList := by
  rw [toList_toUTF8]
  intro h
  obtain ⟨c, -, hc⟩ := List.mem_flatMap.mp h
  exact ne_of_mem_utf8EncodeChar hc rfl

/-- What stands in front of the first separator, and what behind it, is told by the whole. -/
theorem append_separator_inj {α : Type} {a b r r' : List α} {separator : α} (ha : separator ∉ a)
    (hb : separator ∉ b) : a ++ separator :: r = b ++ separator :: r' ↔ a = b ∧ r = r' := by
  constructor
  · intro h
    induction a generalizing b with
    | nil =>
      cases b with
      | nil => exact ⟨rfl, (List.cons.inj h).2⟩
      | cons y b => exact absurd (List.cons.inj h).1 (List.ne_of_not_mem_cons hb)
    | cons x a ih =>
      cases b with
      | nil => exact absurd (List.cons.inj h).1.symm (List.ne_of_not_mem_cons ha)
      | cons y b =>
        obtain ⟨rfl, hrest⟩ := List.cons.inj h
        obtain ⟨rfl, hr⟩ :=
          ih (List.not_mem_of_not_mem_cons ha) (List.not_mem_of_not_mem_cons hb) hrest
        exact ⟨rfl, hr⟩
  · rintro ⟨rfl, rfl⟩
    rfl

/-- A text that is hashed first, and what is hashed behind it, is told by all bytes. -/
theorem textBytes_append_inj {a b : String} {r r' : List UInt8} :
    textBytes a ++ r = textBytes b ++ r' ↔ a = b ∧ r = r' := by
  rw [textBytes, textBytes, List.append_assoc, List.append_assoc, List.singleton_append,
    List.singleton_append, append_separator_inj (notMem_toUTF8 a) (notMem_toUTF8 b),
    toList_toUTF8_injective.eq_iff]

/-! ### The bytes of numbers -/

/-- A number below a power of 256 is told by so many of its digits to the base 256. -/
theorem eq_of_digits_eq {width n m : Nat} (hn : n < 256 ^ width) (hm : m < 256 ^ width)
    (h : ∀ k < width, n / 256 ^ k % 256 = m / 256 ^ k % 256) : n = m := by
  induction width generalizing n m with
  | zero => omega
  | succ width ih =>
    have hlow : n % 256 = m % 256 := by simpa using h 0 (Nat.succ_pos width)
    have hhigh : n / 256 = m / 256 := by
      refine ih (by rw [Nat.pow_succ] at hn; omega)
        (by rw [Nat.pow_succ] at hm; omega) fun k hk => ?_
      have hdigit := h (k + 1) (Nat.succ_lt_succ hk)
      rwa [Nat.pow_succ', ← Nat.div_div_eq_div_mul, ← Nat.div_div_eq_div_mul] at hdigit
    omega

theorem numberBytes_eq_map (n : UInt64) :
    numberBytes n = (List.range 8).map fun k => (n >>> (8 * k).toUInt64).toUInt8 := rfl

/-- The bytes of a number are its digits to the base 256. -/
theorem toNat_toUInt8_shiftRight {k : Nat} (hk : k < 8) (n : UInt64) :
    (n >>> (8 * k).toUInt64).toUInt8.toNat = n.toNat / 256 ^ k % 256 := by
  have hshift : (8 * k).toUInt64.toNat % 64 = 8 * k := by
    rw [Nat.toUInt64, UInt64.toNat_ofNat']
    omega
  rw [UInt64.toNat_toUInt8, UInt64.toNat_shiftRight, hshift, Nat.shiftRight_eq_div_pow, Nat.pow_mul]

/-- The bytes of a number determine it. -/
theorem numberBytes_injective : Function.Injective numberBytes := by
  intro n m h
  rw [numberBytes_eq_map, numberBytes_eq_map, List.map_inj_left] at h
  have hn : n.toNat < 256 ^ 8 := n.toNat_lt
  have hm : m.toNat < 256 ^ 8 := m.toNat_lt
  refine UInt64.toNat_inj.mp (eq_of_digits_eq hn hm fun k hk => ?_)
  have hbyte := congrArg UInt8.toNat (h k (List.mem_range.mpr hk))
  rwa [toNat_toUInt8_shiftRight hk, toNat_toUInt8_shiftRight hk] at hbyte

/-- A number that is hashed first, and what is hashed behind it, is told by all bytes. -/
theorem numberBytes_append_inj {n m : UInt64} {r r' : List UInt8} :
    numberBytes n ++ r = numberBytes m ++ r' ↔ n = m ∧ r = r' := by
  constructor
  · intro h
    obtain ⟨hbytes, hrest⟩ := List.append_inj h rfl
    exact ⟨numberBytes_injective hbytes, hrest⟩
  · rintro ⟨rfl, rfl⟩
    rfl

/-! ### Hexadecimal digits -/

/-- The number that some hexadecimal digits stand for. -/
def ofHexDigits (digits : List Char) : Nat :=
  digits.foldl (fun n c => 16 * n + ((List.range 16).map Nat.digitChar).idxOf c) 0

/-- A hexadecimal digit is at its own place among the digits. -/
theorem idxOf_digitChar : ∀ d < 16, ((List.range 16).map Nat.digitChar).idxOf d.digitChar = d := by
  decide

/-- One more digit counts once, and those before it sixteen times. -/
theorem ofHexDigits_concat (digits : List Char) {d : Nat} (hd : d < 16) :
    ofHexDigits (digits ++ [d.digitChar]) = 16 * ofHexDigits digits + d := by
  rw [ofHexDigits, List.foldl_append, List.foldl_cons, List.foldl_nil, idxOf_digitChar d hd]
  rfl

/-- The hexadecimal digits of a number write it. -/
theorem ofHexDigits_toDigits (n : Nat) : ofHexDigits (Nat.toDigits 16 n) = n := by
  induction n using Nat.strongRecOn with
  | ind n ih =>
    rw [Nat.toDigits_eq_if (by omega)]
    split
    · next hlt => exact (ofHexDigits_concat [] hlt).trans (Nat.zero_add n)
    · next hge =>
      rw [ofHexDigits_concat _ (Nat.mod_lt n (by omega)), ih (n / 16) (by omega)]
      omega

/-- Leading zeros make no difference. -/
theorem ofHexDigits_zeros (k : Nat) (digits : List Char) :
    ofHexDigits (List.replicate k '0' ++ digits) = ofHexDigits digits := by
  induction k with
  | zero => rfl
  | succ k ih =>
    rw [List.replicate_succ, List.cons_append, ← ih]
    rfl

/-- Two hashes that are written alike are the same. -/
theorem hex_injective : Function.Injective hex := by
  intro n m h
  have hdigits := congrArg ofHexDigits (String.ofList_injective h)
  rw [ofHexDigits_zeros, ofHexDigits_zeros, ofHexDigits_toDigits, ofHexDigits_toDigits] at hdigits
  exact UInt64.toNat_inj.mp hdigits

end Digest

end QueryLint
