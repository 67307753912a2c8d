import Mathlib.Data.List.TakeWhile
import Mathlib.Data.String.Basic
import QueryLint.Text.Search

/-!
# What searching in texts finds

`splitFirst` splits a text at the first occurrence of a marker, and `number64?` reads what is
written as a number of 64 bits.

A place in a text is the number of bytes before it, and a character takes up to four bytes. So there
are numbers that are no places: those beyond the end and those inside of a character. `slice?` takes
the part of a text between two places, and it is partial for this reason. Looking for a place
(`findFrom?`) finds the end of what is taken by characters (`findFrom?_isPrefixOf`,
`findFrom?_head?`).
-/

namespace QueryLint.Text

/-! ### Markers -/

/-- A text has a marker between two parts, and the marker does not occur further to the front. -/
structure SplitsAt (marker text before behind : List Char) : Prop where
  eq_append : text = before ++ marker ++ behind
  length_le : ∀ front, front ++ marker <+: text → before.length ≤ front.length

section Markers

variable {marker text before behind : List Char}

/-- A text that is split is put together again by the marker. -/
theorem append_of_splitFirst (h : splitFirst marker text = some (before, behind)) :
    text = before ++ marker ++ behind := by
  induction text generalizing before with
  | nil =>
    rw [splitFirst] at h
    split at h
    · next hempty =>
      cases h
      rw [List.isEmpty_iff.mp hempty]
      rfl
    · cases h
  | cons c rest ih =>
    rw [splitFirst] at h
    split at h
    · next hprefix =>
      obtain ⟨tail, htail⟩ := List.isPrefixOf_iff_prefix.mp hprefix
      simp only [Option.some.injEq, Prod.mk.injEq] at h
      obtain ⟨rfl, rfl⟩ := h
      rw [← htail, List.drop_left, List.nil_append]
    · obtain ⟨⟨b, e⟩, hsplit, heq⟩ := Option.map_eq_some_iff.mp h
      cases heq
      rw [ih hsplit]
      rfl

/-- The marker does not occur further to the front. -/
theorem length_le_of_splitFirst (h : splitFirst marker text = some (before, behind))
    {front : List Char} (hfront : front ++ marker <+: text) : before.length ≤ front.length := by
  induction text generalizing before front with
  | nil =>
    rw [splitFirst] at h
    split at h
    · cases h
      exact Nat.zero_le _
    · cases h
  | cons c rest ih =>
    rw [splitFirst] at h
    split at h
    · cases h
      exact Nat.zero_le _
    · next hprefix =>
      obtain ⟨⟨b, e⟩, hsplit, heq⟩ := Option.map_eq_some_iff.mp h
      cases heq
      cases front with
      | nil => exact absurd (List.isPrefixOf_iff_prefix.mpr hfront) hprefix
      | cons d front =>
        have hrest : front ++ marker <+: rest := (List.cons_prefix_cons.mp hfront).2
        exact Nat.succ_le_succ (ih hsplit hrest)

/-- A text is not split exactly when the marker is nowhere in it. -/
theorem splitFirst_eq_none_iff : splitFirst marker text = none ↔ ¬marker <:+: text := by
  induction text with
  | nil =>
    rw [splitFirst, List.infix_nil, ← List.isEmpty_iff]
    split
    · next h => simp [h]
    · next h => simp [h]
  | cons c rest ih =>
    rw [splitFirst, List.infix_cons_iff, not_or, ← ih, ← List.isPrefixOf_iff_prefix]
    split
    · next h => simp [h]
    · next h => simp [h]

/-- A text is split at the first occurrence of a marker. -/
theorem splitFirst_eq_some_iff :
    splitFirst marker text = some (before, behind) ↔ SplitsAt marker text before behind := by
  refine ⟨fun h => ⟨append_of_splitFirst h, fun _ => length_le_of_splitFirst h⟩, ?_⟩
  rintro ⟨htext, hfirst⟩
  cases h : splitFirst marker text with
  | none => exact absurd ⟨before, behind, htext.symm⟩ (splitFirst_eq_none_iff.mp h)
  | some found =>
    obtain ⟨b, e⟩ := found
    have heq : b ++ (marker ++ e) = before ++ (marker ++ behind) := by
      rw [← List.append_assoc, ← List.append_assoc, ← append_of_splitFirst h, htext]
    have hlength : b.length = before.length :=
      Nat.le_antisymm (length_le_of_splitFirst h ⟨behind, htext.symm⟩)
        (hfirst b ⟨e, (append_of_splitFirst h).symm⟩)
    obtain ⟨rfl, hbehind⟩ := List.append_inj heq hlength
    rw [List.append_cancel_left hbehind]

/-- A marker whose first character it has only once does not overlap with itself. -/
theorem splitsAt_of_not_infix {m : Char} (hm : m ∉ marker) (h : ¬m :: marker <:+: before)
    (behind : List Char) : SplitsAt (m :: marker)
    (before ++ m :: marker ++ behind) before behind := by
  refine ⟨rfl, fun front hfront => Nat.le_of_not_lt fun hlt => ?_⟩
  obtain ⟨rest, hrest⟩ := hfront
  rw [List.append_assoc, List.append_assoc] at hrest
  obtain ⟨y, rfl, hy⟩ | ⟨y, rfl, -⟩ := List.append_eq_append_iff.mp hrest
  · cases y with
    | nil => simp at hlt
    | cons c y =>
      rw [List.cons_append, List.cons_append, List.cons.injEq] at hy
      obtain ⟨rfl, hy⟩ := hy
      obtain ⟨z, rfl, -⟩ | ⟨z, rfl, hz⟩ := List.append_eq_append_iff.mp hy
      · exact h ⟨front, z, by simp⟩
      · cases z with
        | nil => exact h ⟨front, [], by simp⟩
        | cons d z =>
          obtain ⟨rfl, -⟩ := List.cons.inj hz
          exact hm (List.mem_append_right _ List.mem_cons_self)
  · rw [List.length_append] at hlt
    omega

end Markers

/-! ### Parts of texts -/

/-- The part of a text between two places. There is none if the places are not in the order of the
text, or if one is beyond the end or inside of a character. -/
def slice? (text : String) (start stop : Nat) : Option String :=
  if start ≤ stop ∧ String.Pos.Raw.isValid text ⟨start⟩ ∧ String.Pos.Raw.isValid text ⟨stop⟩ then
    some (String.Pos.Raw.extract text ⟨start⟩ ⟨stop⟩)
  else none

/-- The first place from which on a text is as asked. -/
def findFrom? (asked : List Char → Bool) (text : String) : Option Nat :=
  (List.range (text.utf8ByteSize + 1)).find? fun n =>
    (slice? text n text.utf8ByteSize).any (asked ·.toList)

section Parts

variable {text part rest : String} {start stop n : Nat} {asked : List Char → Bool}

/-- A position is valid exactly when it counts the bytes of some front of the text. -/
theorem isValid_iff : String.Pos.Raw.isValid text ⟨n⟩ = true
    ↔ ∃ before behind, text = before ++ behind ∧ n = before.utf8ByteSize := by
  rw [String.Pos.Raw.isValid_eq_true_iff, String.Pos.Raw.isValid_iff_exists_append]
  simp only [String.Pos.Raw.ext_iff, String.byteIdx_rawEndPos]

/-- What stands between two fronts of a text is extracted by their lengths in bytes. -/
theorem extract_append (before part behind : String) :
    String.Pos.Raw.extract (before ++ part ++ behind) ⟨before.utf8ByteSize⟩
      ⟨(before ++ part).utf8ByteSize⟩
      = part := by
  have htext : before ++ part ++ behind
      = String.ofList (before.toList ++ part.toList ++ behind.toList) := by
    rw [← String.toList_append, ← String.toList_append, String.ofList_toList]
  rw [htext, String.utf8ByteSize_append, ← String.utf8Len_toList, ← String.utf8Len_toList,
    String.extract_of_valid, String.ofList_toList]

/-- Of two beginnings of a text, one is a beginning of the other one. -/
theorem exists_append_of_le {a b c d : String} (h : a ++ b = c ++ d)
    (hle : a.utf8ByteSize ≤ c.utf8ByteSize) : ∃ m, c = a ++ m ∧ b = m ++ d := by
  have hlist : a.toList ++ b.toList = c.toList ++ d.toList := by
    rw [← String.toList_append, h, String.toList_append]
  have hof : ∀ {s : String} {l m : List Char}, s.toList = l ++ m →
      s = String.ofList l ++ String.ofList m := fun hs => by
    rw [← String.ofList_append, ← hs, String.ofList_toList]
  obtain ⟨m, hc, hb⟩ | ⟨m, ha, hd⟩ := List.append_eq_append_iff.mp hlist
  · refine ⟨String.ofList m, ?_, ?_⟩
    · simpa using hof hc
    · simpa using hof hb
  · have hm : m = [] := by
      have hsize : String.utf8Len a.toList = String.utf8Len c.toList + String.utf8Len m := by
        rw [ha, String.utf8Len_append]
      rw [String.utf8Len_toList, String.utf8Len_toList] at hsize
      exact String.utf8Len_eq_zero.mp (by omega)
    subst hm
    rw [List.append_nil, String.toList_inj] at ha
    rw [List.nil_append, String.toList_inj] at hd
    exact ⟨"", by rw [ha, String.append_empty], by rw [hd, String.empty_append]⟩

/-- The longer one of two beginnings of a text has a character more. -/
theorem exists_cons_of_lt {a b c d : String} (h : a ++ b = c ++ d)
    (hlt : a.utf8ByteSize < c.utf8ByteSize) :
    ∃ x m, c.toList = a.toList ++ x :: m ∧ b.toList = x :: (m ++ d.toList) := by
  obtain ⟨m, rfl, rfl⟩ := exists_append_of_le h (Nat.le_of_lt hlt)
  cases hm : m.toList with
  | nil =>
    rw [String.toList_eq_nil_iff.mp hm, String.append_empty] at hlt
    exact absurd hlt (Nat.lt_irrefl _)
  | cons x l =>
    exact ⟨x, l, by rw [String.toList_append, hm], by rw [String.toList_append, hm]; rfl⟩

/-- A slice is the part of a text that begins and ends at the given bytes. -/
theorem slice?_eq_some_iff : slice? text start stop = some part
    ↔ ∃ before behind, text = before ++ part ++ behind ∧ start = before.utf8ByteSize
      ∧ stop = (before ++ part).utf8ByteSize := by
  rw [slice?]
  constructor
  · intro h
    split at h
    · next hplaces =>
      obtain ⟨hle, hstart, hstop⟩ := hplaces
      obtain ⟨before, rest, htext, rfl⟩ := isValid_iff.mp hstart
      obtain ⟨front, behind, hfront, rfl⟩ := isValid_iff.mp hstop
      obtain ⟨part', rfl, rfl⟩ := exists_append_of_le (htext.symm.trans hfront) hle
      have hpart : part' = part := by
        rw [hfront, extract_append] at h
        exact Option.some.inj h
      exact ⟨before, behind, by rw [hfront, hpart], rfl, by rw [hpart]⟩
    · cases h
  · rintro ⟨before, behind, rfl, rfl, rfl⟩
    have hle : before.utf8ByteSize ≤ (before ++ part).utf8ByteSize := by
      rw [String.utf8ByteSize_append]
      exact Nat.le_add_right _ _
    rw [if_pos ⟨hle, isValid_iff.mpr ⟨before, part ++ behind, String.append_assoc, rfl⟩,
      isValid_iff.mpr ⟨before ++ part, behind, rfl, rfl⟩⟩, extract_append]

/-- A part of a text is the slice from where it begins. -/
theorem slice?_of_eq_append {before behind : String} (h : text = before ++ part ++ behind) :
    slice? text before.utf8ByteSize (before.utf8ByteSize + part.utf8ByteSize) = some part :=
  slice?_eq_some_iff.mpr ⟨before, behind, h, rfl, String.utf8ByteSize_append.symm⟩

/-- What is behind a place. -/
theorem slice?_utf8ByteSize_eq_some_iff : slice? text n text.utf8ByteSize = some rest
    ↔ ∃ before, text = before ++ rest ∧ n = before.utf8ByteSize := by
  rw [slice?_eq_some_iff]
  constructor
  · rintro ⟨before, behind, htext, rfl, hstop⟩
    have hbehind : behind.utf8ByteSize = 0 := by
      rw [htext, String.utf8ByteSize_append (t := behind)] at hstop
      omega
    rw [String.utf8ByteSize_eq_zero_iff.mp hbehind, String.append_empty] at htext
    exact ⟨before, htext, rfl⟩
  · rintro ⟨before, rfl, rfl⟩
    exact ⟨before, "", by rw [String.append_empty], rfl, rfl⟩

/-! ### Searching for places -/

/-- A slice to the end of a text passes a test exactly when the rest of the text behind that byte
does. -/
theorem any_slice?_iff : (slice? text n text.utf8ByteSize).any (asked ·.toList) = true
    ↔ ∃ before rest, text = before ++ rest ∧ n = before.utf8ByteSize
      ∧ asked rest.toList = true := by
  rw [Option.any_eq_true]
  constructor
  · rintro ⟨rest, hslice, hasked⟩
    obtain ⟨before, htext, hn⟩ := slice?_utf8ByteSize_eq_some_iff.mp hslice
    exact ⟨before, rest, htext, hn, hasked⟩
  · rintro ⟨before, rest, htext, hn, hasked⟩
    exact ⟨rest, slice?_utf8ByteSize_eq_some_iff.mpr ⟨before, htext, hn⟩, hasked⟩

/-- A place is found if from no place further to the front on the text is as asked. -/
theorem findFrom?_eq_some {before : String} (htext : text = before ++ rest)
    (hrest : asked rest.toList = true)
    (hfirst : ∀ b e, text = b ++ e → asked e.toList = true → before.utf8ByteSize ≤ b.utf8ByteSize) :
    findFrom? asked text = some before.utf8ByteSize := by
  refine List.find?_range_eq_some.mpr ⟨any_slice?_iff.mpr ⟨before, rest, htext, rfl, hrest⟩, ?_, ?_⟩
  · rw [List.mem_range, htext, String.utf8ByteSize_append]
    omega
  · intro n hn
    rw [Bool.not_eq_true', Bool.eq_false_iff]
    intro hany
    obtain ⟨b, e, htext, rfl, hasked⟩ := any_slice?_iff.mp hany
    exact absurd hn (Nat.not_lt.mpr (hfirst b e htext hasked))

/-- Nothing is found if no rest of the text passes the test. -/
theorem findFrom?_eq_none (h : ∀ b e, text = b ++ e → asked e.toList = false) :
    findFrom? asked text = none := by
  refine List.find?_range_eq_none.mpr fun n _ => ?_
  rw [Bool.not_eq_true', Bool.eq_false_iff]
  intro hany
  obtain ⟨b, e, htext, -, hasked⟩ := any_slice?_iff.mp hany
  rw [h b e htext] at hasked
  cases hasked

end Parts

/-- A string that is split is put together again by the marker. -/
theorem eq_append_of_splitFirst {marker text : String} {before behind : List Char}
    (h : splitFirst marker.toList text.toList = some (before, behind)) :
    text = String.ofList before ++ marker ++ String.ofList behind := by
  rw [← String.toList_inj, append_of_splitFirst h]
  simp only [String.toList_append, String.toList_ofList]

/-- The first place of a marker is where the text is split at it. -/
theorem findFrom?_isPrefixOf (marker text : String) :
    findFrom? marker.toList.isPrefixOf text
      = (splitFirst marker.toList text.toList).map fun parts =>
        (String.ofList parts.1).utf8ByteSize := by
  cases hsplit : splitFirst marker.toList text.toList with
  | none =>
    refine findFrom?_eq_none fun b e htext => ?_
    rw [Bool.eq_false_iff, Ne, List.isPrefixOf_iff_prefix]
    rintro ⟨behind, hbehind⟩
    refine splitFirst_eq_none_iff.mp hsplit ⟨b.toList, behind, ?_⟩
    rw [htext, String.toList_append, ← hbehind, List.append_assoc]
  | some parts =>
    obtain ⟨before, behind⟩ := parts
    have htext : text = String.ofList before ++ (marker ++ String.ofList behind) := by
      rw [← String.append_assoc]
      exact eq_append_of_splitFirst hsplit
    refine findFrom?_eq_some htext ?_ fun b e hbe hasked => ?_
    · rw [List.isPrefixOf_iff_prefix, String.toList_append]
      exact List.prefix_append _ _
    · have hfront : b.toList ++ marker.toList <+: text.toList := by
        obtain ⟨rest, hrest⟩ := List.isPrefixOf_iff_prefix.mp hasked
        exact ⟨rest, by rw [hbe, String.toList_append, ← hrest, List.append_assoc]⟩
      have hlength := length_le_of_splitFirst hsplit hfront
      by_contra hlt
      obtain ⟨x, m, hbefore, -⟩ := exists_cons_of_lt (hbe.symm.trans htext) (Nat.lt_of_not_le hlt)
      rw [String.toList_ofList] at hbefore
      rw [hbefore, List.length_append, List.length_cons] at hlength
      omega

/-- The characters of a kind with which a text begins end at the first place of another character,
or at the end of the text. -/
theorem findFrom?_head? (kind : Char → Bool) (text : String) :
    (findFrom? (·.head?.any (!kind ·)) text).getD text.utf8ByteSize
      = (String.ofList (text.toList.takeWhile kind)).utf8ByteSize := by
  have htext : text = String.ofList (text.toList.takeWhile kind)
      ++ String.ofList (text.toList.dropWhile kind) := by
    rw [← String.ofList_append, List.takeWhile_append_dropWhile, String.ofList_toList]
  have hkind : ∀ c ∈ text.toList.takeWhile kind, kind c = true := fun c hc =>
    List.mem_takeWhile_imp hc
  cases hdrop : text.toList.dropWhile kind with
  | nil =>
    rw [hdrop, String.ofList_nil, String.append_empty] at htext
    -- Every rest of the text begins with a character of the kind, or is empty.
    have hnone : findFrom? (·.head?.any (!kind ·)) text = none := by
      refine findFrom?_eq_none fun b e hbe => ?_
      cases he : e.toList with
      | nil => rfl
      | cons c rest =>
        have hmem : c ∈ text.toList.takeWhile kind := by
          rw [← String.toList_ofList (l := text.toList.takeWhile kind), ← htext, hbe,
            String.toList_append, he]
          exact List.mem_append_right _ List.mem_cons_self
        simp [hkind c hmem]
    rw [hnone, Option.getD_none, ← htext]
  | cons c rest =>
    have hc : kind c = false := by
      have hhead := List.head?_dropWhile_not kind text.toList
      rw [hdrop] at hhead
      simpa using hhead
    have hsome : findFrom? (·.head?.any (!kind ·)) text
        = some (String.ofList (text.toList.takeWhile kind)).utf8ByteSize := by
      refine findFrom?_eq_some htext ?_ fun b e hbe hasked => ?_
      · rw [String.toList_ofList, hdrop]
        simp [hc]
      -- Any earlier rest still begins with a character of the kind.
      · by_contra hlt
        obtain ⟨x, m, hbefore, hx⟩ :=
          exists_cons_of_lt (hbe.symm.trans htext) (Nat.lt_of_not_le hlt)
        have hmem : x ∈ text.toList.takeWhile kind := by
          rw [← String.toList_ofList (l := text.toList.takeWhile kind), hbefore]
          exact List.mem_append_right _ List.mem_cons_self
        rw [hx] at hasked
        simp [hkind x hmem] at hasked
    rw [hsome, Option.getD_some]

/-! ### Numbers -/

/-- A text writes a number of 64 bits: by at least one digit, maybe with a plus sign in front. -/
def Writes (n : Nat) (text : List Char) : Prop :=
  ∃ sign digits, text = sign ++ digits ∧ (sign = [] ∨ sign = ['+']) ∧ digits ≠ []
    ∧ (∀ c ∈ digits, c.isDigit = true) ∧ ofDigits digits = n ∧ n < 2 ^ 64

/-- What `number64?` makes of what follows the sign. -/
theorem readDigits_eq_some_iff {n : Nat} {digits : List Char} :
    (if digits.isEmpty || !digits.all Char.isDigit then none
      else if ofDigits digits < limit64 then some (ofDigits digits)
      else none) = some n
      ↔ digits ≠ [] ∧ (∀ c ∈ digits, c.isDigit = true) ∧ ofDigits digits = n ∧ n < 2 ^ 64 := by
  have hlimit : limit64 = 2 ^ 64 := by decide
  have hcheck : (digits.isEmpty || !digits.all Char.isDigit) = true
      ↔ ¬(digits ≠ [] ∧ ∀ c ∈ digits, c.isDigit = true) := by
    rw [Bool.or_eq_true, List.isEmpty_iff, Bool.not_eq_true', Bool.eq_false_iff, Ne,
      List.all_eq_true, not_and_or, not_not]
  rw [← and_assoc, hlimit]
  split
  · next hbad => exact ⟨fun h => (by cases h), fun h => absurd h.1 (hcheck.mp hbad)⟩
  · next hgood =>
    rw [hcheck, not_not] at hgood
    split
    · next hlt =>
      constructor
      · intro h
        cases h
        exact ⟨hgood, rfl, hlt⟩
      · rintro ⟨-, rfl, -⟩
        rfl
    · next hle =>
      constructor
      · intro h
        cases h
      · rintro ⟨-, rfl, hlt⟩
        exact absurd hlt hle

/-- A number is read exactly from a text that writes it. -/
theorem number64?_eq_some_iff {n : Nat} {text : List Char} : number64? text = some n
    ↔ Writes n text := by
  by_cases hplus : ∃ rest, text = '+' :: rest
  · obtain ⟨rest, rfl⟩ := hplus
    rw [number64?, readDigits_eq_some_iff]
    constructor
    · exact fun h => ⟨['+'], rest, rfl, .inr rfl, h⟩
    · rintro ⟨sign, digits, heq, rfl | rfl, hne, hall, hvalue⟩
      · obtain rfl : '+' :: rest = digits := heq
        exact absurd (hall '+' List.mem_cons_self) (by decide)
      · obtain rfl : rest = digits := (List.cons.inj heq).2
        exact ⟨hne, hall, hvalue⟩
  · rw [number64?, readDigits_eq_some_iff]
    · constructor
      · exact fun h => ⟨[], text, rfl, .inl rfl, h⟩
      · rintro ⟨sign, digits, rfl, rfl | rfl, hne, hall, hvalue⟩
        · exact ⟨hne, hall, hvalue⟩
        · exact absurd ⟨digits, rfl⟩ hplus
    · exact fun rest htext => hplus ⟨rest, htext⟩

/-- The decimal digits of a number write it. -/
theorem ofDigits_toDigits (n : Nat) : ofDigits (Nat.toDigits 10 n) = n := by
  calc
    ofDigits (Nat.toDigits 10 n) = Nat.ofDigitChars 10 (Nat.toDigits 10 n) 0 := by
        rw [ofDigits, Nat.ofDigitChars_eq_foldl]
        simp only [Nat.mul_comm]
    _ = n := Nat.ofDigitChars_toDigits (by decide) (by decide)

/-- A number writes itself. -/
theorem writes_toString {n : Nat} (hn : n < 2 ^ 64) : Writes n (toString n).toList := by
  rw [Nat.toString_eq_repr, Nat.toList_repr]
  exact ⟨[], Nat.toDigits 10 n, rfl, .inl rfl, Nat.toDigits_ne_nil,
    fun c hc => Nat.isDigit_of_mem_toDigits (by decide) (by decide) hc, ofDigits_toDigits n, hn⟩

end QueryLint.Text
