import Mathlib.Data.List.Basic
import QueryLint.Text.LowerCase
import QueryLint.Text.Word

/-!
# What lower case does to a text

A character that has a lower-case form is a letter, and so is that form (`lowerChar_eq_or`). So a
text is changed by lower case in nothing but its letters, where capital `I` with a dot becomes two
of them (`LoweredTo`). What is written in lower case stays as it is (`lowerCase_of_isLowered`).
-/

namespace QueryLint.Text

/-- A character of words that is no digit. -/
def IsLetter (c : Char) : Prop := isWord c = true ∧ isDecimal c = false

instance (c : Char) : Decidable (IsLetter c) := inferInstanceAs (Decidable (_ ∧ _))

/-- A character that is in no word is no letter. -/
theorem IsLetter.ne {c mark : Char} (h : IsLetter c) (hmark : isWord mark = false) : c ≠ mark := by
  rintro rfl
  rw [h.1] at hmark
  cases hmark

/-! ### The table of lower-case forms -/

/-- The ranges of letters, those of ASCII among them. -/
def letterRanges : List (Nat × Nat) := (65, 90) :: (97, 122) :: alphabeticRanges

/-- Whether all code points between two are in one of some ranges. -/
def spanIn (ranges : List (Nat × Nat)) (first last : Nat) : Bool :=
  ranges.any fun r => Nat.ble r.1 first && Nat.ble last r.2

/-- Whether the code points `first`, `first + step`, … are in some ranges, by one range or one by
one. -/
def stepsIn (ranges : List (Nat × Nat)) (first count step : Nat) : Bool :=
  spanIn ranges first (first + (count - 1) * step)
    || (List.range count).all fun k => spanIn ranges (first + k * step) (first + k * step)

/-- Whether no code point between two is in one of some ranges. -/
def spanBeside (ranges : List (Nat × Nat)) (first last : Nat) : Bool :=
  ranges.all fun r => Nat.blt last r.1 || Nat.blt r.2 first

/-- Every step of a run comes no later than its last one. -/
theorem mul_le_of_lt {k count step : Nat} (hk : k < count) : k * step ≤ (count - 1) * step :=
  Nat.mul_le_mul_right step (Nat.le_sub_one_of_lt hk)

/-- Every code point of a run is in the ranges if the check of the run passes. -/
theorem inRanges_of_stepsIn {ranges : List (Nat × Nat)} {first count step k : Nat}
    (h : stepsIn ranges first count step = true) (hk : k < count) :
    inRanges ranges (first + k * step) = true := by
  have hin : ∀ {lo hi code}, spanIn ranges lo hi = true → lo ≤ code → code ≤ hi →
      inRanges ranges code = true := by
    intro lo hi code hspan hlo hhi
    obtain ⟨r, hr, hle⟩ := List.any_eq_true.mp hspan
    simp only [Bool.and_eq_true, Nat.ble_eq] at hle
    refine List.any_eq_true.mpr ⟨r, hr, ?_⟩
    simp only [Bool.and_eq_true, decide_eq_true_eq]
    omega
  rcases Bool.or_eq_true_iff.mp h with h | h
  · exact hin h (Nat.le_add_right _ _) (Nat.add_le_add_left (mul_le_of_lt hk) first)
  · exact hin (List.all_eq_true.mp h k (List.mem_range.mpr hk)) (Nat.le_refl _) (Nat.le_refl _)

/-- No code point of a run is in the ranges if none between the first and the last is. -/
theorem inRanges_eq_false_of_spanBeside {ranges : List (Nat × Nat)} {first count step k : Nat}
    (h : spanBeside ranges first (first + (count - 1) * step) = true) (hk : k < count) :
    inRanges ranges (first + k * step) = false := by
  have hle : k * step ≤ (count - 1) * step := mul_le_of_lt hk
  refine List.any_eq_false.mpr fun r hr => ?_
  have hbeside := List.all_eq_true.mp h r hr
  simp only [Bool.or_eq_true, Nat.blt_eq] at hbeside
  simp only [Bool.and_eq_true, decide_eq_true_eq]
  omega

/-- What has a lower-case form is a letter. -/
theorem runs_from_letters : (lowerCaseRuns.all fun (first, count, step, _) =>
    stepsIn letterRanges first count step
      && spanBeside decimalRanges first (first + (count - 1) * step)) = true := by
  decide +kernel

/-- What no lower-case form is: a capital of ASCII, a capital `I` with a dot, a capital sigma, no
character at all, or a digit. -/
def unloweredRanges : List (Nat × Nat) :=
  (65, 90) :: (304, 304) :: (931, 931) :: (55296, 57343) :: decimalRanges

/-- Lower-case forms are letters. -/
theorem runs_to_letters : (lowerCaseRuns.all fun (_, count, step, target) =>
    stepsIn letterRanges target count step
      && spanBeside unloweredRanges target (target + (count - 1) * step)
      && Nat.blt (target + (count - 1) * step) 1114112) = true := by
  decide +kernel

/-- Lower-case forms have no other lower-case form: where the code points of two runs mingle, the
sources of one have another parity than the targets of the other. -/
theorem runs_apart : (lowerCaseRuns.all fun (_, count, step, target) =>
    lowerCaseRuns.all fun (first, count', step', _) =>
      Nat.blt (target + (count - 1) * step) first || Nat.blt (first + (count' - 1) * step') target
        || (Nat.beq step' 2 && (Nat.beq step 2 || Nat.beq count 1)
          && !Nat.beq (target % 2) (first % 2))) = true := by
  decide +kernel

/-- A code point of a run has the image at the same place of the targets. -/
def Maps (code image : Nat) : Prop :=
  ∃ first count step target k, (first, count, step, target) ∈ lowerCaseRuns ∧ k < count
    ∧ code = first + k * step ∧ image = target + k * step

/-- The image of a code point in a run is the one that the run has for it. -/
theorem maps_of_lowerCaseIn? {code image : Nat} {run : Nat × Nat × Nat × Nat}
    (hrun : run ∈ lowerCaseRuns) (h : lowerCaseIn? code run = some image) : Maps code image := by
  obtain ⟨first, count, step, target⟩ := run
  simp only [lowerCaseIn?] at h
  split at h
  · next hcode =>
    simp only [Bool.and_eq_true, decide_eq_true_eq, beq_iff_eq] at hcode
    obtain ⟨⟨hfirst, hlast⟩, hstep⟩ := hcode
    have hoffset : (code - first) / step * step = code - first :=
      Nat.div_mul_cancel (Nat.dvd_of_mod_eq_zero hstep)
    refine ⟨first, count, step, target, (code - first) / step, hrun, ?_, by omega, ?_⟩
    · exact Nat.div_lt_of_lt_mul (by rw [Nat.mul_comm]; omega)
    · rw [hoffset]
      exact (Option.some.inj h).symm
  · cases h

/-- A character stays, is a capital of ASCII, or has an image in the table. -/
theorem lowerChar_cases (c : Char) :
    lowerChar c = c ∨ (65 ≤ c.toNat ∧ c.toNat ≤ 90 ∧ lowerChar c = c.toLower)
      ∨ ∃ image, Maps c.toNat image ∧ lowerChar c = Char.ofNat image := by
  unfold lowerChar
  split
  · by_cases hupper : c.val ≥ 'A'.val ∧ c.val ≤ 'Z'.val
    · exact .inr
        (.inl ⟨UInt32.le_iff_toNat_le.mp hupper.1, UInt32.le_iff_toNat_le.mp hupper.2, rfl⟩)
    · exact .inl (dif_neg hupper)
  · split
    · next image himage =>
      obtain ⟨run, hrun, hin⟩ := List.exists_of_findSome?_eq_some himage
      exact .inr (.inr ⟨image, maps_of_lowerCaseIn? hrun hin, rfl⟩)
    · exact .inl rfl

/-! ### Characters -/

/-- The ASCII letters are those of two ranges. -/
theorem isAlpha_iff {c : Char} :
    c.isAlpha = true ↔ inRanges [(65, 90), (97, 122)] c.toNat = true := by
  have hupper : c.isUpper = true ↔ 65 ≤ c.toNat ∧ c.toNat ≤ 90 := decide_eq_true_iff
  have hlower : c.isLower = true ↔ 97 ≤ c.toNat ∧ c.toNat ≤ 122 :=
    Bool.and_eq_true_iff.trans (and_congr decide_eq_true_iff decide_eq_true_iff)
  have halpha : c.isAlpha = true ↔ c.isUpper = true ∨ c.isLower = true := Bool.or_eq_true_iff
  simp only [halpha, hupper, hlower, inRanges_cons, inRanges_nil, Bool.or_eq_true, Bool.and_eq_true,
    decide_eq_true_eq, Bool.or_false]

/-- A letter is part of a word. -/
theorem isWord_of_inRanges {c : Char} (h : inRanges letterRanges c.toNat = true) :
    isWord c = true := by
  have hbeyond : ∀ r ∈ alphabeticRanges, 127 < r.1 := by decide +kernel
  have hsplit : inRanges letterRanges c.toNat
      = (inRanges [(65, 90), (97, 122)] c.toNat || inRanges alphabeticRanges c.toNat) := by
    rw [letterRanges, inRanges_cons, inRanges_cons, inRanges_cons, inRanges_cons, inRanges_nil,
      Bool.or_false, Bool.or_assoc]
  rw [hsplit, Bool.or_eq_true] at h
  suffices hletter : c.isAlpha = true ∨ 127 < c.toNat ∧ inRanges alphabeticRanges c.toNat = true by
    simp [isWord, isAlphabetic, hletter]
  rcases h with hascii | halphabetic
  · exact .inl (isAlpha_iff.mpr hascii)
  · obtain ⟨r, hr, hcode⟩ := List.any_eq_true.mp halphabetic
    simp only [Bool.and_eq_true, decide_eq_true_eq] at hcode
    exact .inr ⟨Nat.lt_of_lt_of_le (hbeyond r hr) hcode.1, halphabetic⟩

/-- A character with an image in the table is a letter. -/
theorem Maps.isLetter {c : Char} {image : Nat} (h : Maps c.toNat image) : IsLetter c := by
  obtain ⟨first, count, step, target, k, hrun, hk, hcode, -⟩ := h
  have hletters := List.all_eq_true.mp runs_from_letters _ hrun
  simp only [Bool.and_eq_true] at hletters
  refine ⟨isWord_of_inRanges ?_, ?_⟩
  · rw [hcode]
    exact inRanges_of_stepsIn hletters.1 hk
  · rw [isDecimal, hcode]
    exact inRanges_eq_false_of_spanBeside hletters.2 hk

/-- The image of a code point is the code point of a letter, and in none of the ranges without
lower-case forms. -/
theorem Maps.image {code image : Nat} (h : Maps code image) :
    (Char.ofNat image).toNat = image ∧ inRanges letterRanges image = true
      ∧ inRanges unloweredRanges image = false := by
  obtain ⟨first, count, step, target, k, hrun, hk, -, rfl⟩ := h
  have hletters := List.all_eq_true.mp runs_to_letters _ hrun
  simp only [Bool.and_eq_true, Nat.blt_eq] at hletters
  obtain ⟨⟨hin, hbeside⟩, hlast⟩ := hletters
  have hout := inRanges_eq_false_of_spanBeside hbeside hk
  have hle : k * step ≤ (count - 1) * step := mul_le_of_lt hk
  refine ⟨?_, inRanges_of_stepsIn hin hk, hout⟩
  have hvalid : (target + k * step).isValidChar := by
    rw [unloweredRanges, inRanges_cons, inRanges_cons, inRanges_cons, inRanges_cons] at hout
    simp only [Bool.or_eq_false_iff, Bool.and_eq_false_iff, decide_eq_false_iff_not] at hout
    have hsurrogate := hout.2.2.2.1
    unfold Nat.isValidChar
    omega
  rw [Char.ofNat, dif_pos hvalid]
  rfl

/-- An image in the table has no image itself. -/
theorem Maps.not_maps_image {code image : Nat} (h : Maps code image) (other : Nat) :
    ¬Maps image other := by
  rintro ⟨first', count', step', target', j, hrun', hj, himage', -⟩
  obtain ⟨first, count, step, target, k, hrun, hk, -, himage⟩ := h
  have hapart := List.all_eq_true.mp (List.all_eq_true.mp runs_apart _ hrun) _ hrun'
  simp only [Bool.or_eq_true, Bool.and_eq_true, Nat.blt_eq, Nat.beq_eq, Bool.not_eq_true'] at hapart
  have hle : k * step ≤ (count - 1) * step := mul_le_of_lt hk
  have hle' : j * step' ≤ (count' - 1) * step' := mul_le_of_lt hj
  rcases hapart with (hbefore | hbehind) | ⟨⟨rfl, hsteps⟩, hparity⟩
  · omega
  · omega
  · have hne := Nat.ne_of_beq_eq_false hparity
    rcases hsteps with rfl | rfl
    · omega
    · obtain rfl := Nat.lt_one_iff.mp hk
      omega

/-- A character that is kept when a text is written in lower case, whatever stands around it. -/
def IsLowered (c : Char) : Prop := lowerChar c = c ∧ c ≠ 'Σ' ∧ c ≠ 'İ'

instance (c : Char) : Decidable (IsLowered c) := inferInstanceAs (Decidable (_ ∧ _))

/-- What is true of the capitals of ASCII is true of each of them. -/
theorem forall_capital {p : Char → Prop} (h : ∀ n ∈ List.range' 65 26, p (Char.ofNat n)) {c : Char}
    (hlow : 65 ≤ c.toNat) (hhigh : c.toNat ≤ 90) : p c := by
  have hcapital := h c.toNat (List.mem_range'_1.mpr (by omega))
  rwa [Char.ofNat_toNat] at hcapital

/-- A character either stays in lower case or is a letter, and becomes one. -/
theorem lowerChar_eq_or (c : Char) : lowerChar c = c ∨ IsLetter c ∧ IsLetter (lowerChar c) := by
  rcases lowerChar_cases c with hkept | ⟨hlow, hhigh, hlower⟩ | ⟨image, hmaps, hlower⟩
  · exact .inl hkept
  · right
    rw [hlower]
    exact forall_capital (p := fun c => IsLetter c ∧ IsLetter c.toLower)
      (by decide +kernel) hlow hhigh
  · obtain ⟨hcode, hletter, hout⟩ := hmaps.image
    have hdecimal : inRanges decimalRanges image = false := by
      simp only [unloweredRanges, inRanges_cons, Bool.or_eq_false_iff] at hout
      exact hout.2.2.2.2
    rw [hlower]
    refine .inr ⟨hmaps.isLetter, isWord_of_inRanges (hcode.symm ▸ hletter), ?_⟩
    rw [isDecimal, hcode, hdecimal]

/-- A character in lower case stays, except for those that depend on what stands around them. -/
theorem isLowered_lowerChar {c : Char} (hsigma : c ≠ 'Σ') (hdotted : c ≠ 'İ') :
    IsLowered (lowerChar c) := by
  rcases lowerChar_cases c with hkept | ⟨hlow, hhigh, hlower⟩ | ⟨image, hmaps, hlower⟩
  · rw [hkept]
    exact ⟨hkept, hsigma, hdotted⟩
  · rw [hlower]
    exact forall_capital (p := fun c => IsLowered c.toLower) (by decide +kernel) hlow hhigh
  · obtain ⟨hcode, -, hout⟩ := hmaps.image
    have hne : ∀ {d : Char}, inRanges unloweredRanges d.toNat = true → Char.ofNat image ≠ d := by
      rintro d hd rfl
      rw [hcode, hout] at hd
      cases hd
    rw [hlower]
    refine ⟨?_, hne (by decide), hne (by decide)⟩
    rcases lowerChar_cases (Char.ofNat image) with hkept | ⟨hlow, hhigh, -⟩ | ⟨other, hagain, -⟩
    · exact hkept
    · rw [hcode] at hlow hhigh
      rw [unloweredRanges, inRanges_cons, Bool.or_eq_false_iff, Bool.and_eq_false_iff,
        decide_eq_false_iff_not, decide_eq_false_iff_not] at hout
      exact absurd ⟨hlow, hhigh⟩ (not_and_or.mpr hout.1)
    · exact absurd (hcode ▸ hagain) (hmaps.not_maps_image other)

/-! ### Texts -/

/-- A text is changed to another one in nothing but its letters: each of them becomes one or two
letters. -/
inductive LoweredTo : List Char → List Char → Prop
  | nil : LoweredTo [] []
  | kept {s t : List Char} (c : Char) (rest : LoweredTo s t) : LoweredTo (c :: s) (c :: t)
  | letter {c d : Char} {s t : List Char} (hc : IsLetter c) (hd : IsLetter d)
    (rest : LoweredTo s t) :
      LoweredTo (c :: s) (d :: t)
  | letters {c d e : Char} {s t : List Char} (hc : IsLetter c) (hd : IsLetter d) (he : IsLetter e)
      (rest : LoweredTo s t) : LoweredTo (c :: s) (d :: e :: t)

/-- What a character becomes is one of three: a form of sigma, two characters, or its own lower-case
form. -/
theorem lowerBetween_cases (before : List Char) (c : Char) (after : List Char) :
    (∃ d, lowerBetween before c after = [d] ∧ IsLowered d ∧ (d = c ∨ IsLetter c ∧ IsLetter d))
      ∨ c = 'İ' ∧ lowerBetween before c after = ['i', '\u0307'] := by
  unfold lowerBetween
  split
  · next hsigma =>
    obtain rfl := eq_of_beq hsigma
    left
    split
    · exact ⟨'ς', rfl, by decide +kernel, .inr (by decide +kernel)⟩
    · exact ⟨'σ', rfl, by decide +kernel, .inr (by decide +kernel)⟩
  · next hsigma =>
    split
    · next hdotted => exact .inr ⟨eq_of_beq hdotted, rfl⟩
    · next hdotted =>
      refine .inl ⟨lowerChar c, rfl, isLowered_lowerChar ?_ ?_, lowerChar_eq_or c⟩
      · simpa using hsigma
      · simpa using hdotted

/-- Lower case changes nothing but letters. -/
theorem loweredTo_lowerCase (text : List Char) : LoweredTo text (lowerCase text) := by
  have hafter : ∀ before, LoweredTo text (lowerAfter before text) := by
    induction text with
    | nil => exact fun _ => .nil
    | cons c text ih =>
      intro before
      rw [lowerAfter]
      rcases lowerBetween_cases before c text with ⟨d, hd, -, rfl | ⟨hc, hletter⟩⟩ | ⟨rfl, hd⟩
      · rw [hd]
        exact .kept d (ih _)
      · rw [hd]
        exact .letter hc hletter (ih _)
      · rw [hd]
        exact .letters (by decide +kernel) (by decide +kernel) (by decide +kernel) (ih _)
  exact hafter []

/-- Every character of a text in lower case stays in lower case. -/
theorem isLowered_of_mem_lowerCase {text : List Char} : ∀ c ∈ lowerCase text, IsLowered c := by
  have hafter : ∀ before, ∀ c ∈ lowerAfter before text, IsLowered c := by
    induction text with
    | nil => exact fun _ _ hc => absurd hc List.not_mem_nil
    | cons c text ih =>
      intro before d hd
      rw [lowerAfter, List.mem_append] at hd
      rcases hd with hd | hd
      · rcases lowerBetween_cases before c text with ⟨e, he, hlowered, -⟩ | ⟨-, hpair⟩
        · rw [he, List.mem_singleton] at hd
          exact hd ▸ hlowered
        · rw [hpair] at hd
          rcases List.mem_pair.mp hd with rfl | rfl
          · decide +kernel
          · decide +kernel
      · exact ih _ d hd
  exact hafter []

/-- What is written in lower case stays as it is. -/
theorem lowerCase_of_isLowered {text : List Char} (h : ∀ c ∈ text, IsLowered c) :
    lowerCase text = text := by
  have hafter : ∀ before, lowerAfter before text = text := by
    induction text with
    | nil => exact fun _ => rfl
    | cons c text ih =>
      intro before
      obtain ⟨⟨hlower, hsigma, hdotted⟩, htext⟩ := List.forall_mem_cons.mp h
      rw [lowerAfter, ih htext, lowerBetween, if_neg (by simpa using hsigma),
        if_neg (by simpa using hdotted), hlower]
      rfl
  exact hafter []

end QueryLint.Text
