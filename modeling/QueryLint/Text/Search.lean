/-!
# Searching in texts

Splitting a text at a marker, and comparing texts without regard to the case of ASCII letters.
-/

namespace QueryLint.Text

/-! ### Markers -/

/-- The parts of a text before and behind the first occurrence of a marker. -/
def splitFirst (marker : List Char) : List Char → Option (List Char × List Char)
  | [] => if marker.isEmpty then some ([], []) else none
  | c :: rest =>
    if marker.isPrefixOf (c :: rest) then some ([], (c :: rest).drop marker.length)
    else (splitFirst marker rest).map fun (before, behind) => (c :: before, behind)

/-- The parts of a text before and behind the last occurrence of a character. -/
def splitLast (mark : Char) : List Char → Option (List Char × List Char)
  | [] => none
  | c :: rest =>
    match splitLast mark rest with
    | some (before, behind) => some (c :: before, behind)
    | none => if c == mark then some ([], rest) else none

/-- A text that is split is put together again by the mark. -/
theorem append_of_splitLast {mark : Char} {text before behind : List Char}
    (h : splitLast mark text = some (before, behind)) : text = before ++ mark :: behind := by
  induction text generalizing before behind with
  | nil => simp [splitLast] at h
  | cons c rest ih =>
    rw [splitLast] at h
    split at h
    · next b e hs =>
      simp only [Option.some.injEq, Prod.mk.injEq] at h
      obtain ⟨rfl, rfl⟩ := h
      simp [ih hs]
    · split at h
      · next hc =>
        simp only [Option.some.injEq, Prod.mk.injEq] at h
        obtain ⟨rfl, rfl⟩ := h
        simp [eq_of_beq hc]
      · simp at h

/-- A text is not split exactly when the mark is not in it. -/
theorem splitLast_eq_none_iff {mark : Char} {text : List Char} :
    splitLast mark text = none ↔ mark ∉ text := by
  induction text with
  | nil => simp [splitLast]
  | cons c rest ih =>
    rw [splitLast]
    split
    · next h =>
      have hmem : mark ∈ rest := by simp [append_of_splitLast h]
      simp [hmem]
    · next h =>
      have hrest := ih.mp h
      by_cases hc : c = mark
      · simp [hc]
      · simp [hc, Ne.symm hc, hrest]

/-- A text is split where only the part behind does not have the character. -/
theorem splitLast_eq_some_iff {mark : Char} {text before behind : List Char} :
    splitLast mark text = some (before, behind) ↔ text = before ++ mark :: behind
      ∧ mark ∉ behind := by
  induction text generalizing before with
  | nil => simp [splitLast]
  | cons c rest ih =>
    rw [splitLast]
    split
    · next b e h =>
      constructor
      · intro hsome
        simp only [Option.some.injEq, Prod.mk.injEq] at hsome
        obtain ⟨rfl, rfl⟩ := hsome
        obtain ⟨rfl, hmark⟩ := ih.mp h
        exact ⟨rfl, hmark⟩
      · rintro ⟨heq, hmark⟩
        cases before with
        | nil =>
          obtain ⟨rfl, rfl⟩ := List.cons.inj heq
          rw [splitLast_eq_none_iff.mpr hmark] at h
          cases h
        | cons d before =>
          obtain ⟨rfl, hrest⟩ := List.cons.inj heq
          rw [ih.mpr ⟨hrest, hmark⟩] at h
          cases h
          rfl
    · next h =>
      have hnone := splitLast_eq_none_iff.mp h
      constructor
      · intro hsome
        split at hsome
        · next hc =>
          simp only [Option.some.injEq, Prod.mk.injEq] at hsome
          obtain ⟨rfl, rfl⟩ := hsome
          exact ⟨by rw [eq_of_beq hc]; rfl, hnone⟩
        · cases hsome
      · rintro ⟨heq, hmark⟩
        cases before with
        | nil =>
          obtain ⟨rfl, rfl⟩ := List.cons.inj heq
          rw [if_pos (beq_self_eq_true c)]
        | cons d before =>
          obtain ⟨rfl, rfl⟩ := List.cons.inj heq
          simp at hnone

/-- A text divided at every occurrence of a character, into one part more than there are. -/
def splitAll (mark : Char) : List Char → List (List Char)
  | [] => [[]]
  | c :: rest =>
    if c == mark then [] :: splitAll mark rest
    else match splitAll mark rest with
      | [] => [[c]]
      | part :: parts => (c :: part) :: parts

/-! ### Letter case -/

/-- A text with its ASCII letters in lower case. -/
def asciiLower (text : String) : String :=
  text.map Char.toLower

/-- Whether two texts differ at most in the case of ASCII letters. -/
def sameLetters (a b : String) : Bool :=
  asciiLower a == asciiLower b

/-- Two texts have the same letters exactly when they are the same in lower case. -/
theorem sameLetters_iff {a b : String} : sameLetters a b = true ↔ asciiLower a = asciiLower b := by
  simp [sameLetters]

/-- A text has its own letters. -/
theorem sameLetters_self (a : String) : sameLetters a a = true :=
  sameLetters_iff.mpr rfl

/-- Having the same letters is symmetric. -/
theorem sameLetters_comm (a b : String) : sameLetters a b = sameLetters b a :=
  BEq.comm

/-! ### Numbers -/

/-- The first number that does not fit into 64 bits. -/
def limit64 : Nat := 1 <<< 64

/-- The number that decimal digits stand for. -/
def ofDigits (digits : List Char) : Nat :=
  digits.foldl (fun n c => n * 10 + (c.toNat - '0'.toNat)) 0

/-- The 64-bit number that a text of at least one digit stands for, with an optional plus sign. -/
def number64? (text : List Char) : Option Nat :=
  let digits := match text with
    | '+' :: rest => rest
    | other => other
  if digits.isEmpty || !digits.all Char.isDigit then none
  else if ofDigits digits < limit64 then some (ofDigits digits)
  else none

end QueryLint.Text
