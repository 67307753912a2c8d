import QueryLint.Digest.SipHash
import QueryLint.Text.Blank
import QueryLint.Text.Decimal
import QueryLint.Text.LowerCase
import QueryLint.Text.Word

/-!
# Fingerprints of statements

Two executions of a statement that differ only in literals, blanks and letter case have the same
shape (`normalize`) and thus the same fingerprint. Four replacements run one after the other:
strings and numbers become `?`, lists of `?` become `(?)`, and blanks become one blank. What is left
is trimmed and written in lower case.
-/

namespace QueryLint.Fingerprint

open QueryLint QueryLint.Text

/-! ### Strings -/

/-- What stands behind the quote that closes a string, from behind the opening quote. A doubled
quote belongs to the string, unless nothing behind it closes the string. -/
def closeString : List Char → Option (List Char)
  | [] => none
  | '\'' :: '\'' :: rest =>
    match closeString rest with
    | some behind => some behind
    | none => some ('\'' :: rest)
  | '\'' :: rest => some rest
  | _ :: rest => closeString rest

/-- What stands behind a string is shorter than the text. -/
theorem closeString_length {text behind : List Char} (h : closeString text = some behind) :
    behind.length < text.length := by
  fun_induction closeString text with
  | case1 => simp at h
  | case2 rest b hb ih =>
    simp only [Option.some.injEq] at h
    subst h
    have := ih hb
    simp only [List.length_cons]
    omega
  | case3 rest hb ih =>
    simp only [Option.some.injEq] at h
    subst h
    simp
  | case4 rest hne =>
    simp only [Option.some.injEq] at h
    subst h
    simp
  | case5 c rest _ _ ih =>
    have := ih h
    simp only [List.length_cons]
    omega

/-- A text with `?` in place of every string. -/
def replaceStrings : List Char → List Char
  | [] => []
  | c :: rest =>
    if c == '\'' then
      match h : closeString rest with
      | some behind =>
        have : behind.length < rest.length + 1 :=
          Nat.lt_succ_of_lt (closeString_length h)
        '?' :: replaceStrings behind
      | none => c :: replaceStrings rest
    else c :: replaceStrings rest
termination_by text => text.length

/-! ### Numbers -/

/-- Whether a text starts with a character of a word. -/
def startsWithWord (text : List Char) : Bool :=
  match text with
  | c :: _ => Text.isWord c
  | [] => false

/-- What stands behind a number, from its first digit on. A fraction belongs to the number only if
no word follows it, and digits that a word follows are none. -/
def closeNumber (text : List Char) : Option (List Char) :=
  let rest := text.dropWhile Text.isDecimal
  match rest with
  | '.' :: fraction =>
    let behind := fraction.dropWhile Text.isDecimal
    if behind.length < fraction.length && !startsWithWord behind then some behind else some rest
  | _ => if startsWithWord rest then none else some rest

/-- Dropping characters makes no text longer. -/
theorem dropWhile_length_le (p : Char → Bool) (text : List Char) :
    (text.dropWhile p).length ≤ text.length := by
  induction text with
  | nil => simp
  | cons c rest ih =>
    rw [List.dropWhile_cons]
    split
    · simp only [List.length_cons]
      omega
    · exact Nat.le_refl _

/-- What stands behind a number is shorter than the text. -/
theorem closeNumber_length {c : Char} {text behind : List Char} (hc : Text.isDecimal c = true)
    (h : closeNumber (c :: text) = some behind) : behind.length < text.length + 1 := by
  have hle := dropWhile_length_le Text.isDecimal text
  unfold closeNumber at h
  simp only [List.dropWhile_cons, hc, if_true] at h
  split at h
  · next fraction hf =>
    rw [hf, List.length_cons] at hle
    have := dropWhile_length_le Text.isDecimal fraction
    split at h
    · simp only [Option.some.injEq] at h
      subst h
      omega
    · simp only [Option.some.injEq] at h
      subst h
      rw [hf, List.length_cons]
      omega
  · split at h
    · simp at h
    · simp only [Option.some.injEq] at h
      subst h
      omega

/-- A text with `?` in place of every number that no word touches. The flag says that a word stands
before the text. -/
def replaceNumbers (inWord : Bool) : List Char → List Char
  | [] => []
  | c :: rest =>
    if hd : !inWord && Text.isDecimal c then
      match h : closeNumber (c :: rest) with
      | some behind =>
        have : behind.length < rest.length + 1 :=
          closeNumber_length (Bool.and_eq_true_iff.1 hd).2 h
        '?' :: replaceNumbers true behind
      | none => c :: replaceNumbers true rest
    else c :: replaceNumbers (Text.isWord c) rest
termination_by text => text.length

/-! ### Lists of placeholders -/

/-- What stands behind a list of placeholders, from behind one of them; the fuel bounds their
number. -/
def closeList : Nat → List Char → Option (List Char)
  | 0, _ => none
  | fuel + 1, text =>
    match dropBlanks text with
    | ')' :: rest => some rest
    | ',' :: rest =>
      match dropBlanks rest with
      | '?' :: rest' => closeList fuel rest'
      | _ => none
    | _ => none

/-- What stands behind a list of placeholders, from behind its opening parenthesis. -/
def closePlaceholders (text : List Char) : Option (List Char) :=
  match dropBlanks text with
  | '?' :: rest => closeList text.length rest
  | _ => none

/-- What stands behind a list is shorter than the text. -/
theorem closeList_length {fuel : Nat} {text behind : List Char}
    (h : closeList fuel text = some behind) : behind.length < text.length := by
  induction fuel generalizing text with
  | zero => simp [closeList] at h
  | succ fuel ih =>
    have hle := dropWhile_length_le Text.isBlank text
    unfold closeList at h
    split at h
    · next rest hr =>
      simp only [Text.dropBlanks] at hr
      rw [hr, List.length_cons] at hle
      simp only [Option.some.injEq] at h
      subst h
      omega
    · next rest hr =>
      simp only [Text.dropBlanks] at hr
      rw [hr, List.length_cons] at hle
      split at h
      · next rest' hr' =>
        have hle' := dropWhile_length_le Text.isBlank rest
        simp only [Text.dropBlanks] at hr'
        rw [hr', List.length_cons] at hle'
        have := ih h
        omega
      · simp at h
    · simp at h

/-- What stands behind a list of placeholders is shorter than the text. -/
theorem closePlaceholders_length {text behind : List Char}
    (h : closePlaceholders text = some behind) : behind.length < text.length := by
  have hle := dropWhile_length_le Text.isBlank text
  unfold closePlaceholders at h
  split at h
  · next rest hr =>
    simp only [Text.dropBlanks] at hr
    rw [hr, List.length_cons] at hle
    have := closeList_length h
    omega
  · simp at h

/-- A text with `(?)` in place of every list of placeholders. -/
def replaceLists : List Char → List Char
  | [] => []
  | c :: rest =>
    if c == '(' then
      match h : closePlaceholders rest with
      | some behind =>
        have : behind.length < rest.length + 1 :=
          Nat.lt_succ_of_lt (closePlaceholders_length h)
        '(' :: '?' :: ')' :: replaceLists behind
      | none => c :: replaceLists rest
    else c :: replaceLists rest
termination_by text => text.length

/-! ### Blanks and the whole -/

/-- A text with one blank in place of every run of blanks. The flag says that a blank stands before
the text. -/
def replaceBlanks (behindBlank : Bool) : List Char → List Char
  | [] => []
  | c :: rest =>
    if Text.isBlank c then
      if behindBlank then replaceBlanks true rest else ' ' :: replaceBlanks true rest
    else c :: replaceBlanks false rest

/-- A text without blanks at both ends, then without semicolons and blanks at its end. -/
def trimStatement (text : List Char) : List Char :=
  dropEnd isBlank (dropEnd (· == ';') (trimBlanks text))

/-- The shape of a statement. -/
def shape (text : List Char) : List Char :=
  trimStatement (replaceBlanks false (replaceLists (replaceNumbers false (replaceStrings text))))

/-- The shape of a statement in lower case. -/
def normalize (sql : String) : String :=
  Text.toLowerCase (String.ofList (shape sql.toList))

/-- The fingerprint of a statement. -/
def ofSql (sql : String) : UInt64 :=
  Digest.sipHash (Digest.textBytes (normalize sql))

end QueryLint.Fingerprint
