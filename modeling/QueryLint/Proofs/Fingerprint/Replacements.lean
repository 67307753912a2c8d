import Mathlib.Data.List.Basic
import Mathlib.Data.List.TakeWhile
import QueryLint.Fingerprint

/-!
# Replacements in texts put together

How each of the replacements that make the shape of a statement acts on a text that is put together
from two. A text without quotes is kept when strings are replaced, and a string becomes a mark.
Numbers are replaced on both sides on their own if the two texts are apart, so that no number
reaches from one into the other. Lists of placeholders are replaced on their own in front of an
opening parenthesis, which none of them contains.
-/

namespace QueryLint.Fingerprint

open QueryLint.Text

/-! ### Delimiters -/

/-- A character that no number reaches over: neither part of a word nor a point. -/
def Delimits (c : Char) : Prop := isWord c = false ∧ c ≠ '.'

instance (c : Char) : Decidable (Delimits c) := inferInstanceAs (Decidable (_ ∧ _))

/-- The texts on both sides of a place are apart if a delimiter stands before the place, or one
behind it, or nothing behind it. -/
def Apart (before after : List Char) : Prop :=
  (∃ c ∈ before.getLast?, Delimits c) ∨ ∀ c ∈ after.head?, Delimits c

/-- A digit is part of a word. -/
theorem isWord_of_isDecimal {c : Char} (h : isDecimal c = true) : isWord c = true := by
  simp [isWord, h]

/-- A delimiter is no digit. -/
theorem Delimits.isDecimal_eq {c : Char} (h : Delimits c) : isDecimal c = false := by
  cases hdecimal : isDecimal c with
  | false => rfl
  | true =>
    have hword := isWord_of_isDecimal hdecimal
    rw [h.1] at hword
    cases hword

/-- Two sets of code points have none in common if each range of one lies beside each range of the
other. -/
theorem inRanges_eq_false_of_beside {ranges others : List (Nat × Nat)} {code : Nat}
    (hbeside : ∀ r ∈ ranges, ∀ s ∈ others, r.2 < s.1 ∨ s.2 < r.1)
    (h : inRanges ranges code = true) : inRanges others code = false := by
  obtain ⟨r, hr, hcode⟩ := List.any_eq_true.mp h
  refine List.any_eq_false.mpr fun s hs => ?_
  have hapart := hbeside r hr s hs
  simp only [Bool.and_eq_true, decide_eq_true_eq] at hcode ⊢
  omega

/-- A blank is no letter. -/
theorem isAlpha_eq_false_of_isBlank {c : Char} (h : isBlank c = true) : c.isAlpha = false := by
  have hletters : inRanges [(65, 90), (97, 122)] c.toNat = false :=
    inRanges_eq_false_of_beside (by decide) h
  simp only [inRanges_cons, inRanges_nil, Bool.or_false, Bool.or_eq_false_iff,
    Bool.and_eq_false_iff, decide_eq_false_iff_not] at hletters
  have hupper : c.isUpper = false := decide_eq_false (not_and_or.mpr hletters.1)
  have hlower : c.isLower = false :=
    Bool.and_eq_false_iff.mpr (hletters.2.imp decide_eq_false decide_eq_false)
  exact Bool.or_eq_false_iff.mpr ⟨hupper, hlower⟩

/-- A blank is a delimiter. -/
theorem delimits_of_isBlank {c : Char} (h : isBlank c = true) : Delimits c := by
  have halphabetic : inRanges alphabeticRanges c.toNat = false :=
    inRanges_eq_false_of_beside (by decide +kernel) h
  have hdecimal : isDecimal c = false := inRanges_eq_false_of_beside (by decide +kernel) h
  have hconnecting : inRanges connectingRanges c.toNat = false :=
    inRanges_eq_false_of_beside (by decide +kernel) h
  refine ⟨?_, ?_⟩
  · simp [isWord, isAlphabetic, isAlpha_eq_false_of_isBlank h, halphabetic, hdecimal, hconnecting]
  · rintro rfl
    cases h

/-! ### Strings -/

/-- A closed string becomes a placeholder, and the search goes on behind it. -/
theorem replaceStrings_of_close {text behind : List Char} (h : closeString text = some behind) :
    replaceStrings ('\'' :: text) = '?' :: replaceStrings behind := by
  rw [replaceStrings, if_pos (beq_self_eq_true _)]
  split
  · next found hfound =>
    obtain rfl : found = behind := Option.some.inj (hfound.symm.trans h)
    rfl
  · next hnone =>
    rw [h] at hnone
    cases hnone

/-- Any character but a quote stays as it is. -/
theorem replaceStrings_cons_of_ne {c : Char} (h : c ≠ '\'') (text : List Char) :
    replaceStrings (c :: text) = c :: replaceStrings text := by
  rw [replaceStrings, if_neg (by simpa using h)]

/-- A text without quotes is kept when strings are replaced. -/
theorem replaceStrings_append {text : List Char} (h : '\'' ∉ text) (rest : List Char) :
    replaceStrings (text ++ rest) = text ++ replaceStrings rest := by
  induction text with
  | nil => rfl
  | cons c text ih =>
    have hc : c ≠ '\'' := fun heq => h (heq ▸ List.mem_cons_self)
    have htext : '\'' ∉ text := fun hmem => h (List.mem_cons_of_mem c hmem)
    rw [List.cons_append, replaceStrings_cons_of_ne hc, ih htext, List.cons_append]

/-- The content of a string as it is written: each quote in it twice. -/
def doubled (content : List Char) : List Char :=
  content.flatMap fun c => if c = '\'' then ['\'', '\''] else [c]

theorem doubled_cons (c : Char) (content : List Char) :
    doubled (c :: content) = (if c = '\'' then ['\'', '\''] else [c]) ++ doubled content := rfl

/-- A string ends with the first quote that is not doubled. -/
theorem closeString_doubled (content : List Char) {rest : List Char} (h : rest.head? ≠ some '\'') :
    closeString (doubled content ++ '\'' :: rest) = some rest := by
  induction content with
  | nil =>
    cases rest with
    | nil => rfl
    | cons c rest =>
      have hc : c ≠ '\'' := fun heq => h (congrArg some heq)
      exact closeString.eq_3 _ fun _ heq => hc (List.cons.inj heq).1
  | cons c content ih =>
    rw [doubled_cons, List.append_assoc]
    by_cases hc : c = '\''
    · rw [if_pos hc, List.cons_append, List.cons_append, List.nil_append, closeString, ih]
    · rw [if_neg hc, List.singleton_append, closeString, ih]
      · exact fun _ heq _ => hc heq
      · exact hc

/-- A string becomes a mark, if no further quote follows it. -/
theorem replaceStrings_string (content : List Char) {rest : List Char}
    (h : rest.head? ≠ some '\'') :
    replaceStrings ('\'' :: (doubled content ++ '\'' :: rest)) = '?' :: replaceStrings rest :=
  replaceStrings_of_close (closeString_doubled content h)

/-! ### Numbers -/

/-- A digit at the head of a number that closes becomes a placeholder for the whole of it. -/
theorem replaceNumbers_of_close {c : Char} {text behind : List Char} (hc : isDecimal c = true)
    (h : closeNumber (c :: text) = some behind) :
    replaceNumbers false (c :: text) = '?' :: replaceNumbers true behind := by
  rw [replaceNumbers, dif_pos (by simpa using hc)]
  split
  · next found hfound =>
    obtain rfl : found = behind := Option.some.inj (hfound.symm.trans h)
    rfl
  · next hnone =>
    rw [h] at hnone
    cases hnone

/-- A digit that begins no number stays as it is. -/
theorem replaceNumbers_of_not_close {c : Char} {text : List Char} (hc : isDecimal c = true)
    (h : closeNumber (c :: text) = none) :
    replaceNumbers false (c :: text) = c :: replaceNumbers true text := by
  rw [replaceNumbers, dif_pos (by simpa using hc)]
  split
  · next found hfound =>
    rw [h] at hfound
    cases hfound
  · rfl

/-- A character that is no digit, or one inside a word, stays as it is. -/
theorem replaceNumbers_cons {inWord : Bool} {c : Char} (h : (!inWord && isDecimal c) = false)
    (text : List Char) :
    replaceNumbers inWord (c :: text) = c :: replaceNumbers (isWord c) text := by
  rw [replaceNumbers, dif_neg (by simp [h])]

/-- Whether a word stands before what follows a text, given whether one stands before the text. -/
def wordBehind (inWord : Bool) (text : List Char) : Bool :=
  (text.getLast?.map isWord).getD inWord

@[simp] theorem wordBehind_nil (inWord : Bool) : wordBehind inWord [] = inWord := rfl

/-- Whether a word stands behind a text depends on its last character. -/
theorem wordBehind_cons (inWord : Bool) (c : Char) (text : List Char) :
    wordBehind inWord (c :: text) = wordBehind (isWord c) text := by
  cases text with
  | nil => rfl
  | cons d text =>
    rw [wordBehind, wordBehind, List.getLast?_cons_cons]
    cases hlast : (d :: text).getLast? with
    | none => simp at hlast
    | some last => rfl

/-- What stands behind two texts is told by the second one, after the first. -/
theorem wordBehind_append (inWord : Bool) (before text : List Char) :
    wordBehind inWord (before ++ text) = wordBehind (wordBehind inWord before) text := by
  induction before generalizing inWord with
  | nil => rfl
  | cons c before ih => rw [List.cons_append, wordBehind_cons, ih, wordBehind_cons]

/-- Texts stay apart when something is taken away before them. -/
theorem Apart.of_append {text rest : List Char} (before : List Char)
    (h : Apart (before ++ text) rest) (htext : text ≠ []) : Apart text rest := by
  refine h.imp (fun hlast => ?_) id
  rwa [List.getLast?_append_of_ne_nil before htext] at hlast

/-- A text that is nothing or ends in a decimal digit is apart only from what starts with a
delimiter. -/
theorem Apart.delimits_head {text rest : List Char} (h : Apart text rest)
    (htext : ∀ c ∈ text, isDecimal c = true) : ∀ c ∈ rest.head?, Delimits c := by
  rcases h with ⟨c, hc, hdelimits⟩ | h
  · have hdecimal := htext c (List.mem_of_getLast? hc)
    rw [hdelimits.isDecimal_eq] at hdecimal
    cases hdecimal
  · exact h

/-- A number with a fraction closes behind the fraction if one is there and no word goes on; else
only its digits do. -/
theorem closeNumber_of_point {text fraction : List Char}
    (h : text.dropWhile isDecimal = '.' :: fraction) :
    closeNumber text
      = if (fraction.dropWhile isDecimal).length < fraction.length
          && !startsWithWord (fraction.dropWhile isDecimal)
        then some (fraction.dropWhile isDecimal) else some ('.' :: fraction) := by
  unfold closeNumber
  dsimp only
  rw [h]
  rfl

/-- A number without a point closes behind its digits unless a word goes on. -/
theorem closeNumber_of_no_point {text : List Char}
    (h : ∀ fraction, text.dropWhile isDecimal ≠ '.' :: fraction) :
    closeNumber text
      = if startsWithWord (text.dropWhile isDecimal) then none
        else some (text.dropWhile isDecimal) := by
  unfold closeNumber
  dsimp only
  split
  · next fraction hfraction => exact absurd hfraction (h fraction)
  · rfl

/-- Digits do not reach over a place that keeps the texts apart. -/
theorem dropWhile_append_of_apart {text rest : List Char} (h : Apart text rest) :
    (text ++ rest).dropWhile isDecimal = text.dropWhile isDecimal ++ rest := by
  rw [List.dropWhile_append]
  split
  · next hempty =>
    have hnil := List.isEmpty_iff.mp hempty
    have hhead := h.delimits_head (List.dropWhile_eq_nil_iff.mp hnil)
    rw [hnil, List.nil_append]
    cases rest with
    | nil => rfl
    | cons c rest => rw [List.dropWhile_cons_of_neg (by simp [(hhead c rfl).isDecimal_eq])]
  · rfl

/-- Texts stay apart when the digits in front are taken away. -/
theorem Apart.dropWhile {text rest : List Char} (h : Apart text rest) :
    Apart (text.dropWhile isDecimal) rest := by
  by_cases hnil : text.dropWhile isDecimal = []
  · exact .inr (h.delimits_head (List.dropWhile_eq_nil_iff.mp hnil))
  · rw [← List.takeWhile_append_dropWhile (p := isDecimal) (l := text)] at h
    exact h.of_append _ hnil

/-- Texts stay apart when a point in front is taken away. -/
theorem Apart.of_point {text rest : List Char} (h : Apart ('.' :: text) rest) :
    Apart text rest := by
  cases text with
  | nil =>
    rcases h with ⟨c, hc, hdelimits⟩ | h
    · exact absurd (Option.some.inj hc).symm hdelimits.2
    · exact .inr h
  | cons c text => exact h.of_append ['.'] (List.cons_ne_nil c text)

/-- Whether a word begins a text does not depend on what follows a place that keeps them apart. -/
theorem startsWithWord_append {text rest : List Char} (h : Apart text rest) :
    startsWithWord (text ++ rest) = startsWithWord text := by
  cases text with
  | nil =>
    have hhead := h.delimits_head (by simp)
    cases rest with
    | nil => rfl
    | cons c rest => exact (hhead c rfl).1
  | cons c text => rfl

/-- What stands apart from a text does not add a point to it. -/
theorem Apart.append_ne_point {text rest : List Char} (h : Apart text rest)
    (htext : ∀ fraction, text ≠ '.' :: fraction) (fraction : List Char) :
    text ++ rest ≠ '.' :: fraction := by
  intro heq
  cases text with
  | nil =>
    rw [List.nil_append] at heq
    exact (h.delimits_head (by simp) '.' (by rw [heq]; rfl)).2 rfl
  | cons c text => exact htext text (by rw [(List.cons.inj heq).1])

/-- Where a number ends is told by the text up to a place where the texts are apart. -/
theorem closeNumber_append {text rest : List Char} (h : Apart text rest) :
    closeNumber (text ++ rest) = (closeNumber text).map (· ++ rest) := by
  have hdrop := dropWhile_append_of_apart h
  by_cases hpoint : ∃ fraction, text.dropWhile isDecimal = '.' :: fraction
  · obtain ⟨fraction, hfraction⟩ := hpoint
    have hapart : Apart fraction rest := by
      have hbehind := h.dropWhile
      rw [hfraction] at hbehind
      exact hbehind.of_point
    rw [hfraction, List.cons_append] at hdrop
    rw [closeNumber_of_point hfraction, closeNumber_of_point hdrop,
      dropWhile_append_of_apart hapart, startsWithWord_append hapart.dropWhile]
    simp only [List.length_append, Nat.add_lt_add_iff_right]
    split <;> rfl
  · have hnone : ∀ fraction, text.dropWhile isDecimal ≠ '.' :: fraction :=
      fun fraction heq => hpoint ⟨fraction, heq⟩
    have hnone' : ∀ fraction, (text ++ rest).dropWhile isDecimal ≠ '.' :: fraction := by
      rw [hdrop]
      exact h.dropWhile.append_ne_point hnone
    rw [closeNumber_of_no_point hnone, closeNumber_of_no_point hnone', hdrop,
      startsWithWord_append h.dropWhile]
    split <;> rfl

/-- A word stands behind a text that ends in a digit. -/
theorem wordBehind_of_isDecimal (inWord : Bool) {text : List Char} (hne : text ≠ [])
    (h : ∀ c ∈ text, isDecimal c = true) : wordBehind inWord text = true := by
  have hlast := List.getLast?_eq_some_getLast hne
  rw [wordBehind, hlast]
  exact isWord_of_isDecimal (h _ (List.getLast_mem hne))

/-- A number takes some characters away from a text, and the last of them is a digit. -/
theorem append_of_closeNumber {c : Char} {text behind : List Char} (hc : isDecimal c = true)
    (h : closeNumber (c :: text) = some behind) :
    ∃ number, c :: text = number ++ behind ∧ wordBehind false number = true := by
  have hwhole : (c :: text).takeWhile isDecimal ++ (c :: text).dropWhile isDecimal = c :: text :=
    List.takeWhile_append_dropWhile
  have hdigits : wordBehind false ((c :: text).takeWhile isDecimal) = true := by
    refine wordBehind_of_isDecimal false ?_ fun d hd => List.mem_takeWhile_imp hd
    rw [List.takeWhile_cons_of_pos hc]
    exact List.cons_ne_nil _ _
  by_cases hpoint : ∃ fraction, (c :: text).dropWhile isDecimal = '.' :: fraction
  · obtain ⟨fraction, hfraction⟩ := hpoint
    rw [closeNumber_of_point hfraction] at h
    rw [hfraction] at hwhole
    split at h
    · next hcond =>
      obtain rfl := Option.some.inj h
      have hne : fraction.takeWhile isDecimal ≠ [] := by
        intro hnil
        have hsplit := List.takeWhile_append_dropWhile (p := isDecimal) (l := fraction)
        rw [hnil, List.nil_append] at hsplit
        simp [hsplit] at hcond
      refine ⟨(c :: text).takeWhile isDecimal ++ '.' :: fraction.takeWhile isDecimal, ?_, ?_⟩
      · rw [List.append_assoc, List.cons_append, List.takeWhile_append_dropWhile, hwhole]
      · rw [wordBehind_append, wordBehind_cons]
        exact wordBehind_of_isDecimal _ hne fun d hd => List.mem_takeWhile_imp hd
    · obtain rfl := Option.some.inj h
      exact ⟨_, hwhole.symm, hdigits⟩
  · rw [closeNumber_of_no_point fun fraction heq => hpoint ⟨fraction, heq⟩] at h
    split at h
    · cases h
    · obtain rfl := Option.some.inj h
      exact ⟨_, hwhole.symm, hdigits⟩

/-- Numbers are replaced on both sides of a place on their own, if the texts are apart. -/
theorem replaceNumbers_append {text rest : List Char} (inWord : Bool)
    (h : text ≠ [] → Apart text rest) :
    replaceNumbers inWord (text ++ rest)
      = replaceNumbers inWord text ++ replaceNumbers (wordBehind inWord text) rest := by
  -- By the length, since a number is skipped as a whole.
  induction hlength : text.length using Nat.strongRecOn generalizing text inWord with
  | ind length ih =>
    cases text with
    | nil => rw [wordBehind_nil, replaceNumbers, List.nil_append, List.nil_append]
    | cons c text =>
      have hapart := h (List.cons_ne_nil c text)
      have htext : text ≠ [] → Apart text rest := fun hne => hapart.of_append [c] hne
      have hshorter : text.length < length := by
        rw [← hlength]
        exact Nat.lt_succ_self _
      rw [List.cons_append, wordBehind_cons]
      cases hdigit : !inWord && isDecimal c with
      | false =>
        rw [replaceNumbers_cons hdigit, replaceNumbers_cons hdigit, ih _ hshorter _ htext rfl]
        rfl
      | true =>
        obtain ⟨hfree, hc⟩ := Bool.and_eq_true_iff.mp hdigit
        obtain rfl : inWord = false := by simpa using hfree
        have hclose := closeNumber_append hapart
        rw [List.cons_append] at hclose
        cases hnumber : closeNumber (c :: text) with
        | none =>
          rw [hnumber] at hclose
          rw [replaceNumbers_of_not_close hc hclose, replaceNumbers_of_not_close hc hnumber,
            ih _ hshorter _ htext rfl, isWord_of_isDecimal hc]
          rfl
        | some behind =>
          rw [hnumber] at hclose
          obtain ⟨number, happend, hword⟩ := append_of_closeNumber hc hnumber
          have hbehind : behind ≠ [] → Apart behind rest := by
            rw [happend] at hapart
            exact hapart.of_append _
          have hlt := closeNumber_length hc hnumber
          have hflag : wordBehind (isWord c) text = wordBehind true behind := by
            rw [← wordBehind_cons false, happend, wordBehind_append, hword]
          rw [replaceNumbers_of_close hc hclose, replaceNumbers_of_close hc hnumber, hflag,
            ih behind.length (by simp only [List.length_cons] at hlength; omega) _ hbehind rfl]
          rfl

/-- A delimiter is kept, whatever stands before it, and no word stands behind it. -/
theorem replaceNumbers_delimiter {c : Char} (h : Delimits c) (inWord : Bool) (text : List Char) :
    replaceNumbers inWord (c :: text) = c :: replaceNumbers false text := by
  rw [replaceNumbers_cons (by simp [h.isDecimal_eq]), h.1]

/-- What stands before a text that starts with a delimiter makes no difference to its numbers. -/
theorem replaceNumbers_of_delimits_head {text : List Char} (h : ∀ c ∈ text.head?, Delimits c)
    (inWord : Bool) : replaceNumbers inWord text = replaceNumbers false text := by
  cases text with
  | nil => rw [replaceNumbers, replaceNumbers]
  | cons c text => rw [replaceNumbers_delimiter (h c rfl), replaceNumbers_delimiter (h c rfl)]

/-! ### Lists of placeholders -/

/-- A bracket that opens a closed list of placeholders becomes a list of one. -/
theorem replaceLists_of_close {text behind : List Char} (h : closePlaceholders text = some behind) :
    replaceLists ('(' :: text) = '(' :: '?' :: ')' :: replaceLists behind := by
  rw [replaceLists, if_pos (beq_self_eq_true _)]
  split
  · next found hfound =>
    obtain rfl : found = behind := Option.some.inj (hfound.symm.trans h)
    rfl
  · next hnone =>
    rw [h] at hnone
    cases hnone

/-- A bracket that opens no list of placeholders stays as it is. -/
theorem replaceLists_of_not_close {text : List Char} (h : closePlaceholders text = none) :
    replaceLists ('(' :: text) = '(' :: replaceLists text := by
  rw [replaceLists, if_pos (beq_self_eq_true _)]
  split
  · next found hfound =>
    rw [h] at hfound
    cases hfound
  · rfl

/-- Any character but an opening bracket stays as it is. -/
theorem replaceLists_cons_of_ne {c : Char} (h : c ≠ '(') (text : List Char) :
    replaceLists (c :: text) = c :: replaceLists text := by
  rw [replaceLists, if_neg (by simpa using h)]

/-- Blanks before a text are dropped with those at its head. -/
theorem dropBlanks_append_of_blank {before : List Char} (h : ∀ c ∈ before, isBlank c = true)
    (text : List Char) : dropBlanks (before ++ text) = dropBlanks text := by
  rw [dropBlanks, List.dropWhile_append, List.dropWhile_eq_nil_iff.mpr h]
  rfl

/-- Nothing is dropped before a character that is no blank. -/
theorem dropBlanks_cons {c : Char} (h : isBlank c = false) (text : List Char) :
    dropBlanks (c :: text) = c :: text :=
  List.dropWhile_cons_of_neg (by simp [h])

/-- Blanks are dropped up to an opening parenthesis, whatever follows it. -/
theorem dropBlanks_append_open (text rest : List Char) :
    dropBlanks (text ++ '(' :: rest) = dropBlanks text ++ '(' :: rest := by
  rw [dropBlanks, List.dropWhile_append]
  split
  · next hempty =>
    rw [dropBlanks, List.isEmpty_iff.mp hempty]
    exact dropBlanks_cons (by decide) rest
  · rfl

/-- Dropping blanks makes no text longer. -/
theorem length_dropBlanks_le (text : List Char) : (dropBlanks text).length ≤ text.length :=
  dropWhile_length_le isBlank text

/-- A list of placeholders goes on from behind one of them to its end, and something is left
behind. -/
inductive ClosesList : List Char → List Char → Prop
  | last {text behind : List Char} (h : dropBlanks text = ')' :: behind) : ClosesList text behind
  | more {text rest next behind : List Char} (h : dropBlanks text = ',' :: rest)
      (hnext : dropBlanks rest = '?' :: next) (hrest : ClosesList next behind) :
      ClosesList text behind

/-- With as many steps as there are characters, the end of a list is found exactly if there is
one. -/
theorem closeList_eq_some_iff {fuel : Nat} {text behind : List Char} (h : text.length ≤ fuel) :
    closeList fuel text = some behind ↔ ClosesList text behind := by
  induction fuel generalizing text with
  | zero =>
    obtain rfl := List.length_eq_zero_iff.mp (Nat.le_zero.mp h)
    constructor
    · intro hclose
      cases hclose
    · intro hclose
      cases hclose with
      | last h => cases h
      | more h => cases h
  | succ fuel ih =>
    -- Every placeholder makes the text shorter, so the fuel is enough.
    have hle := length_dropBlanks_le text
    unfold closeList
    constructor
    · intro hclose
      split at hclose
      · next rest hrest =>
        obtain rfl := Option.some.inj hclose
        exact .last hrest
      · next rest hrest =>
        split at hclose
        · next next hnext =>
          have hle' := length_dropBlanks_le rest
          rw [hrest, List.length_cons] at hle
          rw [hnext, List.length_cons] at hle'
          exact .more hrest hnext ((ih (by omega)).mp hclose)
        · cases hclose
      · cases hclose
    · intro hclose
      cases hclose with
      | last hlast => rw [hlast]; rfl
      | @more _ rest next _ hmore hnext hrest =>
        have hle' := length_dropBlanks_le rest
        rw [hmore, List.length_cons] at hle
        rw [hnext, List.length_cons] at hle'
        have hlater : closeList fuel next = some behind := (ih (by omega)).mpr hrest
        simp only [hmore, hnext, hlater]

/-- A list of placeholders closes exactly when, behind blanks, a placeholder stands at its head and
the list goes on to its end. -/
theorem closePlaceholders_eq_some_iff {text behind : List Char} :
    closePlaceholders text = some behind
      ↔ ∃ rest, dropBlanks text = '?' :: rest ∧ ClosesList rest behind := by
  have hle := length_dropBlanks_le text
  unfold closePlaceholders
  constructor
  · intro hclose
    split at hclose
    · next rest hrest =>
      rw [hrest, List.length_cons] at hle
      exact ⟨rest, hrest, (closeList_eq_some_iff (by omega)).mp hclose⟩
    · cases hclose
  · rintro ⟨rest, hrest, hclose⟩
    rw [hrest, List.length_cons] at hle
    rw [hrest]
    exact (closeList_eq_some_iff (by omega)).mpr hclose

/-- What a text before a parenthesis starts with is in front of the parenthesis, if it is no
parenthesis itself. -/
theorem cons_of_append_open {text rest more : List Char} {c : Char} (hc : c ≠ '(')
    (h : text ++ '(' :: rest = c :: more) :
    ∃ tail, text = c :: tail ∧ more = tail ++ '(' :: rest := by
  cases text with
  | nil => exact absurd (List.cons.inj h).1.symm hc
  | cons d text =>
    obtain ⟨rfl, htail⟩ := List.cons.inj h
    exact ⟨text, rfl, htail.symm⟩

/-- A bracket that opens cannot stand inside a list of placeholders: whatever closes does so before
it. -/
theorem closesList_append_open_iff {text rest behind : List Char} :
    ClosesList (text ++ '(' :: rest) behind
      ↔ ∃ left, ClosesList text left ∧ left ++ '(' :: rest = behind := by
  constructor
  · intro h
    generalize hwhole : text ++ '(' :: rest = whole at h
    induction h generalizing text with
    | last h =>
      rw [← hwhole, dropBlanks_append_open] at h
      obtain ⟨left, hleft, rfl⟩ := cons_of_append_open (by decide) h
      exact ⟨left, .last hleft, rfl⟩
    | more h hnext _ ih =>
      rw [← hwhole, dropBlanks_append_open] at h
      obtain ⟨tail, htail, rfl⟩ := cons_of_append_open (by decide) h
      rw [dropBlanks_append_open] at hnext
      obtain ⟨next, hplaceholder, hrest⟩ := cons_of_append_open (by decide) hnext
      obtain ⟨left, hleft, hbehind⟩ := ih hrest.symm
      exact ⟨left, .more htail hplaceholder hleft, hbehind⟩
  · rintro ⟨left, h, rfl⟩
    induction h with
    | last h =>
      refine .last ?_
      rw [dropBlanks_append_open, h]
      rfl
    | more h hnext _ ih =>
      refine .more (by rw [dropBlanks_append_open, h, List.cons_append]) ?_ ih
      rw [dropBlanks_append_open, hnext, List.cons_append]

/-- No list of placeholders reaches over an opening parenthesis. -/
theorem closePlaceholders_append_open (text rest : List Char) :
    closePlaceholders (text ++ '(' :: rest) = (closePlaceholders text).map (· ++ '(' :: rest) := by
  apply Option.ext
  intro behind
  rw [Option.map_eq_some_iff, closePlaceholders_eq_some_iff, dropBlanks_append_open]
  constructor
  · rintro ⟨more, hmore, hclose⟩
    obtain ⟨tail, htail, rfl⟩ := cons_of_append_open (by decide) hmore
    obtain ⟨left, hleft, hbehind⟩ := closesList_append_open_iff.mp hclose
    exact ⟨left, closePlaceholders_eq_some_iff.mpr ⟨tail, htail, hleft⟩, hbehind⟩
  · rintro ⟨left, hclose, rfl⟩
    obtain ⟨tail, htail, hleft⟩ := closePlaceholders_eq_some_iff.mp hclose
    exact ⟨tail ++ '(' :: rest, by rw [htail]; rfl,
      closesList_append_open_iff.mpr ⟨left, hleft, rfl⟩⟩

/-- Lists are replaced on their own before an opening parenthesis. -/
theorem replaceLists_append_open (text rest : List Char) :
    replaceLists (text ++ '(' :: rest) = replaceLists text ++ replaceLists ('(' :: rest) := by
  induction hlength : text.length using Nat.strongRecOn generalizing text with
  | ind length ih =>
    cases text with
    | nil =>
      rw [List.nil_append]
      conv_rhs => rw [replaceLists]
      rfl
    | cons c text =>
      have hshorter : text.length < length := by
        rw [← hlength]
        exact Nat.lt_succ_self _
      rw [List.cons_append]
      by_cases hc : c = '('
      · subst hc
        have hclose := closePlaceholders_append_open text rest
        cases hlist : closePlaceholders text with
        | none =>
          rw [hlist] at hclose
          rw [replaceLists_of_not_close hclose, replaceLists_of_not_close hlist,
            ih _ hshorter text rfl]
          rfl
        | some behind =>
          rw [hlist] at hclose
          have hlt := closePlaceholders_length hlist
          rw [replaceLists_of_close hclose, replaceLists_of_close hlist,
            ih behind.length (Nat.lt_trans hlt hshorter) behind rfl]
          rfl
      · rw [replaceLists_cons_of_ne hc, replaceLists_cons_of_ne hc, ih _ hshorter text rfl]
        rfl

end QueryLint.Fingerprint
