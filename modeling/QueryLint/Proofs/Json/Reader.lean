import Mathlib.Tactic.SplitIfs
import QueryLint.Document.Json
import QueryLint.Json.Reader

/-!
# Reading back what was written

What the readers of JSON make of texts and numbers as `Document.compact` and `Document.pretty` write
them. Each lemma is about one reader in front of a written value and whatever is behind it: the
reader yields the value and stands where the value ends. Readers are composed by `bind_of_ok`.

A text goes character by character (`textFrom_escape`), since a character is escaped alone. The end
of a number is only seen from what is behind it, so its lemmas ask that nothing there goes on with
the number (`EndsNumber`).
-/

namespace QueryLint.Json.Reader

open QueryLint.Document (escapeChar hexDigit quote quoteText)

variable {α β : Type} {s s' gap rest : List Char} {c : Char}

/-! ### Steps -/

/-- What two readers make of a text, the first of which yields a value. -/
theorem bind_of_ok {x : Reader α} {f : α → Reader β} {a : α} (h : x s = .ok (a, s')) :
    (x >>= f) s = f a s' := by
  change (x s >>= fun p => f p.1 p.2) = f a s'
  rw [h]
  rfl

/-- Looking at the next character takes nothing. -/
theorem peek_eq : peek s = .ok (s.head?, s) := rfl

/-- Advancing takes the first character. -/
theorem advance_cons : advance (c :: s) = .ok (some c, s) := rfl

theorem take_cons {atEnd : Fault} : take atEnd (c :: s) = .ok (c, s) := rfl

/-- Between tokens any gap may stand. -/
theorem peekToken_gap (hgap : ∀ g ∈ gap, isGap g = true) (hc : isGap c = false) :
    peekToken (gap ++ c :: s) = .ok (some c, c :: s) := by
  have hdrop : (gap ++ c :: s).dropWhile isGap = c :: s := by
    rw [List.dropWhile_append_of_pos hgap, List.dropWhile_cons_of_neg (by rw [hc]; decide)]
  change Except.ok (((gap ++ c :: s).dropWhile isGap).head?, (gap ++ c :: s).dropWhile isGap) = _
  rw [hdrop]
  rfl

/-- Where no gap stands in front, the next character is the first one. -/
theorem peekToken_cons (hc : isGap c = false) : peekToken (c :: s) = .ok (some c, c :: s) := by
  rw [← List.nil_append (c :: s)]
  exact peekToken_gap (List.forall_mem_nil _) hc

/-! ### Texts -/

/-- A hexadecimal digit is read as its value. -/
theorem digitValue?_hexDigit : ∀ n < 16, Text.digitValue? 16 (hexDigit n) = some n := by
  decide

/-- Four digits of which the first two are zero are read as the value of the last two. -/
theorem fourDigits_hexDigit {m n : Nat} (hm : m < 16) (hn : n < 16) :
    fourDigits ('0' :: '0' :: hexDigit m :: hexDigit n :: s) = .ok (m * 16 + n, s) := by
  have hzero : Text.digitValue? 16 '0' = some 0 := by decide
  unfold fourDigits
  rw [bind_of_ok rfl]
  simp only [List.take_succ_cons, List.take_zero, List.mapM_cons, List.mapM_nil, hzero,
    digitValue?_hexDigit m hm, digitValue?_hexDigit n hn, Option.pure_def, Option.bind_eq_bind,
    Option.bind_some, List.drop_succ_cons, List.drop_zero, List.foldl_cons, List.foldl_nil,
    Nat.zero_mul,
    Nat.zero_add]
  rfl

/-- A character is written by a letter behind a backslash, by its number, or as it is. -/
theorem escapeChar_cases (c : Char) :
    (∃ letter, escapeChar c = ['\\', letter] ∧ letter ≠ 'u' ∧ letterEscape? letter = some c)
      ∨ escapeChar c
          = ['\\', 'u', '0', '0', hexDigit (c.toNat / 16), hexDigit (c.toNat % 16)] ∧ c.toNat < 32
      ∨ escapeChar c = [c] ∧ c ≠ '\x22' ∧ c ≠ '\\' ∧ 32 ≤ c.toNat := by
  unfold escapeChar
  simp only [beq_iff_eq]
  split_ifs with hquote hslash hback hfeed hline hreturn htab hcontrol
  all_goals try exact .inl ⟨_, rfl, by decide, by subst c; rfl⟩
  · exact .inr (.inl ⟨rfl, hcontrol⟩)
  · exact .inr (.inr ⟨rfl, hquote, hslash, by omega⟩)

/-- A letter behind a backslash is read as what it stands for. -/
theorem escape_letter {letter : Char} (hletter : letter ≠ 'u')
    (hmeant : letterEscape? letter = some c) : escape false (letter :: s) = .ok (c, s) := by
  unfold escape
  rw [bind_of_ok take_cons]
  simp only [beq_iff_eq]
  rw [if_neg hletter, hmeant]
  rfl

/-- A control character is read back from its four digits. -/
theorem escape_control (hc : c.toNat < 32) :
    escape false ('u' :: '0' :: '0' :: hexDigit (c.toNat / 16) :: hexDigit (c.toNat % 16) :: s)
      = .ok (c, s) := by
  have hdigits : fourDigits ('0' :: '0' :: hexDigit (c.toNat / 16) :: hexDigit (c.toNat % 16) :: s)
      = .ok (c.toNat, s) := by
    rw [fourDigits_hexDigit (by omega) (by omega), Nat.div_add_mod']
  have hfirst : isFirstHalf c.toNat = false := by
    rw [isFirstHalf, Bool.and_eq_false_iff, decide_eq_false_iff_not]
    exact .inl (by omega)
  have hsecond : isSecondHalf c.toNat = false := by
    rw [isSecondHalf, Bool.and_eq_false_iff, decide_eq_false_iff_not]
    exact .inl (by omega)
  change codePoint ('0' :: '0' :: hexDigit (c.toNat / 16) :: hexDigit (c.toNat % 16) :: s) = _
  unfold codePoint
  rw [bind_of_ok hdigits, hfirst, hsecond, Char.ofNat_toNat]
  rfl

/-- A written character is taken as the character. -/
theorem textFrom_escape {content : List Char} {fuel : Nat}
    (h : textFrom false fuel s = .ok (content, rest)) :
    textFrom false (fuel + 1) (escapeChar c ++ s) = .ok (c :: content, rest) := by
  rw [textFrom]
  obtain ⟨letter, hc, hletter, hmeant⟩ | ⟨hc, hcontrol⟩ | ⟨hc, hquote, hslash, hcontrol⟩ :=
    escapeChar_cases c
  · rw [hc, List.cons_append, bind_of_ok take_cons, if_neg (by decide), if_pos (by decide),
      List.singleton_append, bind_of_ok (escape_letter hletter hmeant), bind_of_ok h]
    rfl
  · rw [hc, List.cons_append, bind_of_ok take_cons, if_neg (by decide), if_pos (by decide)]
    simp only [List.cons_append, List.nil_append]
    rw [bind_of_ok (escape_control hcontrol), bind_of_ok h]
    rfl
  · rw [hc, List.singleton_append, bind_of_ok take_cons]
    simp only [beq_iff_eq]
    rw [if_neg hquote, if_neg hslash, if_neg (by omega), bind_of_ok h]
    rfl

/-- The escaped content of a text is read back up to the quote behind it, with enough fuel. -/
theorem textFrom_quote {content : List Char} {fuel : Nat} (h : content.length < fuel) :
    textFrom false fuel (content.flatMap escapeChar ++ '\x22' :: rest) = .ok (content, rest) := by
  obtain ⟨fuel, rfl⟩ : ∃ n, fuel = n + 1 := ⟨fuel - 1, by omega⟩
  induction content generalizing fuel with
  | nil => rfl
  | cons c content ih =>
    rw [List.length_cons] at h
    obtain ⟨fuel, rfl⟩ : ∃ n, fuel = n + 1 := ⟨fuel - 1, by omega⟩
    rw [List.flatMap_cons, List.append_assoc]
    exact textFrom_escape (ih fuel (by omega))

/-- Escaping makes no text shorter. -/
theorem length_le_flatMap_escapeChar (content : List Char) :
    content.length ≤ (content.flatMap escapeChar).length := by
  induction content with
  | nil => exact Nat.le_refl 0
  | cons c content ih =>
    have hpos : 1 ≤ (escapeChar c).length := by
      obtain ⟨letter, hc, -⟩ | ⟨hc, -⟩ | ⟨hc, -⟩ := escapeChar_cases c
      all_goals rw [hc]; simp only [List.length_cons]; omega
    rw [List.flatMap_cons, List.length_append, List.length_cons]
    omega

/-- What stands behind an opening quote is read back, since its own length is fuel enough. -/
theorem textBehindQuote_quote (content : String) :
    textBehindQuote false (content.toList.flatMap escapeChar ++ '\x22' :: rest)
      = .ok (content, rest) := by
  have hfuel : content.toList.length
      < (content.toList.flatMap escapeChar ++ '\x22' :: rest).length + 1 := by
    have := length_le_flatMap_escapeChar content.toList
    rw [List.length_append]
    omega
  unfold textBehindQuote
  rw [bind_of_ok rfl, bind_of_ok (textFrom_quote hfuel), String.ofList_toList]
  rfl

/-- A quoted text is its escaped content between two quotes. -/
theorem toList_quoteText (content : String) :
    (quoteText content).toList ++ rest
      = '\x22' :: (content.toList.flatMap escapeChar ++ '\x22' :: rest) := by
  rw [quoteText, String.toList_ofList, quote, List.cons_append, List.cons_append,
    List.append_assoc]
  rfl

/-- A quoted text is read back as a text, behind any gap. -/
theorem textAs_quoteText (hgap : ∀ g ∈ gap, isGap g = true) (content due : String) :
    textAs due (gap ++ ((quoteText content).toList ++ rest)) = .ok (content, rest) := by
  unfold textAs
  rw [toList_quoteText, bind_of_ok (peekToken_gap hgap (by decide))]
  exact (bind_of_ok advance_cons).trans (textBehindQuote_quote content)

/-! ### Numbers -/

section Numbers

variable {n count : Nat} {ds : List Char}

/-- Whether a character behind a digit belongs to the number. -/
def goesOn (c : Char) : Bool :=
  c.isDigit || c == '.' || c == 'e' || c == 'E'

/-- Nothing there goes on with a number. -/
def EndsNumber (rest : List Char) : Prop :=
  ∀ c, rest.head? = some c → goesOn c = false

/-- A number ends before a character that cannot continue it. -/
theorem endsNumber_cons (hc : goesOn c = false) : EndsNumber (c :: s) := by
  rintro _ ⟨⟩
  exact hc

/-- A gap cannot continue a number. -/
theorem goesOn_of_isGap (hc : isGap c = true) : goesOn c = false := by
  simp only [isGap, Bool.or_eq_true, beq_iff_eq, or_assoc] at hc
  obtain rfl | rfl | rfl | rfl := hc <;> decide

/-- What digits behind a number make of it. -/
def withDigits (n : Nat) (ds : List Char) : Nat :=
  ds.foldl (fun n c => n * 10 + (c.toNat - '0'.toNat)) n

/-- Reading digits makes no number smaller. -/
theorem le_withDigits : n ≤ withDigits n ds := by
  induction ds generalizing n with
  | nil => exact Nat.le_refl n
  | cons c ds ih =>
    have hstep : n ≤ n * 10 + (c.toNat - '0'.toNat) := by omega
    exact Nat.le_trans hstep ih

/-- All digits are taken if the number they make fits into 64 bits. -/
theorem foldl_appendDigit (h : withDigits n ds < Text.limit64) :
    ds.foldl appendDigit (n, count, true) = (withDigits n ds, count + ds.length, true) := by
  induction ds generalizing n count with
  | nil => rfl
  | cons c ds ih =>
    have hnext : n * 10 + (c.toNat - '0'.toNat) < Text.limit64 :=
      Nat.lt_of_le_of_lt le_withDigits h
    have hstep : appendDigit (n, count, true) c
        = (n * 10 + (c.toNat - '0'.toNat), count + 1, true) := by
      simp only [appendDigit, Bool.true_and, decide_eq_true hnext, if_true]
    rw [List.foldl_cons, hstep, ih h, List.length_cons, Nat.add_assoc, Nat.add_comm 1]
    rfl

/-- The decimal digits of a number give the number. -/
theorem withDigits_toDigits : withDigits 0 (Nat.toDigits 10 n) = n := by
  calc
    withDigits 0 (Nat.toDigits 10 n)
      = Nat.ofDigitChars 10 (Nat.toDigits 10 n) 0 := by
        rw [withDigits, Nat.ofDigitChars_eq_foldl]
        simp only [Nat.mul_comm]
    _ = n := Nat.ofDigitChars_toDigits (by decide) (by decide)

/-- All digits of a number below 2⁶⁴ are read into a word. -/
theorem leading64_toDigits (h : n < Text.limit64) : leading64 (Nat.toDigits 10 n) = (n, 0) := by
  have hall : (Nat.toDigits 10 n).foldl appendDigit (0, 0, true)
      = (withDigits 0 (Nat.toDigits 10 n), 0 + (Nat.toDigits 10 n).length, true) :=
    foldl_appendDigit (by rwa [withDigits_toDigits])
  rw [leading64, hall, withDigits_toDigits, Nat.zero_add]
  exact congrArg (Prod.mk n) (Nat.sub_self _)

/-- The decimal digits of a number are digits. -/
theorem isDigit_of_mem_toDigits (hc : c ∈ Nat.toDigits 10 n) : c.isDigit = true :=
  Nat.isDigit_of_mem_toDigits (by decide) (by decide) hc

/-- Every number has a first decimal digit. -/
theorem exists_toDigits_eq_cons (n : Nat) :
    ∃ c ds, Nat.toDigits 10 n = c :: ds ∧ c.isDigit = true := by
  obtain ⟨c, ds, hds⟩ := List.exists_cons_of_ne_nil (Nat.toDigits_ne_nil (b := 10) (n := n))
  exact ⟨c, ds, hds, isDigit_of_mem_toDigits (n := n) (by rw [hds]; exact List.mem_cons_self)⟩

/-- A digit is no gap. -/
theorem isGap_of_isDigit (hc : c.isDigit = true) : isGap c = false := by
  refine Bool.eq_false_iff.mpr fun hgap => ?_
  have hends := goesOn_of_isGap hgap
  simp [goesOn, hc] at hends

/-- Only zero starts with a zero. -/
theorem eq_zero_of_head?_toDigits (h : (Nat.toDigits 10 n).head? = some '0') : n = 0 := by
  induction n using Nat.strongRecOn with
  | ind n ih =>
    rw [Nat.toDigits_eq_if (by decide)] at h
    split at h
    · rw [List.head?_cons, Option.some.injEq] at h
      exact Nat.digitChar_eq_zero.mp h
    · have hfront : (Nat.toDigits 10 (n / 10)).head? = some '0' := by
        obtain ⟨c, ds, hds, -⟩ := exists_toDigits_eq_cons (n / 10)
        rw [hds] at h ⊢
        exact h
      have := ih (n / 10) (by omega) hfront
      omega

/-- Digits are read up to where the number ends. -/
theorem digits_append (hds : ∀ d ∈ ds, d.isDigit = true) (hrest : EndsNumber rest) :
    digits (ds ++ rest) = .ok (ds, rest) := by
  have hstop : ∀ c s, rest = c :: s → ¬ c.isDigit = true := by
    intro c s h hdigit
    have hends := hrest c (by rw [h]; rfl)
    simp [goesOn, hdigit] at hends
  have htake : rest.takeWhile Char.isDigit = [] := by
    cases rest with
    | nil => rfl
    | cons c s => exact List.takeWhile_cons_of_neg (hstop c s rfl)
  have hdrop : rest.dropWhile Char.isDigit = rest := by
    cases rest with
    | nil => rfl
    | cons c s => exact List.dropWhile_cons_of_neg (hstop c s rfl)
  change Except.ok ((ds ++ rest).takeWhile Char.isDigit, (ds ++ rest).dropWhile Char.isDigit) = _
  rw [List.takeWhile_append_of_pos hds, List.dropWhile_append_of_pos hds, htake, hdrop,
    List.append_nil]

/-- A number of 64 bits is taken whole. -/
theorem unsigned_toDigits (h : n < Text.limit64) (hrest : EndsNumber rest) :
    unsigned false (Nat.toDigits 10 n ++ rest) = .ok (.whole n, rest) := by
  obtain ⟨c, ds, hds, hdigit⟩ := exists_toDigits_eq_cons n
  have hzero : ¬ (c == '0' && decide ((Nat.toDigits 10 n).length > 1)) = true := by
    rw [Bool.and_eq_true, beq_iff_eq, decide_eq_true_iff]
    rintro ⟨rfl, hmore⟩
    obtain rfl := eq_zero_of_head?_toDigits (n := n) (by rw [hds]; rfl)
    exact absurd hmore (by decide)
  have hpeek : peek (Nat.toDigits 10 n ++ rest) = .ok (some c, Nat.toDigits 10 n ++ rest) := by
    rw [peek_eq, hds]
    rfl
  unfold unsigned
  rw [bind_of_ok hpeek]
  simp only [hdigit]
  rw [if_pos trivial, bind_of_ok (digits_append (fun _ => isDigit_of_mem_toDigits) hrest),
    if_neg hzero, leading64_toDigits h, bind_of_ok peek_eq]
  cases hhead : rest.head? with
  | none => rfl
  | some d =>
    have hd := hrest d hhead
    simp only [goesOn, Bool.or_eq_false_iff, beq_eq_false_iff_ne] at hd
    obtain ⟨⟨⟨-, hpoint⟩, hlower⟩, hupper⟩ := hd
    simp only [Option.some.injEq, hpoint, imp_self, hlower, hupper, gt_iff_lt, Nat.lt_irrefl,
      ↓reduceIte, Bool.not_false]
    rfl

/-- A number below 2⁶⁴ is read back, behind any gap and in front of anything that ends it. -/
theorem natural64_toString (hgap : ∀ g ∈ gap, isGap g = true) (h : n < Text.limit64)
    (hrest : EndsNumber rest) :
    natural64 (gap ++ ((toString n).toList ++ rest)) = .ok (n, rest) := by
  obtain ⟨c, ds, hds, hdigit⟩ := exists_toDigits_eq_cons n
  have hsign : c ≠ '-' := by
    rintro rfl
    exact absurd hdigit (by decide)
  have hnumber : number (c :: (ds ++ rest)) = .ok (.whole n, rest) := by
    unfold number
    rw [bind_of_ok peek_eq, List.head?_cons, if_neg (by simpa using hsign),
      ← List.cons_append, ← hds]
    exact unsigned_toDigits h hrest
  unfold natural64
  rw [Nat.toString_eq_repr, Nat.toList_repr, hds, List.cons_append,
    bind_of_ok (peekToken_gap hgap (isGap_of_isDigit hdigit))]
  simp only [hdigit, Bool.or_true, if_true]
  rw [bind_of_ok hnumber]
  rfl

end Numbers

/-! ### Items and entries -/

/-- What stands in front of an item or an entry. -/
def separator (first : Bool) : List Char :=
  if first then [] else [',']

/-- Items or entries one after the other, the first of which may be the first of all. -/
def separated : Bool → List (List Char) → List Char
  | _, [] => []
  | first, text :: rest => separator first ++ (text ++ separated false rest)

/-- Texts with commas between them are separated ones of which the first has no comma in front. -/
theorem intercalate_eq_separated (texts : List (List Char)) :
    [','].intercalate texts = separated true texts := by
  cases texts with
  | nil => rfl
  | cons text rest =>
    induction rest generalizing text with
    | nil => simp [List.intercalate, separated, separator]
    | cons next rest ih =>
      rw [List.intercalate_cons_cons, ih next, List.append_assoc]
      rfl

/-- The same for strings. -/
theorem toList_intercalate_comma (texts : List String) :
    (String.intercalate "," texts).toList = separated true (texts.map String.toList) := by
  rw [String.toList_intercalate]
  exact intercalate_eq_separated _

/-- There are at most as many texts as characters in them when they are separated. -/
theorem length_le_separated {texts : List (List Char)} {first : Bool}
    (h : ∀ text ∈ texts, text ≠ []) : texts.length ≤ (separated first texts).length := by
  induction texts generalizing first with
  | nil => exact Nat.le_refl 0
  | cons text rest ih =>
    obtain ⟨htext, hrest⟩ := List.forall_mem_cons.mp h
    have hpos := List.length_pos_iff.mpr htext
    have hle : rest.length ≤ (separated false rest).length := ih hrest
    rw [separated, List.length_append, List.length_append, List.length_cons]
    omega

/-- A number ends where another item follows, a gap or the closing bracket. -/
theorem endsNumber_separated {texts : List (List Char)} (hgap : ∀ g ∈ gap, isGap g = true)
    (hc : goesOn c = false) : EndsNumber (separated false texts ++ (gap ++ c :: s)) := by
  cases texts with
  | cons text rest => exact endsNumber_cons (by decide)
  | nil =>
    cases gap with
    | nil => exact endsNumber_cons hc
    | cons g gap => exact endsNumber_cons (goesOn_of_isGap (hgap g List.mem_cons_self))

/-- A list is seen to be over at its closing bracket, behind any gap. -/
theorem hasItem_end {first : Bool} (hgap : ∀ g ∈ gap, isGap g = true) :
    hasItem first (gap ++ ']' :: s) = .ok (false, ']' :: s) := by
  unfold hasItem
  rw [bind_of_ok (peekToken_gap hgap (by decide))]
  rfl

/-- A list is seen to go on at its next item, behind its comma and any gap. -/
theorem hasItem_item {first : Bool} (hgap : ∀ g ∈ gap, isGap g = true) (hc : isGap c = false)
    (hopen : c ≠ ']') :
    hasItem first (separator first ++ (gap ++ c :: s)) = .ok (true, c :: s) := by
  unfold hasItem
  cases first with
  | true =>
    rw [separator, if_pos rfl, List.nil_append, bind_of_ok (peekToken_gap hgap hc)]
    simp only [↓reduceIte]
    rfl
  | false =>
    rw [separator, if_neg (by decide), List.singleton_append,
      bind_of_ok (peekToken_cons (by decide))]
    simp only [Char.reduceEq, imp_self, Bool.false_eq_true, ↓reduceIte, bne_self_eq_false]
    rw [bind_of_ok advance_cons, bind_of_ok (peekToken_gap hgap hc)]
    simp only
    rfl

/-- An object is seen to be over at its closing brace, behind any gap. -/
theorem hasEntry_end {first : Bool} (hgap : ∀ g ∈ gap, isGap g = true) :
    hasEntry first (gap ++ '\x7d' :: s) = .ok (false, '\x7d' :: s) := by
  unfold hasEntry
  rw [bind_of_ok (peekToken_gap hgap (by decide))]
  rfl

/-- An object is seen to go on at its next key, behind its comma and any gap. -/
theorem hasEntry_entry {first : Bool} (hgap : ∀ g ∈ gap, isGap g = true) :
    hasEntry first (separator first ++ (gap ++ '\x22' :: s)) = .ok (true, '\x22' :: s) := by
  unfold hasEntry
  cases first with
  | true =>
    rw [separator, if_pos rfl, List.nil_append, bind_of_ok (peekToken_gap hgap (by decide))]
    rfl
  | false =>
    rw [separator, if_neg (by decide), List.singleton_append,
      bind_of_ok (peekToken_cons (by decide))]
    simp only [Char.reduceEq, imp_self, Bool.false_eq_true, ↓reduceIte, bne_self_eq_false]
    rw [bind_of_ok advance_cons, bind_of_ok (peekToken_gap hgap (by decide))]
    rfl

/-- A quoted key is read back with the colon behind it. -/
theorem keyAndColon_quoteText (key : String) :
    keyAndColon false ((quoteText key).toList ++ ':' :: s) = .ok (key, s) := by
  unfold keyAndColon
  rw [toList_quoteText, bind_of_ok (peekToken_cons (by decide))]
  simp only
  rw [bind_of_ok advance_cons, bind_of_ok (textBehindQuote_quote key),
    bind_of_ok (peekToken_cons (by decide))]
  rfl

/-- A list is closed by its bracket, behind any gap. -/
theorem closeList_end (hgap : ∀ g ∈ gap, isGap g = true) :
    closeList (gap ++ ']' :: s) = .ok ((), s) := by
  unfold closeList
  rw [bind_of_ok (peekToken_gap hgap (by decide))]
  rfl

/-- A reader that reads everything reads the whole text. -/
theorem whole_of_ok {reader : Reader α} {text : String} {a : α}
    (h : reader text.toList = .ok (a, [])) : whole reader text = .ok a := by
  rw [whole, h]
  rfl

end QueryLint.Json.Reader
