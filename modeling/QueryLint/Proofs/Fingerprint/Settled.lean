import QueryLint.Proofs.Fingerprint.Spellings

/-!
# Texts with nothing to replace

Each of the replacements that make the shape of a statement leaves a text in which it finds nothing
more to replace: at most one quote, no digits that are a number (`NumberFree`), no list that is
longer than it has to be (`ListFree`), and no blanks but single spaces (`SingleBlanks`). None of the
later replacements brings back what an earlier one removed, so in the end all of them find nothing
(`Settled`, `settled_replace`).
-/

namespace QueryLint.Fingerprint

open QueryLint.Text

variable {text : List Char} {c : Char}

/-! ### Strings -/

/-- A string is never closed exactly when no quote follows. -/
theorem closeString_eq_none_iff : closeString text = none ↔ '\'' ∉ text := by
  induction hlength : text.length using Nat.strongRecOn generalizing text with
  | ind length ih =>
    cases text with
    | nil => simp [closeString]
    | cons c rest =>
      by_cases hc : c = '\''
      · subst hc
        refine iff_of_false ?_ (by simp)
        by_cases hquote : rest.head? = some '\''
        · obtain ⟨rest, rfl⟩ := List.head?_eq_some_iff.mp hquote
          rw [closeString]
          cases closeString rest <;> simp
        · rw [closeString_quote hquote]
          simp
      · rw [closeString_cons_of_ne hc, ih _ (by simp [← hlength]) rfl]
        simp [Ne.symm hc]

/-- A text without quotes has no string to replace. -/
theorem replaceStrings_of_notMem (h : '\'' ∉ text) : replaceStrings text = text := by
  have hkept := replaceStrings_append h []
  rwa [List.append_nil, replaceStrings, List.append_nil] at hkept

/-- Of the quotes in a text at most one is left, which nothing closes. -/
theorem count_replaceStrings_le (text : List Char) : (replaceStrings text).count '\'' ≤ 1 := by
  induction hlength : text.length using Nat.strongRecOn generalizing text with
  | ind length ih =>
    cases text with
    | nil => simp [replaceStrings]
    | cons c rest =>
      rw [List.length_cons] at hlength
      by_cases hc : c = '\''
      · subst hc
        cases hclose : closeString rest with
        | none =>
          have hnone := closeString_eq_none_iff.mp hclose
          rw [replaceStrings_of_not_close hclose, replaceStrings_of_notMem hnone,
            List.count_cons_self, List.count_eq_zero.mpr hnone]
        | some behind =>
          have hlt := closeString_length hclose
          rw [replaceStrings_of_close hclose, List.count_cons_of_ne (by decide)]
          exact ih behind.length (by omega) behind rfl
      · rw [replaceStrings_cons_of_ne hc, List.count_cons_of_ne hc]
        exact ih rest.length (by omega) rest rfl

/-- A single quote opens no string. -/
theorem replaceStrings_of_count_le (h : text.count '\'' ≤ 1) : replaceStrings text = text := by
  induction text with
  | nil => rw [replaceStrings]
  | cons c rest ih =>
    by_cases hc : c = '\''
    · subst hc
      have hnone : '\'' ∉ rest := by
        rw [List.count_cons_self] at h
        exact List.count_eq_zero.mp (by omega)
      rw [replaceStrings_of_not_close (closeString_eq_none_iff.mpr hnone),
        replaceStrings_of_notMem hnone]
    · rw [List.count_cons_of_ne hc] at h
      rw [replaceStrings_cons_of_ne hc, ih h]

/-! ### Numbers -/

/-- No digit in a text begins a number: if no word stands before it, then one follows the digits.
The flag says that a word stands before the text. -/
def NumberFree : Bool → List Char → Prop
  | _, [] => True
  | inWord, c :: rest =>
    (inWord = false → isDecimal c = true → startsWithWord (rest.dropWhile isDecimal) = true)
      ∧ NumberFree (isWord c) rest

theorem startsWithWord_cons (c : Char) (text : List Char) : startsWithWord (c :: text)
    = isWord c := rfl

/-- A point is not part of a word. -/
theorem not_isWord_point : isWord '.' = false := by decide +kernel

/-- A placeholder is not part of a word. -/
theorem not_isWord_mark : isWord '?' = false := by decide +kernel

/-- Digits do not close as a number exactly when a word goes on behind them. -/
theorem closeNumber_eq_none_iff :
    closeNumber text = none ↔ startsWithWord (text.dropWhile isDecimal) = true := by
  by_cases hpoint : ∃ fraction, text.dropWhile isDecimal = '.' :: fraction
  · obtain ⟨fraction, hfraction⟩ := hpoint
    rw [closeNumber_of_point hfraction, hfraction, startsWithWord_cons, not_isWord_point]
    refine iff_of_false ?_ Bool.false_ne_true
    split <;> simp
  · rw [closeNumber_of_no_point fun fraction heq => hpoint ⟨fraction, heq⟩]
    split
    · next h => exact iff_of_true rfl h
    · next h => exact iff_of_false (by simp) h

/-- No word follows a number. -/
theorem startsWithWord_of_closeNumber {behind : List Char} (h : closeNumber text = some behind) :
    startsWithWord behind = false := by
  by_cases hpoint : ∃ fraction, text.dropWhile isDecimal = '.' :: fraction
  · obtain ⟨fraction, hfraction⟩ := hpoint
    rw [closeNumber_of_point hfraction] at h
    split at h
    · next hcond =>
      obtain rfl := Option.some.inj h
      simp only [Bool.and_eq_true, Bool.not_eq_true'] at hcond
      exact hcond.2
    · obtain rfl := Option.some.inj h
      exact not_isWord_point
  · rw [closeNumber_of_no_point fun fraction heq => hpoint ⟨fraction, heq⟩] at h
    split at h
    · cases h
    · next hword =>
      obtain rfl := Option.some.inj h
      simpa using hword

/-- Behind a word the first character is kept, and digits at the start are. -/
theorem startsWithWord_replaceNumbers (text : List Char) :
    startsWithWord (replaceNumbers true text) = startsWithWord text
      ∧ startsWithWord ((replaceNumbers true text).dropWhile isDecimal)
        = startsWithWord (text.dropWhile isDecimal) := by
  induction text with
  | nil => simp [replaceNumbers]
  | cons c rest ih =>
    rw [replaceNumbers_cons rfl]
    refine ⟨rfl, ?_⟩
    cases hc : isDecimal c with
    | false =>
      rw [List.dropWhile_cons_of_neg (by simp [hc]), List.dropWhile_cons_of_neg (by simp [hc])]; rfl
    | true =>
      rw [List.dropWhile_cons_of_pos hc, List.dropWhile_cons_of_pos hc, isWord_of_isDecimal hc]
      exact ih.2

/-- Where no word begins, it makes no difference whether one stands before. -/
theorem NumberFree.of_startsWithWord {inWord : Bool} (h : NumberFree inWord text)
    (hstart : startsWithWord text = false) : NumberFree false text := by
  cases text with
  | nil => trivial
  | cons c rest =>
    refine ⟨fun _ hc => ?_, h.2⟩
    have hword : isWord c = false := hstart
    rw [isWord_of_isDecimal hc] at hword
    cases hword

/-- Digits that are no number are kept, and so is everything else. -/
theorem replaceNumbers_kept {inWord : Bool}
    (h : inWord = false → isDecimal c = true → closeNumber (c :: text) = none) :
    replaceNumbers inWord (c :: text) = c :: replaceNumbers (isWord c) text := by
  cases hdigit : !inWord && isDecimal c with
  | false => exact replaceNumbers_cons hdigit text
  | true =>
    obtain ⟨hfree, hc⟩ := Bool.and_eq_true_iff.mp hdigit
    obtain rfl : inWord = false := by simpa using hfree
    rw [replaceNumbers_of_not_close hc (h rfl hc), isWord_of_isDecimal hc]

/-- A text in which no digit begins a number stays as it is. -/
theorem replaceNumbers_of_numberFree {inWord : Bool} (h : NumberFree inWord text) :
    replaceNumbers inWord text = text := by
  induction text generalizing inWord with
  | nil => rw [replaceNumbers]
  | cons c rest ih =>
    obtain ⟨hhead, hrest⟩ := h
    rw [replaceNumbers_kept, ih hrest]
    intro hfree hc
    rw [closeNumber_eq_none_iff, List.dropWhile_cons_of_pos hc]
    exact hhead hfree hc

/-- Induction along the numbers in a text: one starts the text, or its first character is kept. -/
@[elab_as_elim]
theorem replaceNumbers_induction {motive : Bool → List Char → Prop}
    (nil : ∀ inWord, motive inWord [])
    (number : ∀ c text behind, isDecimal c = true → closeNumber (c :: text) = some behind →
      motive true behind → motive false (c :: text))
    (kept : ∀ inWord c text,
      (inWord = false → isDecimal c = true → closeNumber (c :: text) = none) →
      motive (isWord c) text → motive inWord (c :: text))
    (inWord : Bool) (text : List Char) : motive inWord text := by
  induction hlength : text.length using Nat.strongRecOn generalizing text inWord with
  | ind length ih =>
    cases text with
    | nil => exact nil inWord
    | cons c rest =>
      rw [List.length_cons] at hlength
      have hrest : motive (isWord c) rest := ih rest.length (by omega) _ rest rfl
      by_cases hdigit : inWord = false ∧ isDecimal c = true
      · obtain ⟨rfl, hc⟩ := hdigit
        cases hclose : closeNumber (c :: rest) with
        | none => exact kept false c rest (fun _ _ => hclose) hrest
        | some behind =>
          have hlt := closeNumber_length hc hclose
          exact number c rest behind hc hclose (ih behind.length (by omega) true behind rfl)
      · exact kept inWord c rest (fun hfree hc => absurd ⟨hfree, hc⟩ hdigit) hrest

/-- After the replacement no digit begins a number: a second one would find nothing. -/
theorem numberFree_replaceNumbers (inWord : Bool) (text : List Char) :
    NumberFree inWord (replaceNumbers inWord text) := by
  induction inWord, text using replaceNumbers_induction with
  | nil inWord =>
    rw [replaceNumbers]
    trivial
  | number c text behind hc hclose ih =>
    have hstart := startsWithWord_of_closeNumber hclose
    rw [replaceNumbers_of_close hc hclose]
    refine ⟨fun _ hmark => absurd hmark (by decide), ?_⟩
    rw [not_isWord_mark]
    exact ih.of_startsWithWord (hstart ▸ (startsWithWord_replaceNumbers behind).1)
  | kept inWord c text hclose ih =>
    rw [replaceNumbers_kept hclose]
    refine ⟨fun hfree hc => ?_, ih⟩
    have hnone := hclose hfree hc
    rw [closeNumber_eq_none_iff, List.dropWhile_cons_of_pos hc] at hnone
    rw [isWord_of_isDecimal hc, (startsWithWord_replaceNumbers text).2, hnone]

/-! ### Lists of placeholders -/

/-- No list of placeholders in a text is longer than it has to be. -/
def ListFree : List Char → Prop
  | [] => True
  | c :: rest =>
    (c = '(' → (closePlaceholders rest).isSome = true → ∃ behind, rest = '?' :: ')' :: behind)
      ∧ ListFree rest

/-- One placeholder in brackets is already a closed list. -/
theorem closePlaceholders_mark (behind : List Char) : closePlaceholders ('?' :: ')' :: behind)
    = some behind :=
  closePlaceholders_marks listing_mark behind

/-- A text whose lists are as short as can be stays as it is. -/
theorem replaceLists_of_listFree (h : ListFree text) : replaceLists text = text := by
  induction text with
  | nil => rw [replaceLists]
  | cons c rest ih =>
    obtain ⟨hhead, hrest⟩ := h
    by_cases hc : c = '('
    · subst hc
      cases hclose : closePlaceholders rest with
      | none => rw [replaceLists_of_not_close hclose, ih hrest]
      | some found =>
        obtain ⟨behind, rfl⟩ := hhead rfl (by rw [hclose]; rfl)
        obtain rfl := Option.some.inj ((closePlaceholders_mark behind).symm.trans hclose)
        have hkept := ih hrest
        rw [replaceLists_cons_of_ne (by decide), replaceLists_cons_of_ne (by decide)] at hkept
        rw [replaceLists_of_close hclose, hkept]
    · rw [replaceLists_cons_of_ne hc, ih hrest]

/-- Before the first bracket nothing is replaced. -/
theorem replaceLists_append_of_notMem (h : '(' ∉ text) (rest : List Char) :
    replaceLists (text ++ rest) = text ++ replaceLists rest := by
  induction text with
  | nil => rfl
  | cons c text ih =>
    obtain ⟨hc, htext⟩ := not_or.mp (mt List.mem_cons.mpr h)
    rw [List.cons_append, replaceLists_cons_of_ne (Ne.symm hc), ih htext, List.cons_append]

/-- Whether a list is closed is told by the text in front of the next parenthesis, which is kept. -/
theorem isSome_closePlaceholders_replaceLists (text : List Char) :
    (closePlaceholders (replaceLists text)).isSome = (closePlaceholders text).isSome := by
  by_cases hopen : '(' ∈ text
  · obtain ⟨before, rest, rfl, hbefore⟩ := List.eq_append_cons_of_mem hopen
    have hnext : ∃ rest', replaceLists ('(' :: rest) = '(' :: rest' := by
      cases hclose : closePlaceholders rest with
      | none => exact ⟨_, replaceLists_of_not_close hclose⟩
      | some behind => exact ⟨_, replaceLists_of_close hclose⟩
    obtain ⟨rest', hrest'⟩ := hnext
    rw [replaceLists_append_of_notMem hbefore, hrest', closePlaceholders_append_open,
      closePlaceholders_append_open, Option.isSome_map, Option.isSome_map]
  · have hkept := replaceLists_append_of_notMem hopen []
    rw [List.append_nil, replaceLists, List.append_nil] at hkept
    rw [hkept]

/-- A parenthesis that opens no list is kept, and so is everything else. -/
theorem replaceLists_kept (h : c = '(' → closePlaceholders text = none) :
    replaceLists (c :: text) = c :: replaceLists text := by
  by_cases hc : c = '('
  · subst hc
    exact replaceLists_of_not_close (h rfl)
  · exact replaceLists_cons_of_ne hc text

/-- Induction along the lists in a text: one starts the text, or its first character is kept. -/
@[elab_as_elim]
theorem replaceLists_induction {motive : List Char → Prop} (nil : motive [])
    (list : ∀ text behind, closePlaceholders text = some behind → motive behind →
      motive ('(' :: text)) (kept : ∀ c text, (c = '(' → closePlaceholders text = none) →
        motive text → motive (c :: text)) (text : List Char) : motive text := by
  induction hlength : text.length using Nat.strongRecOn generalizing text with
  | ind length ih =>
    cases text with
    | nil => exact nil
    | cons c rest =>
      rw [List.length_cons] at hlength
      have hrest : motive rest := ih rest.length (by omega) rest rfl
      by_cases hc : c = '('
      · subst hc
        cases hclose : closePlaceholders rest with
        | none => exact kept '(' rest (fun _ => hclose) hrest
        | some behind =>
          have hlt := closePlaceholders_length hclose
          exact list rest behind hclose (ih behind.length (by omega) behind rfl)
      · exact kept c rest (fun h => absurd h hc) hrest

/-- After the replacement every list is as short as can be: a second one would find nothing. -/
theorem listFree_replaceLists (text : List Char) : ListFree (replaceLists text) := by
  induction text using replaceLists_induction with
  | nil =>
    rw [replaceLists]
    trivial
  | list text behind hclose ih =>
    rw [replaceLists_of_close hclose]
    exact ⟨fun _ _ => ⟨_, rfl⟩, fun h => absurd h (by decide), fun h => absurd h (by decide), ih⟩
  | kept c text hclose ih =>
    rw [replaceLists_kept hclose]
    refine ⟨fun hopen hsome => ?_, ih⟩
    rw [isSome_closePlaceholders_replaceLists, hclose hopen] at hsome
    cases hsome

/-- A list ends with a parenthesis. -/
theorem ClosesList.exists_before {behind : List Char} (h : ClosesList text behind) :
    ∃ before, text = before ++ ')' :: behind := by
  have hblank : ∀ text, ∃ run, text = run ++ dropBlanks text := fun text =>
    ⟨text.takeWhile isBlank, List.takeWhile_append_dropWhile.symm⟩
  induction h with
  | @last text behind h =>
    obtain ⟨run, hrun⟩ := hblank text
    exact ⟨run, by rw [← h, ← hrun]⟩
  | @more text rest next behind h hnext _ ih =>
    obtain ⟨before, rfl⟩ := ih
    obtain ⟨run, hrun⟩ := hblank text
    obtain ⟨run', hrun'⟩ := hblank rest
    rw [hnext] at hrun'
    rw [h, hrun'] at hrun
    exact ⟨run ++ ',' :: (run' ++ '?' :: before), by rw [hrun]; simp⟩

/-- What is left behind a closed list stands behind a closing bracket of the text. -/
theorem exists_before_of_closePlaceholders {behind : List Char}
    (h : closePlaceholders text = some behind) : ∃ before, text = before ++ ')' :: behind := by
  obtain ⟨rest, hrest, hclose⟩ := closePlaceholders_eq_some_iff.mp h
  obtain ⟨before, rfl⟩ := hclose.exists_before
  refine ⟨text.takeWhile isBlank ++ '?' :: before, ?_⟩
  have hwhole : text.takeWhile isBlank ++ dropBlanks text = text := List.takeWhile_append_dropWhile
  rw [hrest] at hwhole
  rw [List.append_assoc, List.cons_append, hwhole]

/-! ### Blanks -/

/-- The only blanks in a text are single spaces. The flag says that a blank stands before the
text. -/
def SingleBlanks : Bool → List Char → Prop
  | _, [] => True
  | behindBlank, c :: rest => (isBlank c = true → c = ' ' ∧ behindBlank = false)
    ∧ SingleBlanks (isBlank c) rest

/-- After the replacement all blanks are single spaces. -/
theorem singleBlanks_replaceBlanks (behindBlank : Bool) (text : List Char) :
    SingleBlanks behindBlank (replaceBlanks behindBlank text) := by
  induction text generalizing behindBlank with
  | nil => trivial
  | cons c rest ih =>
    rw [replaceBlanks]
    cases hc : isBlank c with
    | true =>
      cases behindBlank with
      | true => exact ih true
      | false => exact ⟨fun _ => ⟨rfl, rfl⟩, ih true⟩
    | false =>
      refine ⟨fun hblank => ?_, hc.symm ▸ ih false⟩
      rw [hc] at hblank
      cases hblank

/-- A text whose blanks are single spaces stays as it is. -/
theorem replaceBlanks_of_singleBlanks {behindBlank : Bool} (h : SingleBlanks behindBlank text) :
    replaceBlanks behindBlank text = text := by
  induction text generalizing behindBlank with
  | nil => rfl
  | cons c rest ih =>
    obtain ⟨hhead, hrest⟩ := h
    rw [replaceBlanks]
    cases hc : isBlank c with
    | true =>
      obtain ⟨rfl, rfl⟩ := hhead hc
      exact congrArg (' ' :: ·) (ih hrest)
    | false => exact congrArg (c :: ·) (ih (hc ▸ hrest))

/-- Collapsing blanks is a way to respell a text. -/
theorem respelled_replaceBlanks (text : List Char) :
    Respelled text (replaceBlanks false text) := by
  -- Behind a blank that was kept, the run of blanks is carried along until it ends.
  suffices h : Respelled text (replaceBlanks false text)
      ∧ ∀ run, run ≠ [] → (∀ c ∈ run, isBlank c = true) →
      Respelled (run ++ text) (' ' :: replaceBlanks true text) from h.1
  have hspace : ∀ c ∈ [' '], isBlank c = true := List.forall_mem_singleton.mpr rfl
  induction text with
  | nil =>
    refine ⟨.nil, fun run _ hrun => ?_⟩
    rw [List.append_nil]
    exact .ending hrun hspace
  | cons c rest ih =>
    cases hc : isBlank c with
    | true =>
      have hcollapsed : ∀ behindBlank, replaceBlanks behindBlank (c :: rest)
          = (if behindBlank then [] else [' ']) ++ replaceBlanks true rest := by
        intro behindBlank
        rw [replaceBlanks, if_pos hc]
        cases behindBlank <;> rfl
      refine ⟨?_, fun run hne hrun => ?_⟩
      · rw [hcollapsed]
        exact ih.2 [c] (List.cons_ne_nil c []) (by simpa using hc)
      · have hlonger := ih.2 (run ++ [c]) (by simp) (by simpa [or_imp, forall_and, hc] using hrun)
        rw [hcollapsed]
        simpa using hlonger
    | false =>
      have hkept : ∀ behindBlank, replaceBlanks behindBlank (c :: rest)
          = c :: replaceBlanks false rest := by
        intro behindBlank
        rw [replaceBlanks, if_neg (by simp [hc])]
      rw [hkept, hkept]
      exact ⟨.letter rfl ih.1,
        fun run hne hrun => .blanks hne (List.cons_ne_nil _ _) hrun hspace (.letter rfl ih.1)⟩

/-! ### What the later replacements keep -/

/-- Replacing numbers brings in no quote. -/
theorem count_replaceNumbers_le (inWord : Bool) (text : List Char) :
    (replaceNumbers inWord text).count '\'' ≤ text.count '\'' := by
  induction inWord, text using replaceNumbers_induction with
  | nil inWord => rw [replaceNumbers]
  | number c text behind hc hclose ih =>
    obtain ⟨number, hwhole, -⟩ := append_of_closeNumber hc hclose
    rw [replaceNumbers_of_close hc hclose, List.count_cons_of_ne (by decide), hwhole,
      List.count_append]
    exact ih.trans (Nat.le_add_left _ _)
  | kept inWord c text hclose ih =>
    rw [replaceNumbers_kept hclose, List.count_cons, List.count_cons]
    exact Nat.add_le_add_right ih _

/-- Replacing lists brings in no quote. -/
theorem count_replaceLists_le (text : List Char) : (replaceLists text).count '\''
    ≤ text.count '\'' := by
  induction text using replaceLists_induction with
  | nil => rw [replaceLists]
  | list text behind hclose ih =>
    obtain ⟨before, rfl⟩ := exists_before_of_closePlaceholders hclose
    rw [replaceLists_of_close hclose]
    simp only [List.count_cons, List.count_append, Char.reduceBEq, Bool.false_eq_true, if_false]
    omega
  | kept c text hclose ih =>
    rw [replaceLists_kept hclose, List.count_cons, List.count_cons]
    exact Nat.add_le_add_right ih _

/-- Replacing blanks brings in no quote. -/
theorem count_replaceBlanks_le (behindBlank : Bool) (text : List Char) :
    (replaceBlanks behindBlank text).count '\'' ≤ text.count '\'' := by
  induction text generalizing behindBlank with
  | nil => exact Nat.le_refl _
  | cons c rest ih =>
    rw [replaceBlanks]
    cases hc : isBlank c with
    | true =>
      rw [List.count_cons_of_ne (isBlank_ne_quote hc)]
      cases behindBlank with
      | true => exact ih true
      | false => exact (List.count_cons_of_ne (by decide)).trans_le (ih true)
    | false =>
      rw [if_neg Bool.false_ne_true, List.count_cons, List.count_cons]
      exact Nat.add_le_add_right (ih false) _

/-- No number begins behind a character that is in no word, if none begins in the whole text. -/
theorem NumberFree.behind {inWord : Bool} {before : List Char}
    (h : NumberFree inWord (before ++ c :: text)) (hc : isWord c = false) :
    NumberFree false text := by
  induction before generalizing inWord with
  | nil => exact hc ▸ h.2
  | cons d before ih => exact ih h.2

/-- Behind a delimiter the search for numbers begins anew. -/
theorem numberFree_cons_iff {inWord : Bool} (hc : Delimits c) :
    NumberFree inWord (c :: text) ↔ NumberFree false text := by
  rw [NumberFree, hc.1, and_iff_right]
  intro _ hdecimal
  rw [hc.isDecimal_eq] at hdecimal
  cases hdecimal

/-- Whether a word follows the digits at the head of a text does not change when lists are
replaced. -/
theorem startsWithWord_dropDigits_replaceLists (text : List Char) :
    startsWithWord ((replaceLists text).dropWhile isDecimal)
      = startsWithWord (text.dropWhile isDecimal) := by
  induction text using replaceLists_induction with
  | nil => rw [replaceLists]
  | list text behind hclose _ =>
    have hopen : isDecimal '(' = false := by decide +kernel
    rw [replaceLists_of_close hclose, List.dropWhile_cons_of_neg (by simp [hopen]),
      List.dropWhile_cons_of_neg (by simp [hopen]), startsWithWord_cons, startsWithWord_cons]
  | kept c text hclose ih =>
    rw [replaceLists_kept hclose, List.dropWhile_cons, List.dropWhile_cons]
    split
    · exact ih
    · rfl

/-- Replacing lists makes no new numbers. -/
theorem NumberFree.replaceLists {inWord : Bool} (h : NumberFree inWord text) :
    NumberFree inWord (replaceLists text) := by
  induction text using replaceLists_induction generalizing inWord with
  | nil => rwa [Fingerprint.replaceLists]
  | list text behind hclose ih =>
    obtain ⟨before, rfl⟩ := exists_before_of_closePlaceholders hclose
    have hopening : Delimits '(' := by decide +kernel
    have hmark : Delimits '?' := by decide +kernel
    have hclosing : Delimits ')' := by decide +kernel
    rw [replaceLists_of_close hclose, numberFree_cons_iff hopening, numberFree_cons_iff hmark,
      numberFree_cons_iff hclosing]
    exact ih (h.2.behind hclosing.1)
  | kept c text hclose ih =>
    rw [replaceLists_kept hclose]
    refine ⟨fun hfree hc => ?_, ih h.2⟩
    rw [startsWithWord_dropDigits_replaceLists]
    exact h.1 hfree hc

/-- Whether a word follows the digits at the head of a text does not change when blanks are
replaced. -/
theorem startsWithWord_dropDigits_replaceBlanks (text : List Char) :
    startsWithWord ((replaceBlanks false text).dropWhile isDecimal)
      = startsWithWord (text.dropWhile isDecimal) := by
  rw [(respelled_replaceBlanks text).dropDigits_rel.startsWithWord_eq]

/-- Replacing blanks makes no new numbers. -/
theorem NumberFree.replaceBlanks {inWord : Bool} (h : NumberFree inWord text) (behindBlank : Bool)
    (hbehind : behindBlank = true → inWord = false) :
    NumberFree inWord (replaceBlanks behindBlank text) := by
  induction text generalizing inWord behindBlank with
  | nil => trivial
  | cons c rest ih =>
    rw [Fingerprint.replaceBlanks]
    cases hc : isBlank c with
    | true =>
      have hrest : NumberFree false (Fingerprint.replaceBlanks true rest) :=
        ih ((numberFree_cons_iff (delimits_of_isBlank hc)).mp h) true fun _ => rfl
      cases behindBlank with
      | true => exact hbehind rfl ▸ hrest
      | false => exact (numberFree_cons_iff (delimits_of_isBlank (by decide))).mpr hrest
    | false =>
      refine ⟨fun hfree hdecimal => ?_, ih h.2 false fun h => by cases h⟩
      rw [startsWithWord_dropDigits_replaceBlanks]
      exact h.1 hfree hdecimal

/-- Replacing blanks makes no list longer. -/
theorem ListFree.replaceBlanks (h : ListFree text) (behindBlank : Bool) :
    ListFree (replaceBlanks behindBlank text) := by
  induction text generalizing behindBlank with
  | nil => trivial
  | cons c rest ih =>
    rw [Fingerprint.replaceBlanks]
    cases hc : isBlank c with
    | true =>
      cases behindBlank with
      | true => exact ih h.2 true
      | false => exact ⟨fun hopen => absurd hopen (by decide), ih h.2 true⟩
    | false =>
      refine ⟨fun hopen hsome => ?_, ih h.2 false⟩
      obtain ⟨found, hfound⟩ := Option.isSome_iff_exists.mp hsome
      obtain ⟨found', hfound', -⟩ :=
        (respelled_replaceBlanks rest).symm.exists_of_closePlaceholders hfound
      obtain ⟨behind, rfl⟩ := h.1 hopen (by rw [hfound']; rfl)
      exact ⟨_, rfl⟩

/-! ### Settled texts -/

/-- The replacements find nothing to replace in a text. -/
structure Settled (text : List Char) : Prop where
  strings : text.count '\'' ≤ 1
  numbers : NumberFree false text
  lists : ListFree text
  blanks : SingleBlanks false text

/-- What is replaced in a text stays replaced. -/
theorem settled_replace (text : List Char) :
    Settled (replaceBlanks false (replaceLists (replaceNumbers false (replaceStrings text)))) where
  strings := (count_replaceBlanks_le _ _).trans ((count_replaceLists_le _).trans
    ((count_replaceNumbers_le _ _).trans (count_replaceStrings_le text)))
  numbers := (numberFree_replaceNumbers _ _).replaceLists.replaceBlanks false fun h => by cases h
  lists := (listFree_replaceLists _).replaceBlanks false
  blanks := singleBlanks_replaceBlanks _ _

/-- Only the ends of a settled text are not part of its shape. -/
theorem Settled.shape_eq (h : Settled text) : shape text = trimStatement text := by
  rw [shape, replaceStrings_of_count_le h.strings, replaceNumbers_of_numberFree h.numbers,
    replaceLists_of_listFree h.lists, replaceBlanks_of_singleBlanks h.blanks]

end QueryLint.Fingerprint
