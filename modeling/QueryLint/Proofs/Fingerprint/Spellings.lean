import QueryLint.Proofs.Fingerprint.Templates

/-!
# Texts that are spelled differently

Two texts are respelled into each other by other blanks where there are some, by blanks at the ends,
and by the case of ASCII letters (`Respelled`). Each of the replacements that make the shape of a
statement finds the same places in both texts, so it leaves texts that are respelled into each other
again, whether or not the quotes in them are balanced. In the end blanks are told apart no more, and
neither are letters (`normalize_respelled`).
-/

namespace QueryLint.Fingerprint

open QueryLint.Text

/-! ### Letters -/

/-- Two characters are the same up to the case of an ASCII letter. -/
def SameLetter (c d : Char) : Prop := c.toLower = d.toLower

/-- What does not tell ASCII capitals from small letters does not tell a character from its
lower-case form. -/
theorem apply_toLower {α : Type} {p : Char → α}
    (hp : ∀ n ∈ List.range' 65 26, p (Char.ofNat n).toLower = p (Char.ofNat n)) (c : Char) :
    p c.toLower = p c := by
  by_cases hupper : c.val ≥ 'A'.val ∧ c.val ≤ 'Z'.val
  · have hlow : 65 ≤ c.toNat := UInt32.le_iff_toNat_le.mp hupper.1
    have hhigh : c.toNat ≤ 90 := UInt32.le_iff_toNat_le.mp hupper.2
    have hcapital := hp c.toNat (List.mem_range'_1.mpr (by omega))
    rwa [Char.ofNat_toNat] at hcapital
  · have hkept : c.toLower = c := dif_neg hupper
    rw [hkept]

/-- Letter case does not matter for being a blank. -/
theorem isBlank_toLower : ∀ c : Char, isBlank c.toLower = isBlank c :=
  apply_toLower (by decide +kernel)

/-- Letter case does not matter for being a decimal digit. -/
theorem isDecimal_toLower : ∀ c : Char, isDecimal c.toLower = isDecimal c :=
  apply_toLower (by decide +kernel)

/-- Letter case does not matter for being part of a word. -/
theorem isWord_toLower : ∀ c : Char, isWord c.toLower = isWord c :=
  apply_toLower (by decide +kernel)

/-- Letter case does not matter for being a letter. -/
theorem isAlpha_toLower : ∀ c : Char, c.toLower.isAlpha = c.isAlpha :=
  apply_toLower (by decide +kernel)

namespace SameLetter

variable {c d : Char}

/-- Being the same letter is symmetric. -/
protected theorem symm (h : SameLetter c d) : SameLetter d c := Eq.symm h

/-- What does not tell a character from its lower-case form does not tell it from its other
forms. -/
theorem apply_eq {α : Type} {p : Char → α} (h : SameLetter c d)
    (hp : ∀ c : Char, p c.toLower = p c) : p c = p d := by
  rw [← hp c, h, hp d]

/-- A character that is no letter has no other form. -/
theorem eq_of_not_isAlpha (h : SameLetter c d) (hc : c.isAlpha = false) : d = c := by
  have hd : d.isAlpha = false := (h.apply_eq isAlpha_toLower).symm.trans hc
  have hkept : ∀ {c : Char}, c.isAlpha = false → c.toLower = c := by
    intro c hc
    have hupper : c.isUpper = false := (Bool.or_eq_false_iff.mp hc).1
    exact dif_neg (of_decide_eq_false hupper)
  rw [← hkept hc, ← hkept hd, h]

/-- A mark that is no letter is the same letter as itself only. -/
theorem ne_of_not_isAlpha {mark : Char} (h : SameLetter c d) (hmark : mark.isAlpha = false)
    (hc : c ≠ mark) : d ≠ mark := by
  rintro rfl
  exact hc (h.symm.eq_of_not_isAlpha hmark)

end SameLetter

/-! ### Texts -/

/-- A text is respelled into another one: blanks stand for blanks, some or none of them at the end,
and letters may have another case. -/
inductive Respelled : List Char → List Char → Prop
  | ending {s t : List Char} (hs : ∀ c ∈ s, isBlank c = true) (ht : ∀ c ∈ t, isBlank c = true) :
      Respelled s t
  | blanks {run run' s t : List Char} (hne : run ≠ []) (hne' : run' ≠ [])
      (hrun : ∀ c ∈ run, isBlank c = true) (hrun' : ∀ c ∈ run', isBlank c = true)
      (rest : Respelled s t) : Respelled (run ++ s) (run' ++ t)
  | letter {c d : Char} {s t : List Char} (h : SameLetter c d) (rest : Respelled s t) :
      Respelled (c :: s) (d :: t)

namespace Respelled

variable {s t : List Char} {c : Char}

/-- The empty text is respelled as itself. -/
protected theorem nil : Respelled [] [] :=
  ending (List.forall_mem_nil _) (List.forall_mem_nil _)

/-- Respelling is symmetric. -/
protected theorem symm (h : Respelled s t) : Respelled t s := by
  induction h with
  | ending hs ht => exact .ending ht hs
  | blanks hne hne' hrun hrun' _ ih => exact .blanks hne' hne hrun' hrun ih
  | letter h _ ih => exact .letter h.symm ih

/-- Every text is a respelling of itself. -/
protected theorem refl (s : List Char) : Respelled s s := by
  induction s with
  | nil => exact .nil
  | cons c s ih => exact .letter rfl ih

/-- The letters of a word may have another case. -/
theorem word {word word' : List Char} (h : word.map Char.toLower = word'.map Char.toLower)
    (rest : Respelled s t) : Respelled (word ++ s) (word' ++ t) := by
  induction word generalizing word' with
  | nil =>
    obtain rfl := List.map_eq_nil_iff.mp h.symm
    exact rest
  | cons c word ih =>
    obtain ⟨d, word', rfl, hletter, hword⟩ := List.map_eq_cons_iff.mp h.symm
    exact .letter hletter.symm (ih hword.symm)

/-- Induction on the length of the first text: behind a letter, what is to be shown is known of all
shorter texts. -/
@[elab_as_elim]
theorem induction_on_length {motive : (s t : List Char) → Respelled s t → Prop} {s t : List Char}
    (h : Respelled s t)
    (ending : ∀ s t hs ht, motive s t (.ending hs ht))
    (blanks : ∀ run run' s t hne hne' hrun hrun' rest, motive s t rest →
      motive (run ++ s) (run' ++ t) (.blanks hne hne' hrun hrun' rest))
    (letter : ∀ c d s t hletter rest, (∀ {s' t'} h, s'.length ≤ s.length → motive s' t' h) →
      motive (c :: s) (d :: t) (.letter hletter rest)) : motive s t h := by
  induction hlength : s.length using Nat.strongRecOn generalizing s t with
  | ind length ih =>
    cases h with
    | ending hs ht => exact ending _ _ hs ht
    | @blanks run _ s _ hne hne' hrun hrun' rest =>
      have hpos := List.length_pos_of_ne_nil hne
      rw [List.length_append] at hlength
      exact blanks _ _ _ _ hne hne' hrun hrun' rest (ih s.length (by omega) rest rfl)
    | @letter c d s _ hletter rest =>
      rw [List.length_cons] at hlength
      exact letter _ _ _ _ hletter rest fun {s' _} h hle => ih s'.length (by omega) h rfl

/-- A character that is no blank stands for another form of it. -/
theorem exists_of_cons (h : Respelled (c :: s) t) (hc : isBlank c = false) :
    ∃ d t', t = d :: t' ∧ SameLetter c d ∧ Respelled s t' := by
  generalize hwhole : c :: s = whole at h
  cases h with
  | ending hs _ =>
    have hblank := hs c (hwhole ▸ List.mem_cons_self)
    rw [hc] at hblank
    cases hblank
  | @blanks run _ _ _ hne _ hrun _ _ =>
    obtain ⟨d, run, rfl⟩ := List.exists_cons_of_ne_nil hne
    obtain ⟨rfl, -⟩ := List.cons.inj hwhole
    have hblank := hrun c List.mem_cons_self
    rw [hc] at hblank
    cases hblank
  | letter hletter rest =>
    obtain ⟨rfl, rfl⟩ := List.cons.inj hwhole
    exact ⟨_, _, rfl, hletter, rest⟩

/-- A character that is neither blank nor letter stands for itself. -/
theorem exists_of_mark (h : Respelled (c :: s) t) (hc : isBlank c = false)
    (hmark : c.isAlpha = false) : ∃ t', t = c :: t' ∧ Respelled s t' := by
  obtain ⟨d, t', rfl, hletter, hrest⟩ := h.exists_of_cons hc
  exact ⟨t', by rw [hletter.eq_of_not_isAlpha hmark], hrest⟩

/-- Whether the first character is of a kind without blanks is the same in both texts. -/
theorem head_any {p : Char → Bool} (h : Respelled s t)
    (hblank : ∀ c, isBlank c = true → p c = false) (hp : ∀ c : Char, p c.toLower = p c) :
    s.head?.any p = t.head?.any p := by
  have hnone : ∀ {run : List Char}, (∀ c ∈ run, isBlank c = true) → run.head?.any p = false := by
    intro run hrun
    cases run with
    | nil => rfl
    | cons c run => exact hblank c (hrun c List.mem_cons_self)
  cases h with
  | ending hs ht => rw [hnone hs, hnone ht]
  | blanks hne hne' hrun hrun' _ =>
    rw [List.head?_append_of_ne_nil _ hne, List.head?_append_of_ne_nil _ hne', hnone hrun,
      hnone hrun']
  | letter hletter _ => exact hletter.apply_eq hp

/-- Respellings stay so without the blanks in front. -/
theorem dropBlanks_rel (h : Respelled s t) : Respelled (dropBlanks s) (dropBlanks t) := by
  induction h with
  | ending hs ht =>
    rw [dropBlanks, dropBlanks, List.dropWhile_eq_nil_iff.mpr hs, List.dropWhile_eq_nil_iff.mpr ht]
    exact .nil
  | blanks _ _ hrun hrun' _ ih =>
    rwa [dropBlanks_append_of_blank hrun, dropBlanks_append_of_blank hrun']
  | @letter c d s t hletter rest ih =>
    have hsame : isBlank c = isBlank d := hletter.apply_eq isBlank_toLower
    rw [dropBlanks, dropBlanks, List.dropWhile_cons, List.dropWhile_cons, ← hsame]
    split
    · exact ih
    · exact .letter hletter rest

/-! ### Strings -/

end Respelled

/-- A character that is no quote does not close a string. -/
theorem closeString_cons_of_ne {c : Char} (hc : c ≠ '\'') (text : List Char) :
    closeString (c :: text) = closeString text := by
  rw [closeString]
  · exact fun _ heq _ => hc heq
  · exact hc

/-- A quote with no second one behind it closes a string. -/
theorem closeString_quote {text : List Char} (h : text.head? ≠ some '\'') :
    closeString ('\'' :: text) = some text := by
  refine closeString.eq_3 _ fun rest heq => h ?_
  rw [heq]
  rfl

/-- No string is closed by blanks. -/
theorem closeString_append_of_blank {run : List Char} (h : ∀ c ∈ run, isBlank c = true)
    (text : List Char) : closeString (run ++ text) = closeString text := by
  induction run with
  | nil => rfl
  | cons c run ih =>
    obtain ⟨hc, hrun⟩ := List.forall_mem_cons.mp h
    rw [List.cons_append, closeString_cons_of_ne (isBlank_ne_quote hc), ih hrun]

/-- Blanks do not close a string. -/
theorem closeString_of_blank {run : List Char} (h : ∀ c ∈ run, isBlank c = true) :
    closeString run = none := by
  rw [← List.append_nil run, closeString_append_of_blank h, closeString]

/-- A quote that opens no string is kept. -/
theorem replaceStrings_of_not_close {text : List Char} (h : closeString text = none) :
    replaceStrings ('\'' :: text) = '\'' :: replaceStrings text := by
  rw [replaceStrings, if_pos (beq_self_eq_true _)]
  split
  · next found hfound =>
    rw [h] at hfound
    cases hfound
  · rfl

/-- There is no quote among blanks. -/
theorem quote_notMem_of_blank {run : List Char} (h : ∀ c ∈ run, isBlank c = true) : '\'' ∉ run :=
  fun hmem => isBlank_ne_quote (h _ hmem) rfl

/-- There is no string in blanks. -/
theorem replaceStrings_of_blank {run : List Char} (h : ∀ c ∈ run, isBlank c = true) :
    replaceStrings run = run := by
  have hrun := replaceStrings_append (quote_notMem_of_blank h) []
  rwa [List.append_nil, replaceStrings, List.append_nil] at hrun

namespace Respelled

variable {s t : List Char}

/-- A string ends at the same place in both texts, or in none of them. -/
theorem closeString_rel (h : Respelled s t) :
    Option.Rel Respelled (closeString s) (closeString t) := by
  induction h using induction_on_length with
  | ending s t hs ht =>
    rw [closeString_of_blank hs, closeString_of_blank ht]
    exact .none
  | blanks run run' s t _ _ hrun hrun' _ ih =>
    rwa [closeString_append_of_blank hrun, closeString_append_of_blank hrun']
  | letter c d s t hletter rest ih =>
    by_cases hc : c = '\''
    · subst hc
      obtain rfl := hletter.eq_of_not_isAlpha rfl
      by_cases hquote : s.head? = some '\''
      · obtain ⟨s, rfl⟩ := List.head?_eq_some_iff.mp hquote
        obtain ⟨t, rfl, hrest⟩ := rest.exists_of_mark rfl rfl
        have hclose := ih hrest (Nat.le_succ _)
        simp only [closeString]
        cases hs : closeString s <;> cases ht : closeString t <;> rw [hs, ht]
          at hclose <;> cases hclose
        · exact .some (.letter rfl hrest)
        · next hbehind => exact .some hbehind
      · have hquote' : t.head? ≠ some '\'' := by
          intro hhead
          obtain ⟨t, rfl⟩ := List.head?_eq_some_iff.mp hhead
          obtain ⟨s, rfl, -⟩ := rest.symm.exists_of_mark rfl rfl
          exact hquote rfl
        rw [closeString_quote hquote, closeString_quote hquote']
        exact .some rest
    · have hd : d ≠ '\'' := hletter.ne_of_not_isAlpha rfl hc
      rw [closeString_cons_of_ne hc, closeString_cons_of_ne hd]
      exact ih rest (Nat.le_refl _)

/-- Respellings stay so when their strings are replaced. -/
theorem replaceStrings_rel (h : Respelled s t) : Respelled (replaceStrings s)
    (replaceStrings t) := by
  induction h using induction_on_length with
  | ending s t hs ht =>
    rw [replaceStrings_of_blank hs, replaceStrings_of_blank ht]
    exact .ending hs ht
  | blanks run run' s t hne hne' hrun hrun' _ ih =>
    rw [replaceStrings_append (quote_notMem_of_blank hrun),
      replaceStrings_append (quote_notMem_of_blank hrun')]
    exact .blanks hne hne' hrun hrun' ih
  | letter c d s t hletter rest ih =>
    by_cases hc : c = '\''
    · subst hc
      obtain rfl := hletter.eq_of_not_isAlpha rfl
      have hclose := rest.closeString_rel
      cases hs : closeString s <;> cases ht : closeString t <;> rw [hs, ht]
        at hclose <;> cases hclose
      · rw [replaceStrings_of_not_close hs, replaceStrings_of_not_close ht]
        exact .letter rfl (ih rest (Nat.le_refl _))
      · next hbehind =>
        rw [replaceStrings_of_close hs, replaceStrings_of_close ht]
        exact .letter rfl (ih hbehind (Nat.le_of_lt (closeString_length hs)))
    · have hd : d ≠ '\'' := hletter.ne_of_not_isAlpha rfl hc
      rw [replaceStrings_cons_of_ne hc, replaceStrings_cons_of_ne hd]
      exact .letter hletter (ih rest (Nat.le_refl _))

end Respelled

/-! ### Numbers -/

/-- A blank is no decimal digit. -/
theorem isDecimal_of_isBlank {c : Char} (h : isBlank c = true) : isDecimal c = false :=
  (delimits_of_isBlank h).isDecimal_eq

/-- A text starts with a word if its first character is part of one. -/
theorem startsWithWord_eq (text : List Char) : startsWithWord text = text.head?.any isWord := by
  cases text <;> rfl

/-- Something is dropped from a text exactly if its first character is. -/
theorem length_dropWhile_lt_iff (p : Char → Bool) (text : List Char) :
    (text.dropWhile p).length < text.length ↔ text.head?.any p = true := by
  cases text with
  | nil => simp
  | cons c text =>
    rw [List.dropWhile_cons, List.head?_cons, Option.any_some]
    have hle := dropWhile_length_le p text
    split
    · next hc => simpa [hc] using Nat.lt_succ_of_le hle
    · next hc => simp [hc]

/-- Blanks are kept when numbers are replaced, and no word stands behind them. -/
theorem replaceNumbers_append_of_blank {run : List Char} (hne : run ≠ [])
    (h : ∀ c ∈ run, isBlank c = true) (inWord : Bool) (text : List Char) :
    replaceNumbers inWord (run ++ text) = run ++ replaceNumbers false text := by
  induction run generalizing inWord with
  | nil => exact absurd rfl hne
  | cons c run ih =>
    obtain ⟨hc, hrun⟩ := List.forall_mem_cons.mp h
    rw [List.cons_append, replaceNumbers_delimiter (delimits_of_isBlank hc), List.cons_append]
    cases run with
    | nil => rfl
    | cons d run => rw [ih (List.cons_ne_nil d run) hrun]

/-- There is no number in blanks. -/
theorem replaceNumbers_of_blank {run : List Char} (h : ∀ c ∈ run, isBlank c = true)
    (inWord : Bool) : replaceNumbers inWord run = run := by
  cases run with
  | nil => rw [replaceNumbers]
  | cons c run =>
    have hrun := replaceNumbers_append_of_blank (List.cons_ne_nil c run) h inWord []
    rwa [List.append_nil, replaceNumbers, List.append_nil] at hrun

namespace Respelled

variable {s t : List Char}

/-- Respellings agree on starting with a word. -/
theorem startsWithWord_eq (h : Respelled s t) : startsWithWord s = startsWithWord t := by
  rw [Fingerprint.startsWithWord_eq, Fingerprint.startsWithWord_eq]
  exact h.head_any (fun c hc => (delimits_of_isBlank hc).1) isWord_toLower

/-- Respellings stay so without the digits in front. -/
theorem dropDigits_rel (h : Respelled s t) :
    Respelled (s.dropWhile isDecimal) (t.dropWhile isDecimal) := by
  have hblank : ∀ {run : List Char} (text : List Char), run ≠ [] → (∀ c ∈ run, isBlank c = true) →
      (run ++ text).dropWhile isDecimal = run ++ text := by
    intro run text hne hrun
    obtain ⟨c, run, rfl⟩ := List.exists_cons_of_ne_nil hne
    exact List.dropWhile_cons_of_neg (by simp [isDecimal_of_isBlank (hrun c List.mem_cons_self)])
  induction h with
  | @ending s t hs ht =>
    have hkept : ∀ {run : List Char}, (∀ c ∈ run, isBlank c = true) → run.dropWhile isDecimal
        = run := by
      intro run hrun
      cases run with
      | nil => rfl
      | cons c run => simpa using hblank [] (List.cons_ne_nil c run) hrun
    rw [hkept hs, hkept ht]
    exact .ending hs ht
  | blanks hne hne' hrun hrun' rest _ =>
    rw [hblank _ hne hrun, hblank _ hne' hrun']
    exact .blanks hne hne' hrun hrun' rest
  | @letter c d s t hletter rest ih =>
    have hsame : isDecimal c = isDecimal d := hletter.apply_eq isDecimal_toLower
    rw [List.dropWhile_cons, List.dropWhile_cons, ← hsame]
    split
    · exact ih
    · exact .letter hletter rest

/-- A number ends at the same place in both texts, or in none of them. -/
theorem closeNumber_rel (h : Respelled s t) :
    Option.Rel Respelled (closeNumber s) (closeNumber t) := by
  have hdigits := h.dropDigits_rel
  by_cases hpoint : ∃ fraction, s.dropWhile isDecimal = '.' :: fraction
  · obtain ⟨fraction, hfraction⟩ := hpoint
    rw [hfraction] at hdigits
    obtain ⟨fraction', hfraction', hrest⟩ := hdigits.exists_of_mark rfl rfl
    have hany := hrest.head_any (fun _ => isDecimal_of_isBlank) isDecimal_toLower
    have hsome : decide ((fraction.dropWhile isDecimal).length < fraction.length)
        = decide ((fraction'.dropWhile isDecimal).length < fraction'.length) := by
      rw [decide_eq_decide, length_dropWhile_lt_iff, length_dropWhile_lt_iff, hany]
    have hbehind := hrest.dropDigits_rel
    rw [closeNumber_of_point hfraction, closeNumber_of_point hfraction', hbehind.startsWithWord_eq,
      hsome]
    split
    · exact .some hbehind
    · exact .some (.letter rfl hrest)
  · have hpoint' : ∀ fraction, t.dropWhile isDecimal ≠ '.' :: fraction := by
      intro fraction hfraction
      rw [hfraction] at hdigits
      obtain ⟨fraction', hfraction', -⟩ := hdigits.symm.exists_of_mark rfl rfl
      exact hpoint ⟨fraction', hfraction'⟩
    rw [closeNumber_of_no_point fun fraction heq => hpoint ⟨fraction, heq⟩,
      closeNumber_of_no_point hpoint', hdigits.startsWithWord_eq]
    split
    · exact .none
    · exact .some hdigits

/-- Respellings stay so when their numbers are replaced. -/
theorem replaceNumbers_rel (h : Respelled s t) (inWord : Bool) :
    Respelled (replaceNumbers inWord s) (replaceNumbers inWord t) := by
  induction h using induction_on_length generalizing inWord with
  | ending s t hs ht =>
    rw [replaceNumbers_of_blank hs, replaceNumbers_of_blank ht]
    exact .ending hs ht
  | blanks run run' s t hne hne' hrun hrun' _ ih =>
    rw [replaceNumbers_append_of_blank hne hrun, replaceNumbers_append_of_blank hne' hrun']
    exact .blanks hne hne' hrun hrun' (ih false)
  | letter c d s t hletter rest ih =>
    have hdecimal : isDecimal c = isDecimal d := hletter.apply_eq isDecimal_toLower
    have hword : isWord c = isWord d := hletter.apply_eq isWord_toLower
    cases hdigit : !inWord && isDecimal c with
    | false =>
      rw [replaceNumbers_cons hdigit, replaceNumbers_cons (hdecimal ▸ hdigit), hword]
      exact .letter hletter (ih rest (Nat.le_refl _) (isWord d))
    | true =>
      obtain ⟨hfree, hc⟩ := Bool.and_eq_true_iff.mp hdigit
      obtain rfl : inWord = false := by simpa using hfree
      have hd : isDecimal d = true := hdecimal ▸ hc
      have hclose := (letter hletter rest).closeNumber_rel
      cases hs : closeNumber (c :: s) <;> cases ht : closeNumber (d :: t) <;> rw [hs, ht]
        at hclose <;>
        cases hclose
      · rw [replaceNumbers_of_not_close hc hs, replaceNumbers_of_not_close hd ht]
        exact .letter hletter (ih rest (Nat.le_refl _) true)
      · next hbehind =>
        rw [replaceNumbers_of_close hc hs, replaceNumbers_of_close hd ht]
        exact .letter rfl (ih hbehind (Nat.le_of_lt_succ (closeNumber_length hc hs)) true)

end Respelled

/-! ### Lists of placeholders -/

/-- Blanks are kept when lists are replaced. -/
theorem replaceLists_append_of_blank {run : List Char} (h : ∀ c ∈ run, isBlank c = true)
    (text : List Char) : replaceLists (run ++ text) = run ++ replaceLists text := by
  induction run with
  | nil => rfl
  | cons c run ih =>
    obtain ⟨hc, hrun⟩ := List.forall_mem_cons.mp h
    have hopen : c ≠ '(' := by
      rintro rfl
      cases hc
    rw [List.cons_append, replaceLists_cons_of_ne hopen, ih hrun, List.cons_append]

/-- There is no list of placeholders in blanks. -/
theorem replaceLists_of_blank {run : List Char} (h : ∀ c ∈ run, isBlank c = true) :
    replaceLists run = run := by
  have hrun := replaceLists_append_of_blank h []
  rwa [List.append_nil, replaceLists, List.append_nil] at hrun

/-- A list ends at the same place in both texts. -/
theorem ClosesList.respelled {s t behind : List Char} (hclose : ClosesList s behind)
    (h : Respelled s t) : ∃ behind', ClosesList t behind' ∧ Respelled behind behind' := by
  induction hclose generalizing t with
  | last hlast =>
    have hend := h.dropBlanks_rel
    rw [hlast] at hend
    obtain ⟨behind', hlast', hbehind⟩ := hend.exists_of_mark rfl rfl
    exact ⟨behind', .last hlast', hbehind⟩
  | more hmore hnext _ ih =>
    have hcomma := h.dropBlanks_rel
    rw [hmore] at hcomma
    obtain ⟨rest, hmore', hrest⟩ := hcomma.exists_of_mark rfl rfl
    have hmark := hrest.dropBlanks_rel
    rw [hnext] at hmark
    obtain ⟨next, hnext', hlater⟩ := hmark.exists_of_mark rfl rfl
    obtain ⟨behind', hclose', hbehind⟩ := ih hlater
    exact ⟨behind', .more hmore' hnext' hclose', hbehind⟩

namespace Respelled

variable {s t : List Char}

/-- Where a list of placeholders is closed in a text, one is closed in each respelling, with
respellings behind. -/
theorem exists_of_closePlaceholders (h : Respelled s t) {behind : List Char}
    (hclose : closePlaceholders s = some behind) :
    ∃ behind', closePlaceholders t = some behind' ∧ Respelled behind behind' := by
  obtain ⟨rest, hmark, hlist⟩ := closePlaceholders_eq_some_iff.mp hclose
  have hfirst := h.dropBlanks_rel
  rw [hmark] at hfirst
  obtain ⟨rest', hmark', hrest⟩ := hfirst.exists_of_mark rfl rfl
  obtain ⟨behind', hlist', hbehind⟩ := hlist.respelled hrest
  exact ⟨behind', closePlaceholders_eq_some_iff.mpr ⟨rest', hmark', hlist'⟩, hbehind⟩

/-- Respellings stay so when their lists of placeholders are replaced. -/
theorem replaceLists_rel (h : Respelled s t) : Respelled (replaceLists s) (replaceLists t) := by
  induction h using induction_on_length with
  | ending s t hs ht =>
    rw [replaceLists_of_blank hs, replaceLists_of_blank ht]
    exact .ending hs ht
  | blanks run run' s t hne hne' hrun hrun' _ ih =>
    rw [replaceLists_append_of_blank hrun, replaceLists_append_of_blank hrun']
    exact .blanks hne hne' hrun hrun' ih
  | letter c d s t hletter rest ih =>
    by_cases hc : c = '('
    · subst hc
      obtain rfl := hletter.eq_of_not_isAlpha rfl
      cases hs : closePlaceholders s with
      | none =>
        have ht : closePlaceholders t = none := by
          refine Option.eq_none_iff_forall_not_mem.mpr fun behind hbehind => ?_
          obtain ⟨behind', hclose, -⟩ := rest.symm.exists_of_closePlaceholders hbehind
          rw [hs] at hclose
          cases hclose
        rw [replaceLists_of_not_close hs, replaceLists_of_not_close ht]
        exact .letter rfl (ih rest (Nat.le_refl _))
      | some behind =>
        obtain ⟨behind', ht, hbehind⟩ := rest.exists_of_closePlaceholders hs
        rw [replaceLists_of_close hs, replaceLists_of_close ht]
        exact .letter rfl (.letter rfl (.letter rfl
          (ih hbehind (Nat.le_of_lt (closePlaceholders_length hs)))))
    · have hd : d ≠ '(' := hletter.ne_of_not_isAlpha rfl hc
      rw [replaceLists_cons_of_ne hc, replaceLists_cons_of_ne hd]
      exact .letter hletter (ih rest (Nat.le_refl _))

end Respelled

/-! ### Blanks, ends and letter case -/

/-- A run of blanks becomes one blank, or none if a blank stands before it. -/
theorem replaceBlanks_append_of_blank {run : List Char} (hne : run ≠ [])
    (h : ∀ c ∈ run, isBlank c = true) (behindBlank : Bool) (text : List Char) :
    replaceBlanks behindBlank (run ++ text)
      = (if behindBlank then [] else [' ']) ++ replaceBlanks true text := by
  induction run generalizing behindBlank with
  | nil => exact absurd rfl hne
  | cons c run ih =>
    obtain ⟨hc, hrun⟩ := List.forall_mem_cons.mp h
    have hbehind : replaceBlanks true (run ++ text) = replaceBlanks true text := by
      cases run with
      | nil => rfl
      | cons d run => exact ih (List.cons_ne_nil d run) hrun true
    rw [List.cons_append, replaceBlanks, if_pos hc, hbehind]
    cases behindBlank <;> rfl

/-- Nothing but blanks is left of blanks. -/
theorem isBlank_of_mem_replaceBlanks {run : List Char} (h : ∀ c ∈ run, isBlank c = true)
    (behindBlank : Bool) : ∀ c ∈ replaceBlanks behindBlank run, isBlank c = true := by
  cases run with
  | nil => exact List.forall_mem_nil _
  | cons c run =>
    have hrun := replaceBlanks_append_of_blank (List.cons_ne_nil c run) h behindBlank []
    rw [List.append_nil, replaceBlanks, List.append_nil] at hrun
    rw [hrun]
    intro c hc
    cases behindBlank with
    | true => exact absurd hc List.not_mem_nil
    | false =>
      rw [List.mem_singleton.mp hc]
      rfl

/-- Blanks are collapsed alike in lower case. -/
theorem map_toLower_replaceBlanks (behindBlank : Bool) (text : List Char) :
    (replaceBlanks behindBlank text).map Char.toLower
      = replaceBlanks behindBlank (text.map Char.toLower) := by
  induction text generalizing behindBlank with
  | nil => rfl
  | cons c text ih =>
    rw [List.map_cons, replaceBlanks, replaceBlanks, isBlank_toLower]
    cases isBlank c with
    | true =>
      cases behindBlank with
      | true => exact ih true
      | false => exact congrArg (' ' :: ·) (ih true)
    | false => exact congrArg (c.toLower :: ·) (ih false)

/-- What stands in front of a text without blanks at its front makes no difference. -/
theorem dropBlanks_replaceBlanks (behindBlank : Bool) (text : List Char) :
    dropBlanks (replaceBlanks behindBlank text) = replaceBlanks false (dropBlanks text) := by
  induction text generalizing behindBlank with
  | nil => rfl
  | cons c text ih =>
    cases hc : isBlank c with
    | true =>
      have htext : dropBlanks (c :: text) = dropBlanks text := List.dropWhile_cons_of_pos hc
      rw [htext, ← ih true, replaceBlanks, if_pos hc]
      cases behindBlank <;> rfl
    | false =>
      have hkept : ∀ behindBlank, replaceBlanks behindBlank (c :: text)
          = c :: replaceBlanks false text := by
        intro behindBlank
        rw [replaceBlanks, if_neg (by simp [hc])]
      rw [hkept, dropBlanks_cons hc, dropBlanks_cons hc, hkept]

/-- At the end of a text, characters of a kind are cut off together with any others of the kind
behind them. -/
theorem dropEnd_append_of_all {p : Char → Bool} {tail : List Char} (h : ∀ c ∈ tail, p c = true)
    (text : List Char) : dropEnd p (text ++ tail) = dropEnd p text := by
  have htail : tail.reverse.dropWhile p = [] :=
    List.dropWhile_eq_nil_iff.mpr fun c hc => h c (List.mem_reverse.mp hc)
  rw [dropEnd, List.reverse_append, List.dropWhile_append, htail]
  rfl

/-- Blanks behind a text are trimmed away. -/
theorem trimBlanks_append_of_blank {tail : List Char} (h : ∀ c ∈ tail, isBlank c = true)
    (text : List Char) : trimBlanks (text ++ tail) = trimBlanks text := by
  rw [trimBlanks, trimBlanks, dropBlanks, List.dropWhile_append]
  split
  · next hempty =>
    rw [dropBlanks, List.isEmpty_iff.mp hempty, List.dropWhile_eq_nil_iff.mpr h]
  · exact dropEnd_append_of_all h _

/-- The end of a text is cut off alike in lower case, if the case does not matter for what is cut
off. -/
theorem map_toLower_dropEnd {p : Char → Bool} (hp : ∀ c : Char, p c.toLower = p c)
    (text : List Char) : (dropEnd p text).map Char.toLower = dropEnd p (text.map Char.toLower) := by
  have hsame : p ∘ Char.toLower = p := funext hp
  have hreverse : (text.map Char.toLower).reverse = text.reverse.map Char.toLower :=
    List.map_reverse.symm
  rw [dropEnd, dropEnd, hreverse, List.dropWhile_map, hsame, List.map_reverse]

/-- A statement is trimmed alike in lower case. -/
theorem map_toLower_trimStatement (text : List Char) :
    (trimStatement text).map Char.toLower = trimStatement (text.map Char.toLower) := by
  have hsemicolon : ∀ c : Char, (c.toLower == ';') = (c == ';') :=
    apply_toLower (p := (· == ';')) (by decide +kernel)
  have hblank : isBlank ∘ Char.toLower = isBlank := funext isBlank_toLower
  rw [trimStatement, trimStatement, trimBlanks, trimBlanks, map_toLower_dropEnd isBlank_toLower,
    map_toLower_dropEnd hsemicolon, map_toLower_dropEnd isBlank_toLower, dropBlanks, dropBlanks,
    List.dropWhile_map, hblank]

/-- Lower case meets cased letters where the text does. -/
theorem meetsCased_map_toLower (text : List Char) :
    meetsCased (text.map Char.toLower) = meetsCased text := by
  have hpassed : ∀ c : Char, inRanges caseIgnorableRanges c.toLower.toNat
      = inRanges caseIgnorableRanges c.toNat :=
    apply_toLower (p := fun c => inRanges caseIgnorableRanges c.toNat) (by decide +kernel)
  have hcased : ∀ c : Char, inRanges casedRanges c.toLower.toNat = inRanges casedRanges c.toNat :=
    apply_toLower (p := fun c => inRanges casedRanges c.toNat) (by decide +kernel)
  induction text with
  | nil => rfl
  | cons c text ih => rw [List.map_cons, meetsCased, meetsCased, hpassed, hcased, ih]

/-- The ASCII letters of a text may be written in lower case first. -/
theorem lowerCase_map_toLower (text : List Char) : lowerCase (text.map Char.toLower)
    = lowerCase text := by
  have hbetween : ∀ before c after,
      lowerBetween (before.map Char.toLower) c.toLower (after.map Char.toLower)
      = lowerBetween before c after := by
    intro before c after
    have hsigma : (c.toLower == 'Σ') = (c == 'Σ') :=
      apply_toLower (p := (· == 'Σ')) (by decide +kernel) c
    have hdotted : (c.toLower == 'İ') = (c == 'İ') :=
      apply_toLower (p := (· == 'İ')) (by decide +kernel) c
    have hchar : lowerChar c.toLower = lowerChar c := apply_toLower (by decide +kernel) c
    rw [lowerBetween, lowerBetween, meetsCased_map_toLower, meetsCased_map_toLower, hsigma,
      hdotted, hchar]
  have hafter : ∀ before, lowerAfter (before.map Char.toLower) (text.map Char.toLower)
      = lowerAfter before text := by
    induction text with
    | nil => exact fun _ => rfl
    | cons c text ih =>
      intro before
      rw [List.map_cons, lowerAfter, lowerAfter, hbetween, ← List.map_cons, ih]
  exact hafter []

/-! ### The whole -/

namespace Respelled

variable {s t : List Char}

/-- Texts that are respelled into each other are the same up to blanks at their ends when blanks are
collapsed and letters are lowered. -/
theorem exists_core (h : Respelled s t) (behindBlank : Bool) :
    ∃ core tail tail', (∀ c ∈ tail, isBlank c = true) ∧ (∀ c ∈ tail', isBlank c = true)
      ∧ replaceBlanks behindBlank (s.map Char.toLower) = core ++ tail
      ∧ replaceBlanks behindBlank (t.map Char.toLower) = core ++ tail' := by
  have hlowered : ∀ {run : List Char}, (∀ c ∈ run, isBlank c = true) →
      ∀ c ∈ run.map Char.toLower, isBlank c = true := by
    intro run hrun c hc
    obtain ⟨d, hd, rfl⟩ := List.mem_map.mp hc
    rw [isBlank_toLower, hrun d hd]
  induction h generalizing behindBlank with
  | ending hs ht =>
    exact ⟨[], _, _, isBlank_of_mem_replaceBlanks (hlowered hs) behindBlank,
      isBlank_of_mem_replaceBlanks (hlowered ht) behindBlank, rfl, rfl⟩
  | blanks hne hne' hrun hrun' _ ih =>
    obtain ⟨core, tail, tail', htail, htail', hs, ht⟩ := ih true
    refine ⟨(if behindBlank then [] else [' ']) ++ core, tail, tail', htail, htail', ?_, ?_⟩
    · rw [List.map_append, replaceBlanks_append_of_blank (by simpa using hne) (hlowered hrun), hs,
        List.append_assoc]
    · rw [List.map_append, replaceBlanks_append_of_blank (by simpa using hne') (hlowered hrun'), ht,
        List.append_assoc]
  | @letter c d s t hletter _ ih =>
    rw [List.map_cons, List.map_cons, ← (show c.toLower = d.toLower from hletter)]
    cases hc : isBlank c.toLower with
    | true =>
      obtain ⟨core, tail, tail', htail, htail', hs, ht⟩ := ih true
      refine ⟨(if behindBlank then [] else [' ']) ++ core, tail, tail', htail, htail', ?_, ?_⟩ <;>
        rw [replaceBlanks, if_pos hc, List.append_assoc] <;> simp only [hs, ht]
          <;> cases behindBlank <;> rfl
    | false =>
      obtain ⟨core, tail, tail', htail, htail', hs, ht⟩ := ih false
      refine ⟨c.toLower :: core, tail, tail', htail, htail', ?_, ?_⟩ <;>
        rw [replaceBlanks, if_neg (by simp [hc]), List.cons_append]
      · rw [hs]
      · rw [ht]

/-- The shapes of respellings are the same in lower case. -/
theorem lowerCase_shape_eq (h : Respelled s t) : lowerCase (shape s) = lowerCase (shape t) := by
  have hreplaced := (h.replaceStrings_rel.replaceNumbers_rel false).replaceLists_rel
  obtain ⟨core, tail, tail', htail, htail', hs, ht⟩ := hreplaced.exists_core false
  rw [← lowerCase_map_toLower, ← lowerCase_map_toLower (shape t), shape, shape,
    map_toLower_trimStatement, map_toLower_trimStatement, map_toLower_replaceBlanks,
    map_toLower_replaceBlanks, hs, ht, trimStatement, trimStatement,
    trimBlanks_append_of_blank htail, trimBlanks_append_of_blank htail']

end Respelled

/-- Blanks in front of a statement are not part of its shape. -/
theorem shape_append_of_blank {lead : List Char} (h : ∀ c ∈ lead, isBlank c = true)
    (text : List Char) : shape (lead ++ text) = shape text := by
  have hmark := mark_blanks h text
  rw [mark, mark] at hmark
  rw [shape, shape, trimStatement, trimStatement, trimBlanks, trimBlanks, hmark,
    replaceLists_append_of_blank h, dropBlanks_replaceBlanks, dropBlanks_replaceBlanks,
    dropBlanks_append_of_blank h]

/-- The normal form of a statement does not depend on how it is spelled: which blanks stand between
its words, inside and outside of strings, how many of them stand there or at its ends, and in which
case its ASCII letters are written. -/
theorem normalize_respelled {lead lead' s t : String} (hlead : ∀ c ∈ lead.toList, isBlank c = true)
    (hlead' : ∀ c ∈ lead'.toList, isBlank c = true) (h : Respelled s.toList t.toList) :
    normalize (lead ++ s) = normalize (lead' ++ t) := by
  have hshape := h.lowerCase_shape_eq
  rw [normalize, normalize, toLowerCase, toLowerCase, String.toList_ofList, String.toList_ofList,
    String.toList_append, String.toList_append, shape_append_of_blank hlead,
    shape_append_of_blank hlead',
    hshape]

/-- A statement in two spellings, with a string, and with a quote that opens none. -/
theorem normalize_respelled_quotes :
    normalize ("\n" ++ "SELECT 'It''s  5' ,o'Clock ;\n")
      = normalize ("" ++ "select\t'it''s 5'\n,O'clock ;") := by
  have hblank : ∀ {run : List Char}, run.all isBlank = true → ∀ c ∈ run, isBlank c = true :=
    List.all_eq_true.mp
  have hgap : ∀ {run run' s t : List Char}, run ≠ [] ∧ run' ≠ [] → run.all isBlank = true →
      run'.all isBlank = true → Respelled s t → Respelled (run ++ s) (run' ++ t) :=
    fun hne hrun hrun' => .blanks hne.1 hne.2 (hblank hrun) (hblank hrun')
  have hend : Respelled ";\n".toList ";".toList :=
    @Respelled.word ['\n'] [] [';'] [';'] rfl (.ending (hblank (by decide)) (hblank (by decide)))
  have hclock : Respelled ",o'Clock ;\n".toList ",O'clock ;".toList :=
    @Respelled.word _ _ ",o'Clock".toList ",O'clock".toList (by decide +kernel)
      (@hgap [' '] [' '] _ _ (by decide) (by decide) (by decide) hend)
  have hstring : Respelled "'It''s  5' ,o'Clock ;\n".toList "'it''s 5'\n,O'clock ;".toList :=
    @Respelled.word _ _ "'It''s".toList "'it''s".toList (by decide +kernel)
      (@hgap [' ', ' '] [' '] _ _ (by decide) (by decide) (by decide)
        (@Respelled.word _ _ ['5', '\''] ['5', '\''] rfl
          (@hgap [' '] ['\n'] _ _ (by decide) (by decide) (by decide) hclock)))
  have hall :
      Respelled "SELECT 'It''s  5' ,o'Clock ;\n".toList "select\t'it''s 5'\n,O'clock ;".toList :=
    @Respelled.word _ _ "SELECT".toList "select".toList (by decide +kernel)
      (@hgap [' '] ['\t'] _ _ (by decide) (by decide) (by decide) hstring)
  exact normalize_respelled (hblank (by decide)) (hblank (by decide)) hall

end QueryLint.Fingerprint
