import Mathlib.Data.List.DropRight
import QueryLint.Proofs.Fingerprint.Settled
import QueryLint.Proofs.LowerCase

/-!
# Normalizing a normal form

Neither trimming nor lower case brings back what was replaced in a text, so in a normal form there
is nothing to replace (`settled_lowerCase_shape`). What is done to a normal form that is normalized
again is therefore trimming alone (`shape_lowerCase_shape`). Blanks are trimmed away before the
semicolons and once more behind them, but semicolons only once, so those that stand apart come off
one after the other (`normalize_normalize`).
-/

namespace QueryLint.Fingerprint

open QueryLint.Text

variable {text s t : List Char} {c : Char}

/-! ### Trimming -/

/-- What is dropped at the end of a text are characters that are to be dropped. -/
theorem exists_dropEnd (p : Char → Bool) (text : List Char) :
    ∃ tail, text = dropEnd p text ++ tail ∧ ∀ c ∈ tail, p c = true :=
  ⟨text.rtakeWhile p, List.rdropWhile_append_rtakeWhile.symm,
    fun _ hc => List.mem_rtakeWhile_imp hc⟩

/-- Blanks are trimmed away in front, and blanks and semicolons behind. -/
theorem exists_trimStatement (text : List Char) :
    ∃ lead tail, text = lead ++ (trimStatement text ++ tail) ∧ (∀ c ∈ lead, isBlank c = true)
      ∧ ∀ c ∈ tail, isBlank c = true ∨ c = ';' := by
  have hlead : text.takeWhile isBlank ++ dropBlanks text = text := List.takeWhile_append_dropWhile
  obtain ⟨first, hfirst, hblank⟩ := exists_dropEnd isBlank (dropBlanks text)
  obtain ⟨second, hsecond, hsemicolon⟩ := exists_dropEnd (· == ';') (trimBlanks text)
  obtain ⟨third, hthird, hblank'⟩ := exists_dropEnd isBlank (dropEnd (· == ';') (trimBlanks text))
  refine ⟨text.takeWhile isBlank, third ++ (second ++ first), ?_,
    fun c hc => List.mem_takeWhile_imp hc, ?_⟩
  · rw [trimStatement, ← List.append_assoc _ third, ← hthird, ← List.append_assoc _ second,
      ← hsecond, trimBlanks, ← hfirst, hlead]
  · intro c hc
    rcases List.mem_append.mp hc with hc | hc
    · exact .inl (hblank' c hc)
    · rcases List.mem_append.mp hc with hc | hc
      · exact .inr (eq_of_beq (hsemicolon c hc))
      · exact .inl (hblank c hc)

/-- Blanks at the head are dropped whatever follows the text. -/
theorem dropBlanks_append_of_cons {rest : List Char} (h : dropBlanks text = c :: rest)
    (tail : List Char) : dropBlanks (text ++ tail) = c :: (rest ++ tail) := by
  rw [dropBlanks, List.dropWhile_append, if_neg (by rw [← dropBlanks, h]; simp), ← dropBlanks, h,
    List.cons_append]

/-- What closes a list closes it whatever stands behind the text. -/
theorem ClosesList.append {behind : List Char} (h : ClosesList text behind) (tail : List Char) :
    ClosesList (text ++ tail) (behind ++ tail) := by
  induction h with
  | last h => exact .last (dropBlanks_append_of_cons h tail)
  | more h hnext _ ih =>
    exact .more (dropBlanks_append_of_cons h tail) (dropBlanks_append_of_cons hnext tail) ih

/-- The front of a text has no number to replace if the whole has none and a delimiter follows. -/
theorem NumberFree.of_append {inWord : Bool} (h : NumberFree inWord (s ++ t))
    (ht : ∀ c ∈ t.head?, Delimits c) : NumberFree inWord s := by
  induction s generalizing inWord with
  | nil => trivial
  | cons c rest ih =>
    refine ⟨fun hfree hc => ?_, ih h.2⟩
    have hhead : startsWithWord ((rest ++ t).dropWhile isDecimal) = true := h.1 hfree hc
    rwa [dropWhile_append_of_apart (.inr ht), startsWithWord_append (.inr ht)] at hhead

/-- The front of a text has no list to replace if the whole has none. -/
theorem ListFree.of_append (h : ListFree (s ++ t)) : ListFree s := by
  induction s with
  | nil => trivial
  | cons c rest ih =>
    refine ⟨fun hopen hsome => ?_, ih h.2⟩
    obtain ⟨found, hfound⟩ := Option.isSome_iff_exists.mp hsome
    obtain ⟨next, hnext, hclose⟩ := closePlaceholders_eq_some_iff.mp hfound
    have hlonger : (closePlaceholders (rest ++ t)).isSome = true := by
      rw [closePlaceholders_eq_some_iff.mpr ⟨_, dropBlanks_append_of_cons hnext t, hclose.append t⟩]
      rfl
    obtain ⟨behind, hbehind⟩ := h.1 hopen hlonger
    -- The list is closed within the shorter text, so that holds at least two characters.
    match rest with
    | [] => cases hnext
    | [d] =>
      obtain rfl := (List.cons.inj hbehind).1
      cases hnext
      obtain ⟨before, hbefore⟩ := hclose.exists_before
      simp at hbefore
    | d :: e :: rest =>
      obtain ⟨rfl, htail⟩ := List.cons.inj hbehind
      obtain ⟨rfl, -⟩ := List.cons.inj htail
      exact ⟨rest, rfl⟩

/-- The blanks in front of a text are single spaces if all of them are. -/
theorem SingleBlanks.of_append {behindBlank : Bool} (h : SingleBlanks behindBlank (s ++ t)) :
    SingleBlanks behindBlank s := by
  induction s generalizing behindBlank with
  | nil => trivial
  | cons c rest ih => exact ⟨h.1, ih h.2⟩

/-- Single spaces are so wherever the text stands. -/
theorem SingleBlanks.weaken {behindBlank : Bool} (h : SingleBlanks behindBlank text) :
    SingleBlanks false text := by
  cases text with
  | nil => trivial
  | cons c rest => exact ⟨fun hc => ⟨(h.1 hc).1, rfl⟩, h.2⟩

/-- Behind blanks a settled text is settled. -/
theorem Settled.of_blank_append (h : Settled (s ++ t)) (hs : ∀ c ∈ s, isBlank c = true) :
    Settled t := by
  induction s with
  | nil => exact h
  | cons c rest ih =>
    obtain ⟨hc, hrest⟩ := List.forall_mem_cons.mp hs
    refine ih ⟨?_, ?_, h.lists.2, h.blanks.2.weaken⟩ hrest
    · exact (List.sublist_cons_self c _).count_le _ |>.trans h.strings
    · exact (numberFree_cons_iff (delimits_of_isBlank hc)).mp h.numbers

/-- Before a delimiter a settled text is settled. -/
theorem Settled.of_append (h : Settled (s ++ t)) (ht : ∀ c ∈ t.head?, Delimits c) : Settled s where
  strings := (List.sublist_append_left s t).count_le _ |>.trans h.strings
  numbers := h.numbers.of_append ht
  lists := h.lists.of_append
  blanks := h.blanks.of_append

/-- A settled text stays settled when it is trimmed. -/
theorem Settled.trimStatement (h : Settled text) : Settled (trimStatement text) := by
  obtain ⟨lead, tail, hwhole, hlead, htail⟩ := exists_trimStatement text
  rw [hwhole] at h
  refine (h.of_blank_append hlead).of_append fun c hc => ?_
  rcases htail c (List.mem_of_mem_head? hc) with hblank | rfl
  · exact delimits_of_isBlank hblank
  · decide +kernel

/-! ### Lower case -/

/-- A letter is no blank. -/
theorem isBlank_of_isLetter (h : IsLetter c) : isBlank c = false := by
  by_contra hblank
  have hword := (delimits_of_isBlank (by simpa using hblank)).1
  rw [h.1] at hword
  cases hword

/-- Lower case neither adds nor removes quotes. -/
theorem count_quote_of_loweredTo (h : LoweredTo s t) : t.count '\'' = s.count '\'' := by
  have hquote : isWord '\'' = false := by decide +kernel
  induction h with
  | nil => rfl
  | kept c _ ih => rw [List.count_cons, List.count_cons, ih]
  | letter hc hd _ ih =>
    rw [List.count_cons_of_ne (hd.ne hquote), List.count_cons_of_ne (hc.ne hquote), ih]
  | letters hc hd he _ ih =>
    rw [List.count_cons_of_ne (hd.ne hquote), List.count_cons_of_ne (he.ne hquote),
      List.count_cons_of_ne (hc.ne hquote), ih]

/-- Whether a word follows the digits at the head of a text does not depend on letter case. -/
theorem startsWithWord_dropDigits_of_loweredTo (h : LoweredTo s t) :
    startsWithWord (t.dropWhile isDecimal) = startsWithWord (s.dropWhile isDecimal) := by
  have hword : ∀ {c : Char} {text : List Char}, IsLetter c →
      startsWithWord ((c :: text).dropWhile isDecimal) = true := by
    intro c text hc
    rw [List.dropWhile_cons_of_neg (by simp [hc.2]), startsWithWord_cons, hc.1]
  induction h with
  | nil => rfl
  | kept c _ ih =>
    rw [List.dropWhile_cons, List.dropWhile_cons]
    split
    · exact ih
    · rfl
  | letter hc hd _ _ => rw [hword hc, hword hd]
  | letters hc hd _ _ _ => rw [hword hc, hword hd]

/-- Whether a number begins in a text does not depend on letter case. -/
theorem NumberFree.of_loweredTo {inWord : Bool} (h : NumberFree inWord s)
    (hlowered : LoweredTo s t) : NumberFree inWord t := by
  have hletter : ∀ {inWord : Bool} {c : Char} {text : List Char}, IsLetter c →
      (NumberFree inWord (c :: text) ↔ NumberFree true text) := by
    intro inWord c text hc
    rw [NumberFree, hc.1, hc.2, and_iff_right]
    exact fun _ h => by cases h
  induction hlowered generalizing inWord with
  | nil => trivial
  | kept c rest ih =>
    refine ⟨fun hfree hc => ?_, ih h.2⟩
    rw [startsWithWord_dropDigits_of_loweredTo rest]
    exact h.1 hfree hc
  | letter hc hd _ ih => exact (hletter hd).mpr (ih ((hletter hc).mp h))
  | letters hc hd he _ ih => exact (hletter hd).mpr ((hletter he).mpr (ih ((hletter hc).mp h)))

/-- Where blanks stand does not depend on letter case. -/
theorem SingleBlanks.of_loweredTo {behindBlank : Bool} (h : SingleBlanks behindBlank s)
    (hlowered : LoweredTo s t) : SingleBlanks behindBlank t := by
  have hletter : ∀ {behindBlank : Bool} {c : Char} {text : List Char}, IsLetter c →
      (SingleBlanks behindBlank (c :: text) ↔ SingleBlanks false text) := by
    intro behindBlank c text hc
    rw [SingleBlanks, isBlank_of_isLetter hc, and_iff_right]
    exact fun h => by cases h
  induction hlowered generalizing behindBlank with
  | nil => trivial
  | kept c _ ih => exact ⟨h.1, ih h.2⟩
  | letter hc hd _ ih => exact (hletter hd).mpr (ih ((hletter hc).mp h))
  | letters hc hd he _ ih => exact (hletter hd).mpr ((hletter he).mpr (ih ((hletter hc).mp h)))

/-- Dropping blanks does not depend on letter case. -/
theorem loweredTo_dropBlanks (h : LoweredTo s t) : LoweredTo (dropBlanks s) (dropBlanks t) := by
  induction h with
  | nil => exact .nil
  | kept c rest ih =>
    rw [dropBlanks, dropBlanks, List.dropWhile_cons, List.dropWhile_cons]
    split
    · exact ih
    · exact .kept c rest
  | letter hc hd rest _ =>
    rw [dropBlanks_cons (isBlank_of_isLetter hc), dropBlanks_cons (isBlank_of_isLetter hd)]
    exact .letter hc hd rest
  | letters hc hd he rest _ =>
    rw [dropBlanks_cons (isBlank_of_isLetter hc), dropBlanks_cons (isBlank_of_isLetter hd)]
    exact .letters hc hd he rest

/-- A mark comes from the same mark. -/
theorem exists_of_loweredTo_mark {mark : Char} (h : LoweredTo s (mark :: t))
    (hmark : isWord mark = false) : ∃ s', s = mark :: s' ∧ LoweredTo s' t := by
  cases h with
  | kept _ rest => exact ⟨_, rfl, rest⟩
  | letter _ hd _ => exact absurd rfl (hd.ne hmark)
  | letters _ hd _ _ => exact absurd rfl (hd.ne hmark)

/-- A list of placeholders that closes in lower case closes in the text. -/
theorem ClosesList.of_loweredTo {behind : List Char} (h : ClosesList t behind)
    (hlowered : LoweredTo s t) : ∃ behind', ClosesList s behind' := by
  have hclosing : isWord ')' = false := by decide +kernel
  have hcomma : isWord ',' = false := by decide +kernel
  induction h generalizing s with
  | last h =>
    have hend := loweredTo_dropBlanks hlowered
    rw [h] at hend
    obtain ⟨behind', hs, -⟩ := exists_of_loweredTo_mark hend hclosing
    exact ⟨behind', .last hs⟩
  | more h hnext _ ih =>
    have hsecond := loweredTo_dropBlanks hlowered
    rw [h] at hsecond
    obtain ⟨rest', hs, hrest⟩ := exists_of_loweredTo_mark hsecond hcomma
    have hplace := loweredTo_dropBlanks hrest
    rw [hnext] at hplace
    obtain ⟨next', hs', hnext'⟩ := exists_of_loweredTo_mark hplace not_isWord_mark
    obtain ⟨behind', hclose⟩ := ih hnext'
    exact ⟨behind', .more hs hs' hclose⟩

/-- Whether a text has lists to replace does not depend on letter case. -/
theorem ListFree.of_loweredTo (h : ListFree s) (hlowered : LoweredTo s t) : ListFree t := by
  have hopen : isWord '(' = false := by decide +kernel
  induction hlowered with
  | nil => trivial
  | @kept s t c rest ih =>
    refine ⟨fun hc hsome => ?_, ih h.2⟩
    obtain ⟨found, hfound⟩ := Option.isSome_iff_exists.mp hsome
    obtain ⟨next, hnext, hclose⟩ := closePlaceholders_eq_some_iff.mp hfound
    have hplace := loweredTo_dropBlanks rest
    rw [hnext] at hplace
    obtain ⟨next', hs, hnext'⟩ := exists_of_loweredTo_mark hplace not_isWord_mark
    obtain ⟨found', hclose'⟩ := hclose.of_loweredTo hnext'
    obtain ⟨behind, rfl⟩ :=
      h.1 hc (by rw [closePlaceholders_eq_some_iff.mpr ⟨next', hs, hclose'⟩]; rfl)
    cases rest with
    | kept _ rest =>
      cases rest with
      | kept _ rest => exact ⟨_, rfl⟩
      | letter hc _ _ => exact absurd rfl (hc.ne (by decide +kernel))
      | letters hc _ _ _ => exact absurd rfl (hc.ne (by decide +kernel))
    | letter hc _ _ => exact absurd rfl (hc.ne not_isWord_mark)
    | letters hc _ _ _ => exact absurd rfl (hc.ne not_isWord_mark)
  | letter _ hd _ ih => exact ⟨fun hc => absurd hc (hd.ne hopen), ih h.2⟩
  | letters _ hd he _ ih =>
    exact ⟨fun hc => absurd hc (hd.ne hopen), fun hc => absurd hc (he.ne hopen), ih h.2⟩

/-- A settled text is settled in lower case. -/
theorem Settled.lowerCase (h : Settled text) : Settled (lowerCase text) where
  strings := (count_quote_of_loweredTo (loweredTo_lowerCase text)).trans_le h.strings
  numbers := h.numbers.of_loweredTo (loweredTo_lowerCase text)
  lists := h.lists.of_loweredTo (loweredTo_lowerCase text)
  blanks := h.blanks.of_loweredTo (loweredTo_lowerCase text)

/-- Normal forms are settled. -/
theorem settled_lowerCase_shape (text : List Char) : Settled (Text.lowerCase (shape text)) :=
  (settled_replace text).trimStatement.lowerCase

/-! ### Ends -/

/-- A text has no blanks at its ends. -/
structure Trimmed (text : List Char) : Prop where
  head : text.head?.any isBlank = false
  last : text.getLast?.any isBlank = false

/-- Nothing is dropped at the end exactly when the last character is to be kept. -/
theorem dropEnd_eq_self_iff {p : Char → Bool} : dropEnd p text = text
    ↔ text.getLast?.any p = false := by
  have hself : dropEnd p text = text ↔ ∀ hne : text ≠ [], ¬p (text.getLast hne) = true :=
    List.rdropWhile_eq_self_iff
  rw [hself]
  cases hlast : text.getLast? with
  | none => simp [List.getLast?_eq_none_iff.mp hlast]
  | some c =>
    have hne : text ≠ [] := by
      rintro rfl
      cases hlast
    rw [List.getLast?_eq_some_getLast hne, Option.some.injEq] at hlast
    simp [hne, hlast]

/-- A trimmed text has no blanks to trim. -/
theorem Trimmed.trimBlanks_eq (h : Trimmed text) : trimBlanks text = text := by
  have hdrop : dropBlanks text = text := by
    cases text with
    | nil => rfl
    | cons c rest => exact dropBlanks_cons h.head rest
  rw [trimBlanks, hdrop, dropEnd_eq_self_iff.mpr h.last]

/-- A trimmed statement has no blanks at its ends; it may still end with a separator. -/
theorem trimmed_trimStatement (text : List Char) : Trimmed (trimStatement text) where
  head := by
    have hbegins : trimStatement text <+: dropBlanks text :=
      (List.rdropWhile_prefix _ _).trans
        ((List.rdropWhile_prefix _ _).trans (List.rdropWhile_prefix _ _))
    have hfirst := List.head?_dropWhile_not isBlank text
    obtain ⟨rest, hrest⟩ := hbegins
    cases htrimmed : trimStatement text with
    | nil => rfl
    | cons c tail =>
      rw [← dropBlanks, ← hrest, htrimmed] at hfirst
      simpa using hfirst
  last := by
    have hagain : dropEnd isBlank (trimStatement text) = trimStatement text :=
      List.rdropWhile_idempotent _ _
    exact dropEnd_eq_self_iff.mp hagain

/-- The last character of a text is that of its tail, if there is one. -/
theorem any_getLast?_cons (p : Char → Bool) (c : Char) (text : List Char) :
    (c :: text).getLast?.any p = bif text.isEmpty then p c else text.getLast?.any p := by
  cases text <;> simp

/-- A trimmed text stays trimmed in lower case. -/
theorem Trimmed.of_loweredTo (h : Trimmed s) (hlowered : LoweredTo s t) : Trimmed t := by
  have hempty : ∀ {s t}, LoweredTo s t → t.isEmpty = s.isEmpty := by
    intro s t h
    cases h <;> rfl
  constructor
  · cases hlowered with
    | nil => rfl
    | kept c _ => exact h.head
    | letter _ hd _ => exact isBlank_of_isLetter hd
    | letters _ hd _ _ => exact isBlank_of_isLetter hd
  · rw [← h.last]
    clear h
    induction hlowered with
    | nil => rfl
    | kept c rest ih => rw [any_getLast?_cons, any_getLast?_cons, hempty rest, ih]
    | letter hc hd rest ih =>
      rw [any_getLast?_cons, any_getLast?_cons, hempty rest, ih, isBlank_of_isLetter hc,
        isBlank_of_isLetter hd]
    | letters hc hd he rest ih =>
      rw [any_getLast?_cons, any_getLast?_cons, any_getLast?_cons, hempty rest, ih,
        isBlank_of_isLetter hc, isBlank_of_isLetter he]
      rfl

/-! ### The whole -/

/-- The shape of a normal form is what trimming leaves of it. -/
theorem shape_lowerCase_shape (text : List Char) :
    shape (lowerCase (shape text))
      = dropEnd isBlank (dropEnd (· == ';') (lowerCase (shape text))) := by
  have htrimmed := (trimmed_trimStatement _).of_loweredTo (loweredTo_lowerCase (shape text))
  rw [(settled_lowerCase_shape text).shape_eq, trimStatement, htrimmed.trimBlanks_eq]

/-- Normalizing a normal form takes the semicolons from its end, and the blanks before them, and
does nothing else. So the normal form is its own normal form exactly if it does not end in a
semicolon. -/
theorem normalize_normalize (sql : String) :
    normalize (normalize sql)
      = String.ofList (dropEnd isBlank (dropEnd (· == ';') (normalize sql).toList))
      ∧ (normalize (normalize sql) = normalize sql
        ↔ (normalize sql).toList.getLast? ≠ some ';') := by
  have hform : ∀ text : List Char, (normalize (String.ofList text)).toList
      = lowerCase (shape text) := by
    intro text
    rw [normalize, toLowerCase, String.toList_ofList, String.toList_ofList, String.toList_ofList]
  have htext : (normalize sql).toList = lowerCase (shape sql.toList) := by
    rw [← hform, String.ofList_toList]
  have hbegins : dropEnd isBlank (dropEnd (· == ';') (normalize sql).toList)
      <+: (normalize sql).toList :=
    (List.rdropWhile_prefix _ _).trans (List.rdropWhile_prefix _ _)
  -- The second time there is nothing to replace and nothing to write in lower case: only the ends
  -- are trimmed once more.
  have hagain : (normalize (normalize sql)).toList
      = dropEnd isBlank (dropEnd (· == ';') (normalize sql).toList) := by
    have hlowered : ∀ c ∈ (normalize sql).toList, IsLowered c := by
      rw [htext]
      exact isLowered_of_mem_lowerCase
    have htwice := hform (normalize sql).toList
    rw [String.ofList_toList] at htwice
    rw [htwice, htext, shape_lowerCase_shape, ← htext]
    exact lowerCase_of_isLowered fun c hc => hlowered c (hbegins.subset hc)
  -- Blanks at the ends are gone after the first time, so only a separator can be left.
  have htrimmed : Trimmed (normalize sql).toList :=
    htext ▸ (trimmed_trimStatement _).of_loweredTo (loweredTo_lowerCase _)
  refine ⟨by rw [← hagain, String.ofList_toList], ?_⟩
  rw [← String.toList_inj, hagain]
  constructor
  · intro hsame hlast
    have hall : dropEnd (· == ';') (normalize sql).toList = (normalize sql).toList := by
      refine (List.rdropWhile_prefix _ _).eq_of_length_le ?_
      conv_lhs => rw [← hsame]
      exact (List.rdropWhile_prefix _ _).length_le
    rw [dropEnd_eq_self_iff, hlast] at hall
    cases hall
  · intro hlast
    have hall : dropEnd (· == ';') (normalize sql).toList = (normalize sql).toList := by
      rw [dropEnd_eq_self_iff]
      cases hend : (normalize sql).toList.getLast? with
      | none => rfl
      | some c =>
        refine beq_false_of_ne ?_
        rintro rfl
        exact hlast hend
    rw [hall, dropEnd_eq_self_iff.mpr htrimmed.last]

/-- Separators with a blank between them are not all trimmed at once. -/
theorem normalize_semicolons_apart : normalize (normalize "SELECT 1; ;")
    ≠ normalize "SELECT 1; ;" := by
  decide +kernel

end QueryLint.Fingerprint
