import QueryLint.Proofs.Fingerprint.Replacements
import QueryLint.Registry.Engine

/-!
# Statements with other literals

A template is a statement with holes, each for one literal or for a list of literals in parentheses.
All fillings of a template have one shape and so one fingerprint, if its texts have no quotes, two
holes never touch, and nothing beside the hole of a literal could make one number or one word with
it.

The literals are marked first (`marked`), whatever they are (`mark_literal`, `mark_listing`). What
is left of a filled list are marks in parentheses, and all of them collapse to one
(`replaceLists_marks`).
-/

namespace QueryLint.Fingerprint

open QueryLint.Text

/-! ### Templates and what fills them -/

/-- A literal as it is written: a string with each quote in it doubled, or a number without a
sign. -/
inductive IsLiteral : List Char → Prop
  | string (content : List Char) : IsLiteral ('\'' :: (doubled content ++ ['\'']))
  | integer {digits : List Char} (hne : digits ≠ []) (hdigits : ∀ c ∈ digits, isDecimal c = true) :
      IsLiteral digits
  | fraction {digits decimals : List Char} (hne : digits ≠ [])
      (hdigits : ∀ c ∈ digits, isDecimal c = true) (hne' : decimals ≠ [])
      (hdecimals : ∀ c ∈ decimals, isDecimal c = true) : IsLiteral (digits ++ '.' :: decimals)

/-- A list as it is written, from behind the opening parenthesis through the closing one: at least
one member, commas between them and any blanks around each. -/
inductive Listing (IsMember : List Char → Prop) : List Char → Prop
  | last {before member after : List Char} (hbefore : ∀ c ∈ before, isBlank c = true)
      (hmember : IsMember member) (hafter : ∀ c ∈ after, isBlank c = true) :
      Listing IsMember (before ++ (member ++ (after ++ [')'])))
  | more {before member after rest : List Char} (hbefore : ∀ c ∈ before, isBlank c = true)
      (hmember : IsMember member) (hafter : ∀ c ∈ after, isBlank c = true)
      (hrest : Listing IsMember rest) :
      Listing IsMember (before ++ (member ++ (after ++ ',' :: rest)))

/-- What a hole of a template stands for. -/
inductive Hole where
  | literal
  | list
  deriving Repr, DecidableEq

/-- What may stand in a hole. -/
inductive Hole.Admits : Hole → List Char → Prop
  | literal {text : List Char} (h : IsLiteral text) : Hole.literal.Admits text
  | list {text : List Char} (h : Listing IsLiteral text) : Hole.list.Admits ('(' :: text)

/-- A statement with holes. -/
inductive Template where
  | done (text : List Char)
  | hole (text : List Char) (kind : Hole) (rest : Template)
  deriving Repr, DecidableEq

namespace Template

/-- A statement that a template becomes when its holes are filled. -/
inductive Fills : Template → List Char → Prop
  | done (text : List Char) : Fills (.done text) text
  | hole {text filling filled : List Char} {kind : Hole} {rest : Template}
      (hfilling : kind.Admits filling) (hrest : Fills rest filled) :
      Fills (.hole text kind rest) (text ++ (filling ++ filled))

/-- The text before the first hole. -/
def lead : Template → List Char
  | .done text => text
  | .hole text _ _ => text

/-- Whether nothing stands before the first hole. -/
def StartsWithHole : Template → Prop
  | .done _ => False
  | .hole text _ _ => text = []

/-- The texts are free of quotes, consecutive holes do not touch, and only delimiters or the ends of
the statement stand beside the hole of a literal. -/
def WellFormed : Template → Prop
  | .done text => '\'' ∉ text
  | .hole text kind rest =>
    '\'' ∉ text ∧ ¬rest.StartsWithHole
      ∧ (kind = .literal → (∀ c ∈ text.getLast?, Delimits c) ∧ ∀ c ∈ rest.lead.head?, Delimits c)
      ∧ rest.WellFormed

instance : DecidablePred StartsWithHole
  | .done _ => inferInstanceAs (Decidable False)
  | .hole text _ _ => inferInstanceAs (Decidable (text = []))

instance decidableWellFormed : DecidablePred WellFormed
  | .done text => inferInstanceAs (Decidable ('\'' ∉ text))
  | .hole text kind rest =>
    have : Decidable rest.WellFormed := decidableWellFormed rest
    -- Characters are finitely many, and no instance should go through all of them.
    have : Decidable (∀ c ∈ text.getLast?, Delimits c) := Option.decidableForallMem _
    have : Decidable (∀ c ∈ rest.lead.head?, Delimits c) := Option.decidableForallMem _
    inferInstanceAs (Decidable ('\'' ∉ text ∧ ¬rest.StartsWithHole
      ∧ (kind = .literal → (∀ c ∈ text.getLast?, Delimits c) ∧ ∀ c ∈ rest.lead.head?, Delimits c)
      ∧ rest.WellFormed))

/-- A template without its numbers and with marks in place of its holes. -/
def marked : Template → List Char
  | .done text => replaceNumbers false text
  | .hole text .literal rest => replaceNumbers false text ++ '?' :: rest.marked
  | .hole text .list rest => replaceNumbers false text ++ '(' :: '?' :: ')' :: rest.marked

end Template

/-! ### Marks in place of literals -/

/-- A text with marks in place of its strings and numbers. -/
def mark (text : List Char) : List Char := replaceNumbers false (replaceStrings text)

/-- A digit is no quote. -/
theorem isDecimal_ne_quote {c : Char} (h : isDecimal c = true) : c ≠ '\'' := by
  rintro rfl
  revert h
  decide +kernel

/-- A blank is no quote. -/
theorem isBlank_ne_quote {c : Char} (h : isBlank c = true) : c ≠ '\'' := by
  rintro rfl
  cases h

/-- A text that starts with a delimiter still does so when its strings are replaced. -/
theorem delimits_head_replaceStrings {text : List Char} (h : ∀ c ∈ text.head?, Delimits c) :
    ∀ c ∈ (replaceStrings text).head?, Delimits c := by
  cases text with
  | nil => simp [replaceStrings]
  | cons c text =>
    rw [replaceStrings]
    intro d hd
    split at hd
    · split at hd
      · obtain rfl : '?' = d := Option.some.inj hd
        decide +kernel
      · exact h d hd
    · exact h d hd

/-- A text without quotes is marked on its own, if no number reaches over its end. -/
theorem mark_append {text rest : List Char} (hquote : '\'' ∉ text)
    (h : (∀ c ∈ text.getLast?, Delimits c) ∨ ∀ c ∈ rest.head?, Delimits c) :
    mark (text ++ rest) = replaceNumbers false text ++ mark rest := by
  rw [mark, replaceStrings_append hquote]
  rcases h with hlast | hhead
  · have hapart : text ≠ [] → Apart text (replaceStrings rest) := fun hne =>
      .inl ⟨text.getLast hne, List.getLast?_eq_some_getLast hne,
        hlast _ (List.getLast?_eq_some_getLast hne)⟩
    have hfree : wordBehind false text = false := by
      cases hend : text.getLast? with
      | none => rw [wordBehind, hend]; rfl
      | some c => rw [wordBehind, hend]; exact (hlast c hend).1
    rw [replaceNumbers_append false hapart, hfree, mark]
  · have hbehind := delimits_head_replaceStrings hhead
    rw [replaceNumbers_append false fun _ => .inr hbehind, replaceNumbers_of_delimits_head hbehind,
      mark]

/-- A delimiter stays as it is. -/
theorem mark_delimiter {c : Char} (hc : Delimits c) (hquote : c ≠ '\'') (text : List Char) :
    mark (c :: text) = c :: mark text := by
  rw [mark, replaceStrings_cons_of_ne hquote, replaceNumbers_delimiter hc, mark]

/-- Blanks stay as they are. -/
theorem mark_blanks {before : List Char} (h : ∀ c ∈ before, isBlank c = true) (text : List Char) :
    mark (before ++ text) = before ++ mark text := by
  induction before with
  | nil => rfl
  | cons c before ih =>
    obtain ⟨hc, hbefore⟩ := List.forall_mem_cons.mp h
    rw [List.cons_append, mark_delimiter (delimits_of_isBlank hc) (isBlank_ne_quote hc), ih hbefore,
      List.cons_append]

/-- All digits of an integer belong to it. -/
theorem closeNumber_integer {digits : List Char} (hdigits : ∀ c ∈ digits, isDecimal c = true) :
    closeNumber digits = some [] := by
  have hdrop : digits.dropWhile isDecimal = [] := List.dropWhile_eq_nil_iff.mpr hdigits
  rw [closeNumber_of_no_point (by simp [hdrop]), hdrop]
  rfl

/-- All digits behind the point of a fraction belong to it. -/
theorem closeNumber_fraction {digits decimals : List Char}
    (hdigits : ∀ c ∈ digits, isDecimal c = true) (hne : decimals ≠ [])
    (hdecimals : ∀ c ∈ decimals, isDecimal c = true) :
    closeNumber (digits ++ '.' :: decimals) = some [] := by
  have hpoint : isDecimal '.' = false := by decide +kernel
  have hdrop : (digits ++ '.' :: decimals).dropWhile isDecimal = '.' :: decimals := by
    rw [List.dropWhile_append, List.dropWhile_eq_nil_iff.mpr hdigits]
    have hkept : ('.' :: decimals).dropWhile isDecimal = '.' :: decimals :=
      List.dropWhile_cons_of_neg (by simp [hpoint])
    exact hkept
  have hdrop' : decimals.dropWhile isDecimal = [] := List.dropWhile_eq_nil_iff.mpr hdecimals
  have hlength : 0 < decimals.length := List.length_pos_iff.mpr hne
  rw [closeNumber_of_point hdrop, hdrop']
  simp [startsWithWord, hlength]

/-- A number becomes a mark, if a delimiter follows it or nothing does. -/
theorem mark_number {number rest : List Char} (hhead : ∃ c ∈ number.head?, isDecimal c = true)
    (hquote : '\'' ∉ number) (hclose : closeNumber number = some [])
    (hrest : ∀ c ∈ rest.head?, Delimits c) : mark (number ++ rest) = '?' :: mark rest := by
  have hbehind := delimits_head_replaceStrings hrest
  have hend : closeNumber (number ++ replaceStrings rest) = some (replaceStrings rest) := by
    rw [closeNumber_append (.inr hbehind), hclose]
    rfl
  obtain ⟨c, hc, hdecimal⟩ := hhead
  obtain ⟨digits, rfl⟩ := List.head?_eq_some_iff.mp hc
  rw [mark, replaceStrings_append hquote]
  rw [List.cons_append] at hend ⊢
  rw [replaceNumbers_of_close hdecimal hend, replaceNumbers_of_delimits_head hbehind, mark]

/-- A literal becomes a mark, if a delimiter other than a quote follows it or nothing does. -/
theorem mark_literal {literal rest : List Char} (h : IsLiteral literal)
    (hrest : ∀ c ∈ rest.head?, Delimits c ∧ c ≠ '\'') : mark (literal ++ rest)
      = '?' :: mark rest := by
  have hdelimits : ∀ c ∈ rest.head?, Delimits c := fun c hc => (hrest c hc).1
  cases h with
  | string content =>
    have hquote : rest.head? ≠ some '\'' := fun heq => (hrest _ heq).2 rfl
    have hmark : Delimits '?' := by decide +kernel
    rw [List.cons_append, List.append_assoc, List.singleton_append, mark,
      replaceStrings_string content hquote, replaceNumbers_delimiter hmark, mark]
  | integer hne hdigits =>
    refine mark_number ⟨_, List.head?_eq_some_head hne, hdigits _ (List.head_mem hne)⟩ ?_
      (closeNumber_integer hdigits) hdelimits
    exact fun hmem => isDecimal_ne_quote (hdigits _ hmem) rfl
  | @fraction digits decimals hne hdigits hne' hdecimals =>
    refine mark_number ⟨digits.head hne, ?_, hdigits _ (List.head_mem hne)⟩ ?_
      (closeNumber_fraction hdigits hne' hdecimals) hdelimits
    · rw [List.head?_append, List.head?_eq_some_head hne]
      rfl
    · intro hmem
      rcases List.mem_append.mp hmem with hmem | hmem
      · exact isDecimal_ne_quote (hdigits _ hmem) rfl
      · rcases List.mem_cons.mp hmem with heq | hmem
        · cases heq
        · exact isDecimal_ne_quote (hdecimals _ hmem) rfl

/-- A literal with blanks around it becomes a mark with these blanks around it. -/
theorem mark_member {before literal after : List Char} (hbefore : ∀ c ∈ before, isBlank c = true)
    (h : IsLiteral literal) (hafter : ∀ c ∈ after, isBlank c = true) {c : Char} (hc : Delimits c)
    (hquote : c ≠ '\'') (rest : List Char) :
    mark (before ++ (literal ++ (after ++ c :: rest)))
      = before ++ '?' :: (after ++ c :: mark rest) := by
  have hnext : ∀ d ∈ (after ++ c :: rest).head?, Delimits d ∧ d ≠ '\'' := by
    cases after with
    | nil =>
      intro d hd
      obtain rfl : c = d := Option.some.inj hd
      exact ⟨hc, hquote⟩
    | cons blank after =>
      intro d hd
      obtain rfl : blank = d := Option.some.inj hd
      have hblank := hafter blank List.mem_cons_self
      exact ⟨delimits_of_isBlank hblank, isBlank_ne_quote hblank⟩
  rw [mark_blanks hbefore, mark_literal h hnext, mark_blanks hafter, mark_delimiter hc hquote]

/-- A list of literals becomes a list of marks. -/
theorem mark_listing {text : List Char} (h : Listing IsLiteral text) :
    ∃ marks, Listing (· = ['?']) marks ∧ ∀ rest, mark (text ++ rest) = marks ++ mark rest := by
  induction h with
  | @last before member after hbefore hmember hafter =>
    refine ⟨_, .last hbefore rfl hafter, fun rest => ?_⟩
    have hclosing : Delimits ')' := by decide +kernel
    have hmark := mark_member hbefore hmember hafter hclosing (by decide) rest
    simpa only [List.append_assoc, List.cons_append, List.nil_append] using hmark
  | @more before member after text hbefore hmember hafter _ ih =>
    obtain ⟨marks, hmarks, hrest⟩ := ih
    refine ⟨_, .more hbefore rfl hafter hmarks, fun rest => ?_⟩
    have hcomma : Delimits ',' := by decide +kernel
    have hmark := mark_member hbefore hmember hafter hcomma (by decide) (text ++ rest)
    rw [hrest] at hmark
    simpa only [List.append_assoc, List.cons_append, List.nil_append] using hmark

/-! ### Lists of marks -/

/-- A list of marks is found whole. -/
theorem closePlaceholders_marks {marks : List Char} (h : Listing (· = ['?']) marks)
    (rest : List Char) : closePlaceholders (marks ++ rest) = some rest := by
  rw [closePlaceholders_eq_some_iff]
  induction h with
  | @last before _ after hbefore hmember hafter =>
    subst hmember
    refine ⟨after ++ ')' :: rest, ?_, .last ?_⟩
    · simp only [List.append_assoc, List.cons_append, List.nil_append]
      rw [dropBlanks_append_of_blank hbefore, dropBlanks_cons (by decide)]
    · rw [dropBlanks_append_of_blank hafter, dropBlanks_cons (by decide)]
  | @more before _ after text hbefore hmember hafter _ ih =>
    subst hmember
    obtain ⟨behind, hnext, hclose⟩ := ih
    refine ⟨after ++ ',' :: (text ++ rest), ?_, .more ?_ hnext hclose⟩
    · simp only [List.append_assoc, List.cons_append, List.nil_append]
      rw [dropBlanks_append_of_blank hbefore, dropBlanks_cons (by decide)]
    · rw [dropBlanks_append_of_blank hafter, dropBlanks_cons (by decide)]

/-- A list of marks becomes a single mark, and the texts on both sides of it do not meet. -/
theorem replaceLists_marks {marks : List Char} (h : Listing (· = ['?']) marks)
    (before rest : List Char) :
    replaceLists (before ++ '(' :: (marks ++ rest))
      = replaceLists before ++ '(' :: '?' :: ')' :: replaceLists rest := by
  rw [replaceLists_append_open, replaceLists_of_close (closePlaceholders_marks h rest)]

/-- One placeholder in brackets is a list. -/
theorem listing_mark : Listing (· = ['?']) ['?', ')'] :=
  @Listing.last (· = ['?']) [] ['?'] [] (by simp) rfl (by simp)

/-! ### Filled templates -/

namespace Template

/-- A filled template starts with the text before its first hole, if there is one. -/
theorem Fills.head_eq {t : Template} {text : List Char} (h : t.Fills text)
    (hstart : ¬t.StartsWithHole) : text.head? = t.lead.head? := by
  cases h with
  | done text => rfl
  | @hole text filling filled _ _ _ _ =>
    cases text with
    | nil => exact absurd rfl hstart
    | cons c text => rfl

/-- The lead of a well-formed template has no quotes. -/
theorem WellFormed.quote_not_mem_lead {t : Template} (h : t.WellFormed) : '\'' ∉ t.lead := by
  cases t with
  | done text => exact h
  | hole text kind rest => exact h.1

/-- Once literals and lists are replaced, a filled template tells nothing of its fillings, whatever
text without them stands before it. -/
theorem Fills.replaceLists_mark {t : Template} {text : List Char} (h : t.Fills text)
    (ht : t.WellFormed) (before : List Char) :
    replaceLists (before ++ mark text) = replaceLists (before ++ t.marked) := by
  -- By the template: what stands before is already replaced, and a hole becomes one placeholder.
  induction h generalizing before with
  | done text =>
    have hmark : mark text = replaceNumbers false text := by
      rw [mark, ← List.append_nil text, replaceStrings_append ht, replaceStrings]
    rw [hmark, marked]
  | @hole text filling filled kind rest hfilling hrest ih =>
    obtain ⟨hquote, hstart, hborders, hwell⟩ := ht
    cases hfilling with
    | literal hliteral =>
      obtain ⟨hlast, hhead⟩ := hborders rfl
      have hnext : ∀ c ∈ filled.head?, Delimits c ∧ c ≠ '\'' := by
        rw [hrest.head_eq hstart]
        intro c hc
        refine ⟨hhead c hc, ?_⟩
        rintro rfl
        exact hwell.quote_not_mem_lead (List.mem_of_head? hc)
      have hwhole := ih hwell (before ++ replaceNumbers false text ++ ['?'])
      rw [mark_append hquote (.inl hlast), mark_literal hliteral hnext, marked]
      simpa only [List.append_assoc, List.singleton_append] using hwhole
    | @list listing hlisting =>
      obtain ⟨marks, hmarks, hmark⟩ := mark_listing hlisting
      have hopen : Delimits '(' := by decide +kernel
      have hhead : ∀ c ∈ ('(' :: listing ++ filled).head?, Delimits c := by
        intro c hc
        obtain rfl : '(' = c := Option.some.inj hc
        exact hopen
      have hrest := ih hwell []
      rw [List.nil_append, List.nil_append] at hrest
      have hall := replaceLists_marks hmarks (before ++ replaceNumbers false text) (mark filled)
      have hone := replaceLists_marks listing_mark (before ++ replaceNumbers false text) rest.marked
      rw [mark_append hquote (.inr hhead), List.cons_append, mark_delimiter hopen (by decide),
        hmark, ← List.append_assoc, hall, hrest, marked, ← List.append_assoc]
      exact hone.symm

/-- The shape of a filled template is told by the template. -/
theorem Fills.shape_eq {t : Template} {text : List Char} (h : t.Fills text) (ht : t.WellFormed) :
    shape text = trimStatement (replaceBlanks false (replaceLists t.marked)) := by
  have hlists := h.replaceLists_mark ht []
  rw [List.nil_append, List.nil_append, mark] at hlists
  rw [shape, hlists]

/-- Two statements that differ only in literals, and in how many of them stand in lists, are the
same in normal form and have the same fingerprint. -/
theorem normalize_eq_of_fills {t : Template} (ht : t.WellFormed) {a b : String}
    (ha : t.Fills a.toList) (hb : t.Fills b.toList) :
    normalize a = normalize b ∧ ofSql a = ofSql b := by
  have hnormal : normalize a = normalize b := by
    rw [normalize, normalize, ha.shape_eq ht, hb.shape_eq ht]
  exact ⟨hnormal, by rw [ofSql, ofSql, hnormal]⟩

/-- Rows looked up by two columns, one of them with a list. -/
def lookup : Template :=
  .hole "SELECT * FROM t WHERE a IN ".toList .list
    (.hole " AND b > ".toList .literal (.done []))

/-- A lookup with other literals has the same normal form and the same fingerprint. -/
theorem normalize_lookup :
    normalize "SELECT * FROM t WHERE a IN (7, 'it''s' ,2.5) AND b > 10.25"
        = normalize "SELECT * FROM t WHERE a IN ( '' ) AND b > 3"
      ∧ ofSql "SELECT * FROM t WHERE a IN (7, 'it''s' ,2.5) AND b > 10.25"
        = ofSql "SELECT * FROM t WHERE a IN ( '' ) AND b > 3" := by
  have hnone : ∀ c ∈ ([] : List Char), isBlank c = true := List.forall_mem_nil _
  have hblank : ∀ c ∈ [' '], isBlank c = true := List.all_eq_true.mp (by decide)
  have hdigits : ∀ digits : List Char, digits.all isDecimal = true → ∀ c ∈ digits,
      isDecimal c = true :=
    fun _ => List.all_eq_true.mp
  have hseven : IsLiteral "7".toList := .integer (by decide) (hdigits _ (by decide +kernel))
  have hthree : IsLiteral "3".toList := .integer (by decide) (hdigits _ (by decide +kernel))
  have hhalf : IsLiteral "2.5".toList :=
    @IsLiteral.fraction ['2'] ['5'] (by decide) (hdigits _ (by decide +kernel)) (by decide)
      (hdigits _ (by decide +kernel))
  have hquarter : IsLiteral "10.25".toList :=
    @IsLiteral.fraction ['1', '0'] ['2', '5'] (by decide) (hdigits _ (by decide +kernel))
      (by decide)
      (hdigits _ (by decide +kernel))
  have hthird : Listing IsLiteral "2.5)".toList := .last hnone hhalf hnone
  have hsecond : Listing IsLiteral " 'it''s' ,2.5)".toList :=
    .more hblank (.string "it's".toList) hblank hthird
  have hfirst : Listing IsLiteral "7, 'it''s' ,2.5)".toList := .more hnone hseven hnone hsecond
  have honly : Listing IsLiteral " '' )".toList := .last hblank (IsLiteral.string []) hblank
  have hwell : lookup.WellFormed := by decide +kernel
  exact normalize_eq_of_fills hwell
    (.hole (.list hfirst) (.hole (.literal hquarter) (.done _)))
    (.hole (.list honly) (.hole (.literal hthree) (.done _)))

end Template

/-! ### Quotes that open no string -/

/-- What stands between two quotes is not part of the shape, even where the first of them opens no
string. -/
theorem shape_quoted {before rest : List Char} (hbefore : '\'' ∉ before)
    (hrest : rest.head? ≠ some '\'') (content other : List Char) :
    shape (before ++ '\'' :: (doubled content ++ '\'' :: rest))
      = shape (before ++ '\'' :: (doubled other ++ '\'' :: rest)) := by
  have hstrings : ∀ inside, replaceStrings (before ++ '\'' :: (doubled inside ++ '\'' :: rest))
      = before ++ '?' :: replaceStrings rest := by
    intro inside
    rw [replaceStrings_append hbefore, replaceStrings_string inside hrest]
  rw [shape, shape, hstrings, hstrings]

-- The quote in the name of a column hides a pattern match from a statement that is seen later.
example :
    let engine := Engine.ofConfig Config.default
    let first := "SELECT \"o'clock\" FROM t WHERE name = 'x'"
    let later := "SELECT \"o'clock\" FROM t WHERE name LIKE 'x'"
    shape first.toList = shape later.toList
      ∧ (engine.findings .default first).length = 0
      ∧ (engine.findings .default later).length = 1 := by
  decide +kernel

end QueryLint.Fingerprint
