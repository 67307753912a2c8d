import QueryLint.Proofs.Report

/-!
# Reports without their colours

An escape sequence begins with an escape character and a bracket; parameters and marks may follow,
and a last character ends it. `Text.deleteEscapes` deletes all escape sequences of a text, whatever
they ask for.

What has a look is written between two escape sequences. Where the text itself has no escape
character, the text is between them as it stands, so deleting the sequences takes the look away and
nothing else (`Span.deleteEscapes_render`). Both kinds of reports come to a list of parts, with
colours and without (`IssueReport.toText_eq_render`, `SignalsReport.toText_eq_render`), and so a
coloured report without its escape sequences is the report without colours
(`deleteEscapes_of_colored_report`).
-/

namespace QueryLint

/-! ### Escape sequences -/

namespace Text

/-- The character with which an escape sequence begins. -/
def escape : Char := '\x1b'

/-- The characters that an escape sequence may have between its bracket and its last character are
parameters, digits and separators such as the semicolon. -/
def isParameter (c : Char) : Bool := '0' ≤ c && c ≤ '?'

/-- Marks may stand behind the parameters of an escape sequence. -/
def isMark (c : Char) : Bool := ' ' ≤ c && c ≤ '/'

/-- The characters that may end an escape sequence. -/
def endsEscape (c : Char) : Bool := '@' ≤ c && c ≤ '~'

/-- What stands behind the escape sequence with which a text begins, if it begins with one. -/
def behindEscape? : List Char → Option (List Char)
  | '\x1b' :: '[' :: rest =>
    match (rest.dropWhile isParameter).dropWhile isMark with
    | last :: behind => if endsEscape last then some behind else none
    | [] => none
  | _ => none

variable {c : Char} {text rest behind : List Char}

/-- What stands behind an escape is shorter than the text, so that deleting them ends. -/
theorem length_lt_of_behindEscape? (h : behindEscape? text = some behind) :
    behind.length < text.length := by
  unfold behindEscape? at h
  split at h
  · next rest =>
    have hmarks := (List.dropWhile_sublist (l := rest.dropWhile isParameter) isMark).length_le
    have hparameters := (List.dropWhile_sublist (l := rest) isParameter).length_le
    split at h
    · next last behind hlast =>
      rw [hlast, List.length_cons] at hmarks
      split at h
      · cases h
        simp only [List.length_cons]
        omega
      · cases h
    · cases h
  · cases h

/-- A text without its escape sequences. -/
def deleteEscapes (text : List Char) : List Char :=
  match _h : behindEscape? text with
  | some behind => deleteEscapes behind
  | none =>
    match text with
    | [] => []
    | c :: rest => c :: deleteEscapes rest
termination_by text.length
decreasing_by
  · exact length_lt_of_behindEscape? _h
  · exact Nat.lt_succ_self _

/-- An escape begins with its own character. -/
theorem behindEscape?_cons_of_ne (hc : c ≠ escape) : behindEscape? (c :: rest) = none := by
  unfold behindEscape?
  split
  · next heq =>
    cases heq
    exact absurd rfl hc
  · rfl

@[simp] theorem deleteEscapes_nil : deleteEscapes [] = [] := by
  rw [deleteEscapes]
  rfl

/-- An escape sequence at the start is deleted. -/
theorem deleteEscapes_of_behindEscape? (h : behindEscape? text = some behind) :
    deleteEscapes text = deleteEscapes behind := by
  rw [deleteEscapes]
  split
  · next found hfound =>
    rw [h] at hfound
    cases hfound
    rfl
  · next hnone =>
    rw [h] at hnone
    cases hnone

/-- A character that begins no escape stays. -/
theorem deleteEscapes_cons_of_ne (hc : c ≠ escape) :
    deleteEscapes (c :: rest) = c :: deleteEscapes rest := by
  rw [deleteEscapes]
  split
  · next behind hbehind =>
    rw [behindEscape?_cons_of_ne hc] at hbehind
    cases hbehind
  · rfl

/-- Where there is no escape character, nothing is deleted. -/
theorem deleteEscapes_append (h : escape ∉ text) (rest : List Char) :
    deleteEscapes (text ++ rest) = text ++ deleteEscapes rest := by
  induction text with
  | nil => rfl
  | cons c text ih =>
    rw [List.mem_cons, not_or] at h
    rw [List.cons_append, deleteEscapes_cons_of_ne (Ne.symm h.1), ih h.2, List.cons_append]

end Text

/-! ### Looks -/

namespace Ink

open Text (escape behindEscape? deleteEscapes)

variable {text : List Char}

/-- The escape that begins a colour is one. -/
theorem behindEscape?_start (ink : Ink) (rest : List Char) :
    behindEscape? (ink.start ++ rest) = some rest := by
  cases ink <;> rfl

/-- The escape that ends all colours is one. -/
theorem behindEscape?_reset (rest : List Char) : behindEscape? (reset ++ rest) = some rest := rfl

/-- A look starts anew nowhere in a text without escape characters. -/
theorem restart_eq_self (ink : Ink) (h : escape ∉ text) : ink.restart text = text := by
  induction text with
  | nil => rw [restart]
  | cons c rest ih =>
    rw [List.mem_cons, not_or] at h
    have hreset : reset.isPrefixOf (c :: rest) = false := by
      rw [Bool.eq_false_iff, Ne, List.isPrefixOf_iff_prefix]
      rintro ⟨behind, hbehind⟩
      exact h.1 (List.cons.inj hbehind).1
    rw [restart, hreset, if_neg (by decide), ih h.2]

/-- Without its escape sequences, a text with a look is the text. -/
theorem deleteEscapes_apply (ink : Ink) (h : escape ∉ text) (rest : List Char) :
    deleteEscapes ((ink.apply (String.ofList text)).toList ++ rest)
      = text ++ deleteEscapes rest := by
  rw [apply, String.toList_ofList, String.toList_ofList, restart_eq_self ink h, List.append_assoc,
    List.append_assoc]
  calc deleteEscapes (ink.start ++ (text ++ (reset ++ rest)))
      = deleteEscapes (text ++ (reset ++ rest)) :=
        Text.deleteEscapes_of_behindEscape? (behindEscape?_start ink _)
    _ = text ++ deleteEscapes (reset ++ rest) := Text.deleteEscapes_append h _
    _ = text ++ deleteEscapes rest :=
        congrArg _ (Text.deleteEscapes_of_behindEscape? (behindEscape?_reset rest))

end Ink

/-! ### Texts in parts -/

open Text (escape deleteEscapes)

/-- A text has no escape character. -/
def Escapeless (text : String) : Prop := escape ∉ text.toList

instance (text : String) : Decidable (Escapeless text) :=
  inferInstanceAs (Decidable (escape ∉ text.toList))

namespace Escapeless

/-- A text is free of escapes exactly when both of its halves are. -/
@[simp] theorem append_iff {a b : String} : Escapeless (a ++ b) ↔ Escapeless a ∧ Escapeless b := by
  rw [Escapeless, String.toList_append, List.mem_append, not_or]
  rfl

/-- A number has only digits. -/
@[simp] theorem toString_nat (n : Nat) : Escapeless (toString n) := by
  intro hmem
  rw [Nat.toString_eq_repr, Nat.toList_repr] at hmem
  have hdigit : escape.isDigit = true := Nat.isDigit_of_mem_toDigits (by decide) (by decide) hmem
  cases hdigit

/-- Joined texts are free of escapes if each of them is. -/
theorem join {texts : List String} (h : ∀ text ∈ texts, Escapeless text) :
    Escapeless (String.join texts) := by
  rw [Escapeless, String.toList_join, List.mem_flatMap]
  rintro ⟨text, htext, hmem⟩
  exact h text htext hmem

/-- Texts with something between them are free of escapes if all of these are. -/
theorem intercalate {between : String} {texts : List String} (hbetween : Escapeless between)
    (h : ∀ text ∈ texts, Escapeless text) : Escapeless (String.intercalate between texts) := by
  induction texts with
  | nil => exact List.not_mem_nil
  | cons text rest ih =>
    obtain ⟨htext, hrest⟩ := List.forall_mem_cons.mp h
    cases rest with
    | nil => simpa [String.intercalate_singleton] using htext
    | cons next rest =>
      rw [String.intercalate_cons_cons]
      exact append_iff.mpr ⟨append_iff.mpr ⟨htext, hbetween⟩, ih hrest⟩

end Escapeless

/-- A part of a text, with a look or without one. -/
structure Span where
  ink : Option Ink
  text : String

namespace Span

/-- A part without a look. -/
def plain (text : String) : Span := ⟨none, text⟩

/-- A part with a look. -/
def inked (ink : Ink) (text : String) : Span := ⟨some ink, text⟩

/-- A part as it is written, with its look if there are colours. -/
def render (colored : Bool) (span : Span) : String :=
  match colored, span.ink with
  | true, some ink => ink.apply span.text
  | _, _ => span.text

/-- A plain span is written as it is, in colour or not. -/
@[simp] theorem render_plain (colored : Bool) (text : String) :
    render colored (.plain text) = text := by
  cases colored <;> rfl

/-- A part with a look is written as it stands or, if there are colours, with its look. -/
@[simp] theorem render_inked (colored : Bool) (ink : Ink) (text : String) :
    render colored (.inked ink text) = if colored then ink.apply text else text := by
  cases colored <;> rfl

/-- Without its escape sequences, a part of a text is the part as it is written without colours. -/
theorem deleteEscapes_render {span : Span} (h : Escapeless span.text) (rest : List Char) :
    deleteEscapes ((span.render true).toList ++ rest)
      = (span.render false).toList ++ deleteEscapes rest := by
  obtain ⟨_ | ink, text⟩ := span
  · exact Text.deleteEscapes_append h rest
  · have happly := ink.deleteEscapes_apply h rest
    rw [String.ofList_toList] at happly
    exact happly

end Span

/-- A text in parts. -/
abbrev Inked := List Span

namespace Inked

variable {text : Inked}

/-- A text as it is written, with all looks if there are colours. -/
def render (colored : Bool) (text : Inked) : String :=
  String.join (text.map (Span.render colored))

@[simp] theorem render_nil (colored : Bool) : Inked.render colored [] = "" := rfl

/-- Spans are written one after the other. -/
@[simp] theorem render_cons (colored : Bool) (span : Span) (rest : Inked) :
    Inked.render colored (span :: rest) = span.render colored ++ Inked.render colored rest := by
  rw [render, List.map_cons, String.join_cons, render]

/-- Two lists of spans are written one after the other. -/
@[simp] theorem render_append (colored : Bool) (front back : Inked) :
    Inked.render colored (front ++ back)
      = Inked.render colored front ++ Inked.render colored back := by
  rw [render, List.map_append, String.join_append, render, render]

/-- Texts each of which comes to some parts come to all of these together. -/
theorem render_flatMap {α : Type} (colored : Bool) {parts : α → Inked} {shown : α → String}
    (h : ∀ item, shown item = Inked.render colored (parts item)) (items : List α) :
    String.join (items.map shown) = Inked.render colored (items.flatMap parts) := by
  induction items with
  | nil => rfl
  | cons item rest ih =>
    rw [List.map_cons, String.join_cons, ih, List.flatMap_cons, render_append, h]

/-- Without its escape sequences, a text with colours is the text without colours. -/
theorem deleteEscapes_render (h : ∀ span ∈ text, Escapeless span.text) :
    deleteEscapes (Inked.render true text).toList = (Inked.render false text).toList := by
  induction text with
  | nil => exact Text.deleteEscapes_nil
  | cons span rest ih =>
    obtain ⟨hspan, hrest⟩ := List.forall_mem_cons.mp h
    rw [render_cons, String.toList_append, Span.deleteEscapes_render hspan, ih hrest, render_cons,
      String.toList_append]

/-- What is written without colours has no escape characters but those of its parts. -/
theorem escapeless_render (h : ∀ span ∈ text, Escapeless span.text) :
    Escapeless (Inked.render false text) := by
  refine .join (List.forall_mem_map.mpr fun span hspan => ?_)
  exact h span hspan

/-- A part with a look has an escape sequence in colours. -/
theorem not_escapeless_render_of_inked {parts : Inked} {ink : Ink} {text : String}
    (h : .inked ink text ∈ parts) : ¬Escapeless (Inked.render true parts) := by
  have hstart : escape ∈ ink.start := by cases ink <;> decide
  have hpart : escape ∈ (Span.render true (.inked ink text)).toList := by
    rw [Span.render_inked, if_pos rfl, Ink.apply, String.toList_ofList]
    exact List.mem_append_left _ (List.mem_append_left _ hstart)
  intro hplain
  rw [Escapeless, render, String.toList_join] at hplain
  exact hplain (List.mem_flatMap.mpr ⟨_, List.mem_map_of_mem h, hpart⟩)

end Inked

/-! ### Reports -/

namespace IssueReport

/-- The texts that a report for people shows. -/
def shown (r : IssueReport) : List String :=
  r.dbPath :: r.issues.flatMap fun i => [i.type, i.table, i.desc, i.sql, i.detail, i.advice]

/-- The look of a severity. -/
def levelInk : Severity → Ink
  | .error => .boldRed
  | .warning => .boldYellow
  | .info => .blue

/-- The lines about an issue in parts, of which its level has a look. -/
def issueParts (i : Issue) : Inked :=
  let detail := if i.detail.isEmpty then "" else s!"  detail: {i.detail}\n"
  [.plain "[", .inked (levelInk i.level) i.level.label,
    .plain s!"] {i.type} on {i.table}: {i.desc}\n  sql: {i.sql}\n{detail}  advice: {i.advice}\n\n"]

/-- A report for people in parts. -/
def parts (r : IssueReport) : Inked :=
  [.inked .bold r.header, .plain "\n\n"] ++ r.issues.flatMap issueParts ++ [.plain r.summary]

/-- An issue is written as its spans, in colour or not. -/
theorem issueText_eq_render (colored : Bool) (i : Issue) :
    issueText colored i = Inked.render colored (issueParts i) := by
  have hlevel : (if colored then inkedLabel i.level else i.level.label)
      = Span.render colored (.inked (levelInk i.level) i.level.label) := by
    rw [Span.render_inked]
    cases i.level <;> rfl
  unfold issueText issueParts
  dsimp only
  rw [hlevel]
  simp only [Inked.render_cons, Inked.render_nil, Span.render_plain, String.append_empty,
    String.append_assoc]
  rfl

/-- A report for people is written in its parts, with colours and without. -/
theorem toText_eq_render (r : IssueReport) (colored : Bool) :
    r.toText colored = Inked.render colored r.parts := by
  rw [toText_eq, parts, Inked.render_append, Inked.render_append,
    ← Inked.render_flatMap colored (issueText_eq_render colored)]
  simp

/-- No span of an issue holds an escape if none of its texts does. -/
theorem escapeless_issueParts {i : Issue}
    (h : ∀ text ∈ [i.type, i.table, i.desc, i.sql, i.detail, i.advice], Escapeless text) :
    ∀ span ∈ issueParts i, Escapeless span.text := by
  simp only [List.forall_mem_cons, List.not_mem_nil, false_implies, implies_true, and_true] at h
  obtain ⟨htype, htable, hdesc, hsql, hdetail, hadvice⟩ := h
  have hlevel : Escapeless i.level.label := by cases i.level <;> decide
  have hlines : Escapeless (if i.detail.isEmpty then "" else s!"  detail: {i.detail}\n") := by
    split
    · decide
    · simp only [Escapeless.append_iff, and_assoc]
      exact ⟨by decide, hdetail, by decide⟩
  refine List.forall_mem_cons.mpr ⟨by decide, List.forall_mem_cons.mpr ⟨hlevel, ?_⟩⟩
  refine List.forall_mem_singleton.mpr ?_
  dsimp only [Span.plain]
  simp only [Escapeless.append_iff, and_assoc]
  exact ⟨by decide, htype, by decide, htable, by decide, hdesc, by decide, hsql, by decide, hlines,
    by decide, hadvice, by decide⟩

/-- The summary of a report holds no escape. -/
theorem escapeless_summary (r : IssueReport) : Escapeless r.summary := by
  unfold summary
  split
  · decide
  · simp only [Escapeless.append_iff, and_assoc]
    exact ⟨by decide, .toString_nat _, by decide, .toString_nat _, by decide, .toString_nat _,
      by decide⟩

/-- No span of a report of issues holds an escape if nothing that it shows does. -/
theorem escapeless_parts {r : IssueReport} (h : ∀ text ∈ r.shown, Escapeless text) :
    ∀ span ∈ r.parts, Escapeless span.text := by
  obtain ⟨hpath, hissues⟩ := List.forall_mem_cons.mp h
  have hheader : Escapeless r.header := by
    unfold header
    simp only [Escapeless.append_iff, and_assoc]
    exact ⟨by decide, hpath, by decide, .toString_nat _, by decide⟩
  have hparts : ∀ span ∈ r.issues.flatMap issueParts, Escapeless span.text := by
    intro span hspan
    obtain ⟨i, hi, hspan⟩ := List.mem_flatMap.mp hspan
    exact escapeless_issueParts
      (fun text htext => hissues text (List.mem_flatMap.mpr ⟨i, hi, htext⟩))
      span hspan
  simp only [parts, List.forall_mem_append, List.forall_mem_cons, List.not_mem_nil, false_implies,
    implies_true, and_true]
  exact ⟨⟨⟨hheader, by decide⟩, hparts⟩, r.escapeless_summary⟩

end IssueReport

namespace SignalsReport

/-- The lines about the query with some number in parts, of which the first one has a look. -/
def queryParts (number : Nat) (q : StatementSignals) : Inked :=
  let lines := String.join ((q.sql :: q.signals.lines).map (· ++ "\n"))
  [.inked .boldCyan s!"Statement #{number}:", .plain s!"\n{lines}\n"]

/-- A report for people in parts. -/
def parts (r : SignalsReport) : Inked :=
  .plain "Select trees:\n\n" :: (r.zipIdx 1).flatMap fun (q, number) => queryParts number q

/-- A statement's signals are written as their spans, in colour or not. -/
theorem queryText_eq_render (colored : Bool) (number : Nat) (q : StatementSignals) :
    queryText colored number q = Inked.render colored (queryParts number q) := by
  unfold queryText queryParts
  dsimp only
  simp only [Inked.render_cons, Inked.render_nil, Span.render_plain, Span.render_inked,
    String.append_empty, String.append_assoc]
  rfl

/-- A report for people is written in its parts, with colours and without. -/
theorem toText_eq_render (r : SignalsReport) (colored : Bool) :
    r.toText colored = Inked.render colored r.parts := by
  have hqueries := Inked.render_flatMap colored
    (fun item : StatementSignals × Nat => queryText_eq_render colored item.2 item.1) (r.zipIdx 1)
  rw [toText, parts, Inked.render_cons, Span.render_plain, ← hqueries]

/-- The texts that a report for people shows. -/
def shown (r : SignalsReport) : List String :=
  r.flatMap fun q => q.sql :: (q.signals.tables ++ q.signals.columnGroups.flatten)

/-- The names of the flags hold no escape. -/
theorem escapeless_flagNames (s : Signals) : ∀ name ∈ s.flagNames, Escapeless name := by
  have hall : ∀ flag ∈ [(s.hasUsingOrOn, "using/on"), (s.hasBitOperation, "bit operation"),
      (s.hasFuzzyMatching, "fuzzy matching"), (s.hasAnd, "and"), (s.hasOr, "or"), (s.hasIn, "in")],
      Escapeless flag.2 := by
    simp only [List.forall_mem_cons, List.not_mem_nil, false_implies, implies_true, and_true]
    decide
  intro name hname
  obtain ⟨flag, hflag, hset⟩ := List.mem_filterMap.mp hname
  dsimp only at hset
  split at hset
  · cases hset
    exact hall flag hflag
  · cases hset

/-- The lines of a statement's signals hold no escape if its tables and columns hold none. -/
theorem escapeless_lines {s : Signals} (htables : ∀ table ∈ s.tables, Escapeless table)
    (hcolumns : ∀ columns ∈ s.columnGroups, ∀ column ∈ columns, Escapeless column) :
    ∀ line ∈ s.lines, Escapeless line := by
  have hlisted : ∀ {front : String} {texts : List String}, Escapeless front →
      (∀ text ∈ texts, Escapeless text) → Escapeless (front ++ String.intercalate ", " texts) :=
    fun hfront htexts => Escapeless.append_iff.mpr ⟨hfront, .intercalate (by decide) htexts⟩
  unfold Signals.lines
  simp only [List.forall_mem_append, List.forall_mem_singleton, List.forall_mem_map]
  refine ⟨⟨⟨hlisted (by decide) htables, ?_⟩, fun columns hgroup => ?_⟩, ?_⟩
  · split
    · exact List.forall_mem_nil _
    · exact List.forall_mem_singleton.mpr (hlisted (by decide) (escapeless_flagNames s))
  · exact hlisted (by decide) (hcolumns columns hgroup)
  · split
    · exact List.forall_mem_singleton.mpr (by decide)
    · exact List.forall_mem_nil _

/-- No span of a report of signals holds an escape if nothing that it shows does. -/
theorem escapeless_parts {r : SignalsReport} (h : ∀ text ∈ r.shown, Escapeless text) :
    ∀ span ∈ r.parts, Escapeless span.text := by
  refine List.forall_mem_cons.mpr ⟨by decide, fun span hspan => ?_⟩
  obtain ⟨⟨q, number⟩, hq, hspan⟩ := List.mem_flatMap.mp hspan
  have hq : q ∈ r := List.fst_mem_of_mem_zipIdx hq
  have hshown : ∀ text ∈ q.sql :: (q.signals.tables ++ q.signals.columnGroups.flatten),
      Escapeless text :=
    fun text htext => h text (List.mem_flatMap.mpr ⟨q, hq, htext⟩)
  simp only [List.forall_mem_cons, List.forall_mem_append] at hshown
  obtain ⟨hsql, htables, hcolumns⟩ := hshown
  have hlines : ∀ line ∈ (q.sql :: q.signals.lines).map (· ++ "\n"), Escapeless line := by
    refine List.forall_mem_map.mpr fun line hline => Escapeless.append_iff.mpr ⟨?_, by decide⟩
    rcases List.mem_cons.mp hline with rfl | hline
    · exact hsql
    · exact escapeless_lines htables
        (fun columns hgroup column hcolumn =>
          hcolumns column (List.mem_flatten_of_mem hgroup hcolumn))
        line hline
  have hnumbered : ∀ span ∈ queryParts number q, Escapeless span.text := by
    refine List.forall_mem_cons.mpr ⟨?_, List.forall_mem_singleton.mpr ?_⟩
    · dsimp only [Span.inked]
      simp only [Escapeless.append_iff, and_assoc]
      exact ⟨by decide, .toString_nat _, by decide⟩
    · dsimp only [Span.plain]
      simp only [Escapeless.append_iff, and_assoc]
      exact ⟨by decide, .join hlines, by decide⟩
  exact hnumbered span hspan

end SignalsReport

/-- Without its escape sequences, a coloured report for people is the report without colours, if the
texts that it shows have no escape characters. A report without colours has none then, and a
coloured one has some unless it is about no query at all. -/
theorem deleteEscapes_of_colored_report :
    (∀ r : IssueReport, (∀ text ∈ r.shown, Escapeless text) →
      deleteEscapes (r.render .text true).toList = (r.render .text false).toList
        ∧ Escapeless (r.render .text false) ∧ ¬Escapeless (r.render .text true))
      ∧ ∀ r : SignalsReport, (∀ text ∈ r.shown, Escapeless text) →
        deleteEscapes (r.render .text true).toList = (r.render .text false).toList
          ∧ Escapeless (r.render .text false) ∧ (r ≠ [] → ¬Escapeless (r.render .text true)) := by
  constructor
  · intro r hshown
    have hparts := IssueReport.escapeless_parts hshown
    have hrender (colored : Bool) : r.render .text colored = Inked.render colored r.parts :=
      r.toText_eq_render colored
    rw [hrender, hrender]
    refine ⟨Inked.deleteEscapes_render hparts, Inked.escapeless_render hparts, ?_⟩
    have hspan : Span.inked .bold r.header ∈ r.parts := by simp [IssueReport.parts]
    exact Inked.not_escapeless_render_of_inked hspan
  · intro r hshown
    have hparts := SignalsReport.escapeless_parts hshown
    have hrender (colored : Bool) : r.render .text colored = Inked.render colored r.parts :=
      r.toText_eq_render colored
    rw [hrender, hrender]
    refine ⟨Inked.deleteEscapes_render hparts, Inked.escapeless_render hparts, fun hne => ?_⟩
    obtain ⟨q, rest, rfl⟩ := List.exists_cons_of_ne_nil hne
    have hspan : Span.inked .boldCyan s!"Statement #{1}:" ∈ SignalsReport.parts (q :: rest) :=
      List.mem_cons_of_mem _ List.mem_cons_self
    exact Inked.not_escapeless_render_of_inked hspan

/-- A warning and the signals of two conditions. -/
theorem deleteEscapes_of_colored_report_of_warning :
    let issue : Issue :=
  ⟨"0", "app.db", "t", "SELECT 1 FROM t", "composite_index", 0, "Two columns", "",
      "Add an index", .warning, ""⟩
    let issues : IssueReport := ⟨"app.db", 1, [issue]⟩
    let signals : SignalsReport := [⟨"SELECT 1 FROM t", { Signals.none with
      tables := ["t"], columnGroups := [["a", "b"]], hasAnd := true }⟩]
    (∀ text ∈ issues.shown, Escapeless text)
      ∧ deleteEscapes (issues.render .text true).toList = (issues.render .text false).toList
      ∧ (∀ text ∈ SignalsReport.shown signals, Escapeless text)
      ∧ deleteEscapes (SignalsReport.render signals .text true).toList
        = (SignalsReport.render signals .text false).toList
      ∧ ¬Escapeless (SignalsReport.render signals .text true) := by
  intro issue issues signals
  have hissues : ∀ text ∈ issues.shown, Escapeless text := by decide
  have hsignals : ∀ text ∈ SignalsReport.shown signals, Escapeless text := by decide
  obtain ⟨hequal, -, hcolored⟩ := deleteEscapes_of_colored_report.2 signals hsignals
  exact ⟨hissues, (deleteEscapes_of_colored_report.1 issues hissues).1, hsignals, hequal,
    hcolored (List.cons_ne_nil _ _)⟩

end QueryLint
