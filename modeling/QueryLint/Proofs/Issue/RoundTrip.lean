import Mathlib.Data.List.Perm.Basic
import QueryLint.Issue.Document
import QueryLint.Issue.Reading
import QueryLint.Proofs.Json.Reader

/-!
# Issues are read back as they were written

An issue is written as a record, with or without line breaks, and it is read from a record with the
same entries in any order, or from the list of its values. Whatever its texts hold, it comes back
unchanged (`readFrom_written`).

What stands between keys and values is a `Layout`, of which the two ways to write are instances.
Reading goes entry by entry: the draft then holds just the fields that were read (`draftOf`), and no
field is read twice since those of an issue are distinct.
-/

namespace QueryLint.Issue

open Json Reader
open QueryLint.Document (quoteText)

variable {i : Issue} {f : Field} {done fields : List Field} {rest : List Char}

/-! ### Fields as documents -/

/-- The value of a field. -/
def get (i : Issue) : (f : Field) → f.Value
  | .id => i.id
  | .dbPath => i.dbPath
  | .table => i.table
  | .sql => i.sql
  | .type => i.type
  | .createTime => i.createTime
  | .desc => i.desc
  | .detail => i.detail
  | .advice => i.advice
  | .level => i.level
  | .extInfo => i.extInfo

/-- What is written for a field. -/
def valueOf (i : Issue) (f : Field) : Document :=
  match f, i.get f with
  | .createTime, time => .number time
  | .level, level => .text level.name
  | .id, text | .dbPath, text | .table, text | .sql, text | .type, text | .desc, text
  | .detail, text | .advice, text | .extInfo, text => .text text

/-- The values of all fields, in the order of the fields. -/
def values (i : Issue) : List Document :=
  Field.all.map i.valueOf

/-- What is written for a field, with its key. -/
def entryOf (i : Issue) (f : Field) : String × Document :=
  (f.key, i.valueOf f)

/-- The fields that are written. -/
def written (i : Issue) : List Field :=
  if i.extInfo.isEmpty then Field.all.dropLast else Field.all

/-- The document of an issue has an entry for each field that is written. -/
theorem toDocument_eq (i : Issue) : i.toDocument = .record (i.written.map i.entryOf) := by
  unfold toDocument written
  split <;> rfl

/-! ### Layouts -/

/-- How a record or a list is written whose items are texts and numbers: what stands before each
item, behind each colon, and before the closing bracket. -/
structure Layout where
  value : Document → String
  before : List Char
  behindColon : List Char
  atEnd : List Char
  value_text : ∀ content, value (.text content) = quoteText content
  value_number : ∀ n, value (.number n) = toString n
  isGap_before : ∀ g ∈ before, isGap g = true
  isGap_behindColon : ∀ g ∈ behindColon, isGap g = true
  isGap_atEnd : ∀ g ∈ atEnd, isGap g = true

namespace Layout

/-- An item of a list. -/
def item (l : Layout) (d : Document) : List Char :=
  l.before ++ (l.value d).toList

/-- An entry of a record. -/
def entry (l : Layout) (e : String × Document) : List Char :=
  l.before ++ ((quoteText e.1).toList ++ ':' :: (l.behindColon ++ (l.value e.2).toList))

/-- A list. -/
def list (l : Layout) (items : List Document) : List Char :=
  '[' :: (separated true (items.map l.item) ++ (l.atEnd ++ [']']))

/-- A record. -/
def record (l : Layout) (entries : List (String × Document)) : List Char :=
  '\x7b' :: (separated true (entries.map l.entry) ++ (l.atEnd ++ ['\x7d']))

/-- Everything on one line. -/
def compact : Layout where
  value := Document.compact
  before := []
  behindColon := []
  atEnd := []
  value_text _ := by rw [Document.compact]
  value_number _ := by rw [Document.compact]
  isGap_before := List.forall_mem_nil _
  isGap_behindColon := List.forall_mem_nil _
  isGap_atEnd := List.forall_mem_nil _

/-- Each item on a line of its own. -/
def pretty : Layout where
  value := Document.prettyAt 1
  before := ['\n', ' ', ' ']
  behindColon := [' ']
  atEnd := ['\n']
  value_text _ := by rw [Document.prettyAt]
  value_number _ := by rw [Document.prettyAt]
  isGap_before := List.all_eq_true.mp rfl
  isGap_behindColon := List.all_eq_true.mp rfl
  isGap_atEnd := List.all_eq_true.mp rfl

/-- A list is written without breaks as its layout says. -/
theorem toList_compact_list (items : List Document) :
    (Document.list items).compact.toList = compact.list items := by
  have hitems : (Document.compactItems items).map String.toList = items.map compact.item := by
    induction items with
    | nil => rfl
    | cons d items ih => rw [Document.compactItems, List.map_cons, List.map_cons, ih]; rfl
  rw [Document.compact, String.toList_append, String.toList_append, toList_intercalate_comma,
    hitems, List.append_assoc]
  rfl

/-- A record is written without breaks as its layout says. -/
theorem toList_compact_record (entries : List (String × Document)) :
    (Document.record entries).compact.toList = compact.record entries := by
  have hentries : (Document.compactEntries entries).map String.toList
      = entries.map compact.entry := by
    induction entries with
    | nil => rfl
    | cons e entries ih =>
      obtain ⟨key, value⟩ := e
      have hcolon : ":".toList = [':'] := by decide
      rw [Document.compactEntries, List.map_cons, List.map_cons, ih, String.toList_append,
        String.toList_append, List.append_assoc, hcolon]
      simp only [Layout.entry, compact, List.nil_append, List.singleton_append]
  rw [Document.compact, String.toList_append, String.toList_append, toList_intercalate_comma,
    hentries, List.append_assoc]
  rfl

/-- A list with members is written with breaks as its layout says. -/
theorem toList_pretty_list {items : List Document} (h : items ≠ []) :
    (Document.list items).pretty.toList = pretty.list items := by
  have hitems : (Document.prettyItems 1 items).map String.toList = items.map pretty.item := by
    clear h
    induction items with
    | nil => rfl
    | cons d items ih =>
      rw [Document.prettyItems, List.map_cons, List.map_cons, ih, String.toList_append]
      rfl
  obtain ⟨d, items, rfl⟩ := List.exists_cons_of_ne_nil h
  rw [Document.pretty, Document.prettyAt, String.toList_append, String.toList_append,
    String.toList_append, toList_intercalate_comma, hitems, List.append_assoc, List.append_assoc]
  rfl

/-- A record with entries is written with breaks as its layout says. -/
theorem toList_pretty_record {entries : List (String × Document)} (h : entries ≠ []) :
    (Document.record entries).pretty.toList = pretty.record entries := by
  have hentries : (Document.prettyEntries 1 entries).map String.toList
      = entries.map pretty.entry := by
    clear h
    induction entries with
    | nil => rfl
    | cons e entries ih =>
      obtain ⟨key, value⟩ := e
      have hbefore : (Document.lineAt 1).toList = pretty.before := by decide
      have hcolon : ": ".toList = ':' :: pretty.behindColon := by decide
      rw [Document.prettyEntries, List.map_cons, List.map_cons, ih, String.toList_append,
        String.toList_append, String.toList_append, List.append_assoc, List.append_assoc, hbefore,
        hcolon]
      rfl
  obtain ⟨e, entries, rfl⟩ := List.exists_cons_of_ne_nil h
  rw [Document.pretty, Document.prettyAt, String.toList_append, String.toList_append,
    String.toList_append, toList_intercalate_comma, hentries, List.append_assoc, List.append_assoc]
  rfl

end Layout

/-! ### Values -/

theorem Layout.entry_entryOf (l : Layout) (i : Issue) (f : Field) :
    l.entry (i.entryOf f) = l.before ++ ((quoteText f.key).toList
      ++ ':' :: (l.behindColon ++ (l.value (i.valueOf f)).toList)) := rfl

/-- Whether a value of a field can be read back. -/
def Field.Fits : (f : Field) → f.Value → Prop
  | .createTime, time => time < Text.limit64
  | _, _ => True

/-- A field is found by its key. -/
theorem ofKey?_key (f : Field) : Field.ofKey? f.key = some f := by
  cases f <;> decide

/-- A level is found by its name. -/
theorem levelNamed_name (level : Severity) : levelNamed level.name = .ok level := by
  cases level <;> rfl

/-- A level is read by its name, whatever gap stands before it. -/
theorem readLevel_name {gap : List Char} (hgap : ∀ g ∈ gap, isGap g = true) (level : Severity) :
    readLevel (gap ++ ((quoteText level.name).toList ++ rest)) = .ok (level, rest) := by
  have hname : text ((quoteText level.name).toList ++ rest) = .ok (level.name, rest) := by
    rw [← List.nil_append ((quoteText level.name).toList ++ rest)]
    exact textAs_quoteText (List.forall_mem_nil _) level.name _
  unfold readLevel
  rw [toList_quoteText, bind_of_ok (peekToken_gap hgap (by decide)), ← toList_quoteText]
  simp only
  rw [bind_of_ok hname, levelNamed_name]
  rfl

/-- The value of a field is read back, if nothing behind it could belong to a number. -/
theorem readValue_valueOf (l : Layout) {gap : List Char} (hgap : ∀ g ∈ gap, isGap g = true)
    (hfits : f.Fits (i.get f)) (hrest : EndsNumber rest) :
    readValue f (gap ++ ((l.value (i.valueOf f)).toList ++ rest)) = .ok (i.get f, rest) := by
  cases f
  case createTime =>
    rw [valueOf, l.value_number]
    exact natural64_toString hgap hfits hrest
  case level =>
    rw [valueOf, l.value_text]
    exact readLevel_name hgap i.level
  all_goals
    rw [valueOf, l.value_text]
    exact textAs_quoteText hgap _ _

/-! ### Drafts -/

/-- The draft in which some fields of an issue were read. -/
def draftOf (i : Issue) (fields : List Field) : Draft :=
  fun f => if f ∈ fields then some (i.get f) else none

/-- Nothing is drafted of no fields. -/
theorem draftOf_nil : i.draftOf [] = Draft.empty := by
  funext f
  exact if_neg List.not_mem_nil

/-- Drafting one more field is setting it. -/
theorem set_draftOf : (i.draftOf done).set f (i.get f) = i.draftOf (done ++ [f]) := by
  funext g
  by_cases h : g = f
  · subst g
    simp [Draft.set, draftOf]
  · simp [Draft.set, draftOf, h]

/-- A field that was drafted is there when it is required. -/
theorem require_draftOf (h : f ∈ fields) : (i.draftOf fields).require f = .ok (i.get f) := by
  simp only [Draft.require, draftOf, if_pos h]
  rfl

/-- A draft is the issue once every field is there but the last, if that has no text. -/
theorem finish_draftOf (h : ∀ f ∈ i.written, f ∈ fields) : (i.draftOf fields).finish = .ok i := by
  have hmem : ∀ f ∈ Field.all.dropLast, f ∈ fields := by
    intro f hf
    refine h f ?_
    unfold written
    split
    · exact hf
    · exact List.dropLast_subset _ hf
  have hlast : ((i.draftOf fields) .extInfo).getD "" = i.extInfo := by
    by_cases hext : Field.extInfo ∈ fields
    · simp [draftOf, hext, get]
    · have hempty : i.extInfo.isEmpty = true := by
        by_contra hne
        exact hext (h _ (by rw [written, if_neg hne]; decide))
      simp [draftOf, hext, String.isEmpty_iff.mp hempty]
  have hrequire : ∀ f ∈ Field.all.dropLast, (i.draftOf fields).require f = .ok (i.get f) :=
    fun f hf => require_draftOf (hmem f hf)
  unfold Draft.finish
  rw [hlast, hrequire .id (by decide), hrequire .dbPath (by decide), hrequire .table (by decide),
    hrequire .sql (by decide), hrequire .type (by decide), hrequire .createTime (by decide),
    hrequire .desc (by decide), hrequire .detail (by decide), hrequire .advice (by decide),
    hrequire .level (by decide)]
  rfl

/-! ### Records -/

section Reading

variable (l : Layout)

/-- The entry of a field that was not read yet is read into the draft. -/
theorem readEntry_key (hnew : f ∉ done) (hfits : f.Fits (i.get f)) (hrest : EndsNumber rest) :
    readEntry f.key (i.draftOf done) (l.behindColon ++ ((l.value (i.valueOf f)).toList ++ rest))
      = .ok (i.draftOf (done ++ [f]), rest) := by
  have hnone : (i.draftOf done) f = none := if_neg hnew
  unfold readEntry
  rw [ofKey?_key]
  simp only [hnone, Option.isSome_none]
  rw [if_neg (by decide), bind_of_ok (readValue_valueOf l l.isGap_behindColon hfits hrest),
    set_draftOf]
  rfl

/-- Entries of distinct fields are read one by one up to the closing brace. -/
theorem entriesFrom_entryOf (hfits : ∀ f : Field, f.Fits (i.get f)) (first : Bool) {fuel : Nat}
    (hfuel : fields.length < fuel) (hnodup : (done ++ fields).Nodup) :
    entriesFrom readEntry fuel first (i.draftOf done)
        (separated first ((fields.map i.entryOf).map l.entry) ++ (l.atEnd ++ '\x7d' :: rest))
      = .ok (i.draftOf (done ++ fields), '\x7d' :: rest) := by
  induction fields generalizing done first fuel with
  | nil =>
    obtain ⟨fuel, rfl⟩ : ∃ n, fuel = n + 1 := ⟨fuel - 1, by omega⟩
    rw [entriesFrom, List.map_nil, List.map_nil, separated, List.nil_append,
      bind_of_ok (hasEntry_end l.isGap_atEnd), List.append_nil]
    rfl
  | cons f fields ih =>
    rw [List.length_cons] at hfuel
    obtain ⟨fuel, rfl⟩ : ∃ n, fuel = n + 1 := ⟨fuel - 1, by omega⟩
    have hnew : f ∉ done := fun hf =>
      (List.nodup_append.mp hnodup).2.2 f hf f List.mem_cons_self rfl
    have hrest : EndsNumber (separated false ((fields.map i.entryOf).map l.entry)
        ++ (l.atEnd ++ '\x7d' :: rest)) := endsNumber_separated l.isGap_atEnd (by decide)
    rw [List.append_cons] at hnodup
    rw [entriesFrom, List.map_cons, List.map_cons, separated, Layout.entry_entryOf]
    simp only [List.append_assoc, List.cons_append]
    rw [toList_quoteText, bind_of_ok (hasEntry_entry l.isGap_before), ← toList_quoteText,
      if_pos rfl, bind_of_ok (keyAndColon_quoteText _),
      bind_of_ok (readEntry_key l hnew (hfits f) hrest), ih false (by omega) hnodup,
      List.append_assoc]
    rfl

/-- An issue is read from a record of its written fields in any order. -/
theorem read_record (hfits : ∀ f : Field, f.Fits (i.get f)) (hperm : fields.Perm i.written) :
    read (l.record (fields.map i.entryOf)) = .ok (i, []) := by
  have hnodup : ([] ++ fields).Nodup := by
    rw [List.nil_append, hperm.nodup_iff, written]
    split <;> decide
  have hfuel : fields.length
      < (separated true ((fields.map i.entryOf).map l.entry) ++ (l.atEnd ++ ['\x7d'])).length
        + 1 := by
    have hle : ((fields.map i.entryOf).map l.entry).length
        ≤ (separated true ((fields.map i.entryOf).map l.entry)).length := by
      refine length_le_separated fun text htext => ?_
      obtain ⟨e, -, rfl⟩ := List.mem_map.mp htext
      rw [Layout.entry, toList_quoteText]
      exact List.append_ne_nil_of_right_ne_nil _ (List.cons_ne_nil _ _)
    rw [List.length_map, List.length_map] at hle
    rw [List.length_append]
    omega
  have hentries : entries readEntry .empty
        (separated true ((fields.map i.entryOf).map l.entry) ++ (l.atEnd ++ ['\x7d']))
      = .ok (i.draftOf fields, ['\x7d']) := by
    unfold entries
    rw [bind_of_ok rfl, ← draftOf_nil]
    exact entriesFrom_entryOf l hfits true hfuel hnodup
  have hfinish : (i.draftOf fields).finish = .ok i :=
    finish_draftOf fun f hf => hperm.mem_iff.mpr hf
  unfold read Layout.record
  rw [bind_of_ok (peekToken_cons (by decide))]
  simp only
  rw [bind_of_ok advance_cons, bind_of_ok hentries, hfinish]
  rfl

/-! ### Lists -/

/-- A written value starts with a quote or a digit. -/
theorem exists_valueOf_eq_cons (i : Issue) (f : Field) :
    ∃ c s, (l.value (i.valueOf f)).toList = c :: s ∧ isGap c = false ∧ c ≠ ']' := by
  have hquote : ∀ content, ∃ c s, (quoteText content).toList = c :: s ∧ isGap c = false
      ∧ c ≠ ']' := by
    intro content
    rw [quoteText, String.toList_ofList, Document.quote, List.cons_append]
    exact ⟨_, _, rfl, by decide, by decide⟩
  cases f
  case createTime =>
    obtain ⟨c, ds, hds, hdigit⟩ := exists_toDigits_eq_cons i.createTime
    rw [valueOf, l.value_number, Nat.toString_eq_repr, Nat.toList_repr]
    refine ⟨c, ds, hds, isGap_of_isDigit hdigit, ?_⟩
    rintro rfl
    exact absurd hdigit (by decide)
  all_goals
    rw [valueOf, l.value_text]
    exact hquote _

/-- The values of some fields are read one by one. Only the last field of all may be missing. -/
theorem readItems_valueOf (hfits : ∀ f : Field, f.Fits (i.get f)) {missing : List Field}
    {index : Nat} (hmissing : missing = [] ∨ missing = [.extInfo]) :
    ∃ gap, (∀ g ∈ gap, isGap g = true)
      ∧ readItems index (fields ++ missing) (i.draftOf done)
          (separated (index == 0) ((fields.map i.valueOf).map l.item) ++ (l.atEnd ++ ']' :: rest))
        = .ok (i.draftOf (done ++ fields), gap ++ ']' :: rest) := by
  induction fields generalizing done index with
  | nil =>
    rw [List.append_nil, List.nil_append, List.map_nil, List.map_nil, separated, List.nil_append]
    obtain rfl | rfl := hmissing
    · exact ⟨l.atEnd, l.isGap_atEnd, rfl⟩
    · refine ⟨[], List.forall_mem_nil _, ?_⟩
      rw [readItems, bind_of_ok (hasItem_end l.isGap_atEnd)]
      rfl
  | cons f fields ih =>
    obtain ⟨gap, hgap, hread⟩ := @ih (done ++ [f]) (index + 1)
    refine ⟨gap, hgap, ?_⟩
    have hrest : EndsNumber (separated false ((fields.map i.valueOf).map l.item)
        ++ (l.atEnd ++ ']' :: rest)) := endsNumber_separated l.isGap_atEnd (by decide)
    have hvalue : readValue f ((l.value (i.valueOf f)).toList
          ++ (separated false ((fields.map i.valueOf).map l.item) ++ (l.atEnd ++ ']' :: rest)))
        = .ok (i.get f, separated false ((fields.map i.valueOf).map l.item)
          ++ (l.atEnd ++ ']' :: rest)) :=
      readValue_valueOf l (List.forall_mem_nil _) (hfits f) hrest
    obtain ⟨c, s, hs, hc, hopen⟩ := exists_valueOf_eq_cons l i f
    rw [List.append_assoc] at hread
    rw [List.cons_append, readItems, List.map_cons, List.map_cons, separated, Layout.item]
    simp only [List.append_assoc]
    rw [hs, List.cons_append, bind_of_ok (hasItem_item l.isGap_before hc hopen),
      ← List.cons_append, ← hs, if_pos rfl, bind_of_ok hvalue, set_draftOf]
    exact hread

/-- An issue is read from the list of its values, whether or not its last value is there if that has
no text. -/
theorem read_list (hfits : ∀ f : Field, f.Fits (i.get f))
    (hall : fields = Field.all ∨ fields = i.written) :
    read (l.list (fields.map i.valueOf)) = .ok (i, []) := by
  obtain ⟨missing, hmissing, hfields⟩ : ∃ missing, (missing = [] ∨ missing = [Field.extInfo])
      ∧ fields ++ missing = Field.all := by
    obtain rfl | rfl := hall
    · exact ⟨[], .inl rfl, rfl⟩
    · unfold written
      split
      · exact ⟨[.extInfo], .inr rfl, rfl⟩
      · exact ⟨[], .inl rfl, rfl⟩
  have hfinish : (i.draftOf fields).finish = .ok i := by
    refine finish_draftOf fun f hf => ?_
    obtain rfl | rfl := hall
    · cases f <;> decide
    · exact hf
  obtain ⟨gap, hgap, hitems⟩ : ∃ gap, (∀ g ∈ gap, isGap g = true)
      ∧ readItems 0 Field.all .empty
          (separated true ((fields.map i.valueOf).map l.item) ++ (l.atEnd ++ [']']))
        = .ok (i.draftOf fields, gap ++ [']']) := by
    rw [← hfields, ← draftOf_nil]
    exact readItems_valueOf l hfits hmissing
  unfold read Layout.list
  rw [bind_of_ok (peekToken_cons (by decide))]
  simp only
  rw [bind_of_ok advance_cons, bind_of_ok hitems, hfinish]
  change (closeList >>= fun _ => pure i) (gap ++ [']']) = _
  rw [bind_of_ok (closeList_end hgap)]
  rfl

end Reading

/-! ### Round trips -/

/-- An issue is what is read from a document, with or without line breaks. -/
def ReadFrom (i : Issue) (d : Document) : Prop :=
  ofJson d.compact = .ok i ∧ ofJson d.pretty = .ok i

/-- An issue is read from its entries, in whatever order they stand. -/
theorem readFrom_record (hfits : ∀ f : Field, f.Fits (i.get f)) (hperm : fields.Perm i.written) :
    i.ReadFrom (.record (fields.map i.entryOf)) := by
  have hsome : fields.map i.entryOf ≠ [] := by
    rw [Ne, List.map_eq_nil_iff]
    rintro rfl
    have hnil : i.written = [] := hperm.nil_eq.symm
    unfold written at hnil
    split at hnil <;> exact absurd hnil (by decide)
  constructor
  · refine whole_of_ok ?_
    rw [Layout.toList_compact_record]
    exact read_record _ hfits hperm
  · refine whole_of_ok ?_
    rw [Layout.toList_pretty_record hsome]
    exact read_record _ hfits hperm

/-- An issue is read from its values, with or without the optional last one. -/
theorem readFrom_list (hfits : ∀ f : Field, f.Fits (i.get f))
    (hall : fields = Field.all ∨ fields = i.written) :
    i.ReadFrom (.list (fields.map i.valueOf)) := by
  have hsome : fields.map i.valueOf ≠ [] := by
    rw [Ne, List.map_eq_nil_iff]
    rintro rfl
    unfold written at hall
    split at hall <;> exact absurd hall (by decide)
  constructor
  · refine whole_of_ok ?_
    rw [Layout.toList_compact_list]
    exact read_list _ hfits hall
  · refine whole_of_ok ?_
    rw [Layout.toList_pretty_list hsome]
    exact read_list _ hfits hall

/-- An issue whose time fits into 64 bits is read back from what is written for it, from the same
entries in any order, and from the list of its values, from which the last may be left out if it is
empty. -/
theorem readFrom_written (i : Issue) (htime : i.createTime < Text.limit64) :
    i.ReadFrom i.toDocument
      ∧ (∀ entries order, i.toDocument = .record entries → order.Perm entries →
          i.ReadFrom (.record order))
      ∧ i.ReadFrom (.list i.values)
      ∧ (i.extInfo = "" → i.ReadFrom (.list i.values.dropLast)) := by
  have hfits : ∀ f : Field, f.Fits (i.get f) := by
    intro f
    cases f
    case createTime => exact htime
    all_goals trivial
  refine ⟨?_, ?_, readFrom_list hfits (.inl rfl), ?_⟩
  · rw [toDocument_eq]
    exact readFrom_record hfits (.refl _)
  · intro entries order hentries hperm
    rw [toDocument_eq, Document.record.injEq] at hentries
    subst hentries
    -- What permutes the written entries is written for permuted fields.
    have hcomp : Relation.Comp (· = List.map i.entryOf ·) List.Perm order i.written := by
      rw [List.eq_map_comp_perm]
      exact hperm
    obtain ⟨fields, rfl, hfields⟩ := hcomp
    exact readFrom_record hfits hfields
  · intro hempty
    have hwritten : Field.all.dropLast = i.written := by
      rw [written, if_pos (String.isEmpty_iff.mpr hempty)]
    rw [values, ← List.map_dropLast]
    exact readFrom_list hfits (.inr hwritten)

/-- An issue with the greatest time, no further information, and texts that have to be escaped. -/
def unusual : Issue where
  id := "0f\x00\x1f"
  dbPath := "a \x22quoted\x22 \\ path"
  table := "größe"
  sql := "SELECT '\n\t\r\x08\x0c'"
  type := "表\u2028😀"
  createTime := 18446744073709551615
  desc := ""
  detail := "\\u0041 / \x7b\x7d"
  advice := ",:[]"
  level := .warning
  extInfo := ""

/-- An issue with quotes, line breaks and other unusual texts is read back from all of its forms. -/
theorem readFrom_written_unusual :
    unusual.createTime < Text.limit64
      ∧ unusual.ReadFrom unusual.toDocument
      ∧ unusual.ReadFrom (.record (unusual.written.map unusual.entryOf).reverse)
      ∧ unusual.ReadFrom (.list unusual.values)
      ∧ unusual.ReadFrom (.list unusual.values.dropLast) := by
  have htime : unusual.createTime < Text.limit64 := by decide
  obtain ⟨hdocument, horder, hvalues, hshort⟩ := readFrom_written unusual htime
  exact ⟨htime, hdocument, horder _ _ (toDocument_eq unusual) (List.reverse_perm _), hvalues,
    hshort rfl⟩

end QueryLint.Issue
