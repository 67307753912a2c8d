import Mathlib.Data.List.Infix
import QueryLint.Error
import QueryLint.Proofs.Text.Search

/-!
# The place in a report

An error for a text that is not SQL repeats the place that the report names, and then the report.
The place is found by characters (`Error.placeIn`). By bytes (`Error.placeByBytes?`), it is the same
place: every part of the report that is taken on the way is there, whatever characters the report
has.
-/

namespace QueryLint.Error

open Text (SplitsAt Writes findFrom? number64? slice? splitFirst)

/-- The line and the column that a report names, by places in the report. There is no result where a
part is taken that the report does not have. -/
def placeByBytes? (report : String) : Option (Option (Nat × Nat)) :=
  match findFrom? "Line: ".toList.isPrefixOf report with
  | none => some none
  | some lineMarker => do
    let lineStart := lineMarker + "Line: ".utf8ByteSize
    let behindLine ← slice? report lineStart report.utf8ByteSize
    match findFrom? ", Column ".toList.isPrefixOf behindLine with
    | none => some none
    | some columnMarker =>
      let line ← slice? report lineStart (lineStart + columnMarker)
      let columnStart := lineStart + columnMarker + ", Column ".utf8ByteSize
      let behindColumn ← slice? report columnStart report.utf8ByteSize
      let columnSize := (findFrom? (·.head?.any (!·.isDigit)) behindColumn).getD
        (report.utf8ByteSize - columnStart)
      let column ← slice? report columnStart (columnStart + columnSize)
      return do
        let lineNumber ← number64? line.toList
        let columnNumber ← number64? column.toList
        return (lineNumber, columnNumber)

/-- The wording of the error for a report, by places in the report. -/
def wordedByBytes? (report : String) : Option String :=
  (placeByBytes? report).map fun
    | some (line, column) => s!"Statement parse error at line {line}, column {column}:\n  {report}"
    | none => s!"Statement parse error:\n  {report}"

/-- Each part that is taken is there: in front of it and behind it stands the rest of the report. -/
theorem placeByBytes?_eq (report : String) :
    placeByBytes? report = some (placeIn report.toList) := by
  unfold placeByBytes? placeIn
  rw [Text.findFrom?_isPrefixOf]
  cases hline : splitFirst "Line: ".toList report.toList with
  | none => rfl
  | some parts =>
    obtain ⟨before, behindLine⟩ := parts
    -- Every slice begins behind a front of the report, so it is cut between two characters.
    let front := String.ofList before ++ "Line: "
    have hreport : report = front ++ String.ofList behindLine := Text.eq_append_of_splitFirst hline
    have hlineStart : (String.ofList before).utf8ByteSize + "Line: ".utf8ByteSize
        = front.utf8ByteSize :=
      String.utf8ByteSize_append.symm
    have hbehindLine : slice? report front.utf8ByteSize report.utf8ByteSize
        = some (String.ofList behindLine) :=
      Text.slice?_utf8ByteSize_eq_some_iff.mpr ⟨front, hreport, rfl⟩
    simp only [Option.map_some, hlineStart, hbehindLine, Option.bind_eq_bind, Option.bind_some,
      Text.findFrom?_isPrefixOf, String.toList_ofList]
    cases hcolumn : splitFirst ", Column ".toList behindLine with
    | none => rfl
    | some parts =>
      obtain ⟨line, behind⟩ := parts
      let digits := behind.takeWhile Char.isDigit
      let columnFront := front ++ String.ofList line ++ ", Column "
      have hrest : String.ofList behindLine = String.ofList line ++ ", Column "
          ++ String.ofList behind :=
        Text.eq_append_of_splitFirst ((String.toList_ofList (l := behindLine)).symm ▸ hcolumn)
      have hreport' : report = columnFront ++ String.ofList behind := by
        rw [hreport, hrest]
        simp only [columnFront, String.append_assoc]
      have hreportLine :
          report = front ++ String.ofList line ++ (", Column " ++ String.ofList behind) := by
        rw [hreport', ← String.append_assoc]
      have hlineText : slice? report front.utf8ByteSize
          (front.utf8ByteSize + (String.ofList line).utf8ByteSize) = some (String.ofList line) :=
        Text.slice?_of_eq_append hreportLine
      have hcolumnStart : front.utf8ByteSize + (String.ofList line).utf8ByteSize
          + ", Column ".utf8ByteSize
          = columnFront.utf8ByteSize :=
        (congrArg (· + _) String.utf8ByteSize_append.symm).trans String.utf8ByteSize_append.symm
      have hbehind : slice? report columnFront.utf8ByteSize report.utf8ByteSize
          = some (String.ofList behind) :=
        Text.slice?_utf8ByteSize_eq_some_iff.mpr ⟨columnFront, hreport', rfl⟩
      have hsize : report.utf8ByteSize - columnFront.utf8ByteSize
          = (String.ofList behind).utf8ByteSize := by
        rw [hreport', String.utf8ByteSize_append, Nat.add_sub_cancel_left]
      have hsplit : String.ofList behind
          = String.ofList digits ++ String.ofList (behind.dropWhile Char.isDigit) := by
        rw [← String.ofList_append, List.takeWhile_append_dropWhile]
      have hdigits : slice? report columnFront.utf8ByteSize
          (columnFront.utf8ByteSize + (String.ofList digits).utf8ByteSize)
            = some (String.ofList digits) :=
        Text.slice?_of_eq_append (by rw [hreport', hsplit, ← String.append_assoc])
      simp only [Option.map_some, hlineText, hcolumnStart, hbehind, Option.bind_some, hsize,
        Text.findFrom?_head?, String.toList_ofList, digits, hdigits]
      rfl

/-- A report names a line and a column: the line is written between the first `Line: ` and the next
`, Column `, and the column is written by the digits behind it. -/
def NamesPlace (report : List Char) (line column : Nat) : Prop :=
  ∃ before behindLine lineText behind,
    SplitsAt "Line: ".toList report before behindLine
      ∧ SplitsAt ", Column ".toList behindLine lineText behind
      ∧ Writes line lineText ∧ Writes column (behind.takeWhile Char.isDigit)

/-- A place is found in a report exactly when the report names it. -/
theorem placeIn_eq_some_iff {report : List Char} {line column : Nat} :
    placeIn report = some (line, column) ↔ NamesPlace report line column := by
  simp only [placeIn, NamesPlace, Option.bind_eq_bind, Option.bind_eq_some_iff, Prod.exists,
    Option.pure_def, Option.some.injEq, Prod.mk.injEq, Text.splitFirst_eq_some_iff,
    Text.number64?_eq_some_iff]
  constructor
  · rintro ⟨before, behindLine, hline, lineText, behind, hcolumn, l, hl, c, hc, rfl, rfl⟩
    exact ⟨before, behindLine, lineText, behind, hline, hcolumn, hl, hc⟩
  · rintro ⟨before, behindLine, lineText, behind, hline, hcolumn, hl, hc⟩
    exact ⟨before, behindLine, hline, lineText, behind, hcolumn, line, hl, column, hc, rfl, rfl⟩

/-- A place at the end of a text is the one that the text names, if the marker of lines does not
occur before. -/
theorem namesPlace_append {front : String} {line column : Nat}
    (hfront : ¬"Line: ".toList <:+: (front ++ " at ").toList) (hline : line < 2 ^ 64)
    (hcolumn : column < 2 ^ 64) :
    NamesPlace (front ++ s!" at Line: {line}, Column {column}").toList line column := by
  have hdigits : ∀ {n : Nat} {c : Char}, c ∈ (toString n).toList → c.isDigit = true :=
    fun {n c} hc => by
    rw [Nat.toString_eq_repr, Nat.toList_repr] at hc
    exact Nat.isDigit_of_mem_toDigits (by decide) (by decide) hc
  have hcomma : ¬", Column ".toList <:+: (toString line).toList := fun hinfix => by
    have hc : ',' ∈ (toString line).toList := hinfix.subset (by decide)
    exact absurd (hdigits hc) (by decide)
  have hall : (front ++ s!" at Line: {line}, Column {column}").toList
      = (front ++ " at ").toList ++ "Line: ".toList
        ++ ((toString line).toList ++ ", Column ".toList ++ (toString column).toList) := by
    have hmarker : " at Line: " = " at " ++ "Line: " := by decide
    change (front ++ (" at Line: " ++ toString line ++ ", Column " ++ toString column)).toList = _
    simp only [hmarker, ← String.toList_append, String.append_assoc]
  refine ⟨(front ++ " at ").toList, (toString line).toList ++ ", Column ".toList
    ++ (toString column).toList,
    (toString line).toList, (toString column).toList, ?_, ?_, ?_, ?_⟩
  · rw [hall]
    exact Text.splitsAt_of_not_infix (by decide) hfront _
  · exact Text.splitsAt_of_not_infix (by decide) hcomma _
  · exact Text.writes_toString hline
  · rw [List.takeWhile_eq_self_iff.mpr fun c hc => hdigits hc]
    exact Text.writes_toString hcolumn

/-- A report that names a place is worded with the place. -/
theorem message_of_namesPlace {report : String} {line column : Nat}
    (h : NamesPlace report.toList line column) :
    (unparsable report).message
      = s!"Statement parse error at line {line}, column {column}:\n  {report}" := by
  have hwords : placeWords report = s!" at line {line}, column {column}" := by
    rw [placeWords, placeIn_eq_some_iff.mpr h]
  have hfront : "Statement parse error at line " = "Statement parse error" ++ " at line " :=
    by decide
  change "Statement parse error" ++ placeWords report ++ ":\n  " ++ report
    = "Statement parse error at line " ++ toString line ++ ", column " ++ toString column ++ ":\n  "
      ++ report
  rw [hwords, hfront]
  change "Statement parse error" ++ (" at line " ++ toString line ++ ", column " ++ toString column)
    ++ ":\n  " ++ report = _
  simp only [String.append_assoc]

/-- A report that names no place is worded without one. -/
theorem message_of_not_namesPlace {report : String}
    (h : ¬∃ line column, NamesPlace report.toList line column) :
    (unparsable report).message = s!"Statement parse error:\n  {report}" := by
  have hwords : placeWords report = "" := by
    rw [placeWords]
    split
    · next line column hplace => exact absurd ⟨line, column, placeIn_eq_some_iff.mp hplace⟩ h
    · rfl
  have hfront : "Statement parse error:\n  " = "Statement parse error" ++ ":\n  " := by decide
  change "Statement parse error" ++ placeWords report ++ ":\n  " ++ report
    = "Statement parse error:\n  " ++ report
  rw [hwords, hfront, String.append_empty]

/-- Wording by bytes never fails: no slice begins or ends inside a character, and none is out of
range. -/
theorem wordedByBytes?_eq (report : String) :
    wordedByBytes? report = some (unparsable report).message := by
  rw [wordedByBytes?, placeByBytes?_eq, Option.map_some]
  cases hplace : placeIn report.toList with
  | some place =>
    obtain ⟨line, column⟩ := place
    exact congrArg some (message_of_namesPlace (placeIn_eq_some_iff.mp hplace)).symm
  | none =>
    refine congrArg some (message_of_not_namesPlace ?_).symm
    rintro ⟨line, column, hnames⟩
    rw [placeIn_eq_some_iff.mpr hnames] at hplace
    cases hplace

/-- The error for a text that is not SQL is worded for every report: each part of the report that is
taken to find the place is there. The wording is the report, indented, behind the place if the
report names one. A place at the end of a text is named as it is. -/
theorem message_of_unparsable :
    (∀ report : String,
      wordedByBytes? report = some (unparsable report).message
        ∧ (∀ line column, NamesPlace report.toList line column →
          (unparsable report).message
            = s!"Statement parse error at line {line}, column {column}:\n  {report}")
        ∧ ((¬∃ line column, NamesPlace report.toList line column) →
          (unparsable report).message = s!"Statement parse error:\n  {report}"))
      ∧ ∀ (front : String) (line column : Nat), ¬"Line: ".toList <:+: (front ++ " at ").toList →
        line < 2 ^ 64 → column < 2 ^ 64 →
        (unparsable (front ++ s!" at Line: {line}, Column {column}")).message
          = s!"Statement parse error at line {line}, column {column}:\n  "
            ++ (front ++ s!" at Line: {line}, Column {column}") := by
  refine ⟨fun report => ⟨wordedByBytes?_eq report, fun _ _ => message_of_namesPlace,
    message_of_not_namesPlace⟩, fun front line column hfront hline hcolumn => ?_⟩
  exact message_of_namesPlace (namesPlace_append hfront hline hcolumn)

/-- A place behind a letter of two bytes, a line with a sign before a column that no digit ends, and
a column that does not fit. -/
theorem message_of_unparsable_of_name :
    let front := "Expected: end of statement, found: é"
    let signed := "Line: +2, Column 5é"
    let large := "Line: 1, Column 18446744073709551616"
    ¬"Line: ".toList <:+: (front ++ " at ").toList
      ∧ (unparsable (front ++ s!" at Line: {3}, Column {17}")).message
        = s!"Statement parse error at line {3}, column {17}:\n  "
          ++ (front ++ s!" at Line: {3}, Column {17}")
      ∧ NamesPlace signed.toList 2 5
      ∧ (unparsable signed).message = s!"Statement parse error at line {2}, column {5}:\n  {signed}"
      ∧ (¬∃ line column, NamesPlace large.toList line column)
      ∧ (unparsable large).message = s!"Statement parse error:\n  {large}" := by
  intro front signed large
  have hfront : ¬"Line: ".toList <:+: (front ++ " at ").toList := by decide
  have hsigned : NamesPlace signed.toList 2 5 := placeIn_eq_some_iff.mp (by decide)
  have hlarge : ¬∃ line column, NamesPlace large.toList line column := by
    rintro ⟨line, column, hplace⟩
    have hnone : placeIn large.toList = none := by decide
    rw [placeIn_eq_some_iff.mpr hplace] at hnone
    cases hnone
  exact ⟨hfront, message_of_unparsable.2 front 3 17 hfront (by decide) (by decide),
    hsigned, (message_of_unparsable.1 signed).2.1 2 5 hsigned,
    hlarge, (message_of_unparsable.1 large).2.2 hlarge⟩

end QueryLint.Error
