import QueryLint.Checker.BuiltIn
import QueryLint.Outline.Lowering

/-!
# Names and qualifiers

A dotted name goes through three forms: its parts are nested as members in the outline, the outline
is told as one text again, and the checker that proposes indexes splits the text at its last dot.
The text has the parts with dots between them (`Expr.identifier_ofNames`), and so the split gives
back the last part, and all parts before it as the qualifier, exactly if there is no dot in the last
part (`splitColumn_of_compound`). Dots in quoted parts further to the front do no harm.
-/

namespace QueryLint

namespace Outline.Expr

theorem identifier_leaf (token : String) : (leaf .id token).identifier = token := rfl

/-- A qualified column is identified by both sides of its dot. -/
theorem identifier_member (left right : Expr) :
    (binary .dot left right).identifier = left.identifier ++ "." ++ right.identifier := rfl

/-- A dotted name is told as its parts with dots between them. -/
theorem identifier_ofNames {names : List Sql.Ident} (h : names ≠ []) :
    (ofNames names).identifier = String.intercalate "." (names.map Sql.Ident.value) := by
  fun_induction ofNames names with
  | case1 => exact absurd rfl h
  | case2 name => rw [identifier_leaf, List.map_singleton, String.intercalate_singleton]
  | case3 name rest hrest ih =>
    have hne : rest ≠ [] := fun heq => hrest heq
    have hvalues : rest.map Sql.Ident.value ≠ [] := mt List.map_eq_nil_iff.mp hne
    rw [identifier_member, identifier_leaf, ih hne, List.map_cons,
      String.intercalate_cons_of_ne_nil hvalues]

/-- The last one of several parts stands behind a dot. -/
theorem identifier_ofNames_concat {leading : List Sql.Ident} (h : leading ≠ []) (last : Sql.Ident) :
    (ofNames (leading ++ [last])).identifier
      = String.intercalate "." (leading.map Sql.Ident.value) ++ "." ++ last.value := by
  have hvalues : leading.map Sql.Ident.value ≠ [] := mt List.map_eq_nil_iff.mp h
  rw [identifier_ofNames (List.concat_ne_nil last leading), List.map_append, List.map_singleton,
    String.intercalate_append_of_ne_nil hvalues (List.cons_ne_nil _ _),
    String.intercalate_singleton]

end Outline.Expr

namespace Checker

open Outline

variable {column qualifier bare : String}

/-- A column is split into two texts with a dot between them, of which the second one has no dot. -/
theorem splitColumn_eq_some_iff :
    splitColumn column = some (qualifier, bare)
      ↔ column = qualifier ++ "." ++ bare ∧ '.' ∉ bare.toList := by
  rw [splitColumn, Option.map_eq_some_iff]
  constructor
  · rintro ⟨⟨before, behind⟩, hsplit, hparts⟩
    cases hparts
    obtain ⟨hcolumn, hbehind⟩ := Text.splitLast_eq_some_iff.mp hsplit
    refine ⟨?_, by rwa [String.toList_ofList]⟩
    rw [← String.toList_inj, hcolumn]
    simp
  · rintro ⟨rfl, hbare⟩
    exact ⟨(qualifier.toList, bare.toList),
      Text.splitLast_eq_some_iff.mpr ⟨by simp, hbare⟩, by simp⟩

/-- The table of a column that is split is what the qualifier is resolved to. -/
theorem qualifiedTable_of_splitColumn (s : Signals)
    (h : splitColumn column = some (qualifier, bare)) :
    qualifiedTable s column = s.resolveTable qualifier := by
  rw [qualifiedTable, h]
  rfl

/-- The bare column of one that is split is what stands behind the dot. -/
theorem bareColumn_of_splitColumn (h : splitColumn column = some (qualifier, bare)) :
    bareColumn column = bare := by
  rw [bareColumn, h]

/-- The name of several parts is split in front of the last part exactly if this part has no dot. -/
theorem splitColumn_ofNames_concat {leading : List Sql.Ident} (h : leading ≠ [])
    (last : Sql.Ident) :
    splitColumn (Expr.ofNames (leading ++ [last])).identifier
        = some (String.intercalate "." (leading.map Sql.Ident.value), last.value)
      ↔ '.' ∉ last.value.toList := by
  rw [splitColumn_eq_some_iff]
  exact and_iff_right (Expr.identifier_ofNames_concat h last)

/-- The outline of a dotted name is told as its parts with dots between them. If there are several
parts, this text is split into the parts before the last one, with dots between them, and the last
one exactly if the last one has no dot. The checker then takes the former for the qualifier of the
column and the latter for its bare name. -/
theorem splitColumn_of_compound (levels : Nat) (parts : List Sql.Ident) (hparts : parts ≠ []) :
    ∃ e, lowerExpr (levels + 1) (.compound parts) = .ok e
      ∧ e.identifier = String.intercalate "." (parts.map Sql.Ident.value)
      ∧ (2 ≤ parts.length →
        let leading := String.intercalate "." (parts.dropLast.map Sql.Ident.value)
        let last := (parts.getLast hparts).value
        (splitColumn e.identifier = some (leading, last) ↔ '.' ∉ last.toList)
          ∧ ('.' ∉ last.toList → bareColumn e.identifier = last
            ∧ ∀ s : Signals, qualifiedTable s e.identifier = s.resolveTable leading)) := by
  have hlower : lowerExpr (levels + 1) (.compound parts) = .ok (.ofNames parts) := by
    rw [lowerExpr]
    rfl
  refine ⟨_, hlower, Expr.identifier_ofNames hparts, fun hlength => ?_⟩
  intro leading last
  have hleading : parts.dropLast ≠ [] := by
    rw [← List.length_pos_iff, List.length_dropLast]
    omega
  have hsplit : splitColumn (Expr.ofNames parts).identifier = some (leading, last)
      ↔ '.' ∉ last.toList := by
    have hconcat := splitColumn_ofNames_concat hleading (parts.getLast hparts)
    rwa [List.dropLast_concat_getLast hparts] at hconcat
  refine ⟨hsplit, fun hlast => ⟨?_, fun s => ?_⟩⟩
  · exact bareColumn_of_splitColumn (hsplit.mpr hlast)
  · exact qualifiedTable_of_splitColumn s (hsplit.mpr hlast)

/-- A dot in a part before the last one goes into the qualifier, and one in the last part moves the
split. -/
theorem splitColumn_of_compound_with_dots :
    let quoted (text : String) : Sql.Ident := ⟨text, some '"'⟩
    (∃ e, lowerExpr 1 (.compound [quoted "my.db", .plain "users", .plain "id"]) = .ok e
        ∧ e.identifier = "my.db.users.id"
        ∧ splitColumn e.identifier = some ("my.db.users", "id")
        ∧ bareColumn e.identifier = "id"
        ∧ ∀ s : Signals, qualifiedTable s e.identifier = s.resolveTable "my.db.users")
      ∧ ∃ e, lowerExpr 1 (.compound [.plain "users", quoted "a.b"]) = .ok e
        ∧ e.identifier = "users.a.b"
        ∧ splitColumn e.identifier ≠ some ("users", "a.b") := by
  intro quoted
  constructor
  · obtain ⟨e, he, hname, hsplits⟩ :=
      splitColumn_of_compound 0 [quoted "my.db", .plain "users", .plain "id"]
      (List.cons_ne_nil _ _)
    obtain ⟨hsplit, htaken⟩ := hsplits (by decide)
    obtain ⟨hbare, htable⟩ := htaken (by decide)
    exact ⟨e, he, hname.trans (by decide), hsplit.mpr (by decide), hbare, htable⟩
  · obtain ⟨e, he, hname, hsplits⟩ := splitColumn_of_compound 0 [.plain "users", quoted "a.b"]
      (List.cons_ne_nil _ _)
    exact ⟨e, he, hname.trans (by decide), mt (hsplits (by decide)).1.mp (by decide)⟩

end Checker

end QueryLint
