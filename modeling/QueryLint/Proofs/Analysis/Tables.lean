import QueryLint.Proofs.Analysis.Limits
import QueryLint.Proofs.Outline.Tables

/-!
# Other names for tables in a walk

A walk over an outline with other names for tables makes the same stops, at parts with other names
for tables (`visits_withTables`). So it finds the same signals, except that the tables and those
behind the aliases have their other names (`signals_withTables`).
-/

namespace QueryLint

namespace Outline

/-- A part with other names for tables. -/
def Part.withTables (f : String → String) : Part → Part
  | select s => select (s.withTables f)
  | source reader s => source (reader.withTables f) (s.withTables f)
  | expr parent e => expr parent (e.withTables f)

variable (f : String → String)

/-- Renaming tables goes into what comes before a stop. -/
theorem Part.before_withTables (p : Part) :
    (p.withTables f).before = p.before.map (Part.withTables f) := by
  cases p with
  | select s => rfl
  | source reader s =>
    simp [withTables, before, Source.withTables_eq, Option.toList_map, Function.comp_def]
  | expr parent e =>
    simp [withTables, before, Expr.withTables_eq, Option.toList_map, Function.comp_def]

/-- Renaming tables goes into what comes behind a stop. -/
theorem Part.behind_withTables (p : Part) :
    (p.withTables f).behind = p.behind.map (Part.withTables f) := by
  cases p with
  | select s =>
    simp [withTables, behind, Select.withTables_eq, Option.toList_map, Function.comp_def]
  | source reader s =>
    simp [withTables, behind, Source.withTables_eq, Option.toList_map, Function.comp_def]
  | expr parent e =>
    simp [withTables, behind, Expr.withTables_eq, Option.toList_map, Function.comp_def]

/-- Renaming tables changes no level. -/
theorem Part.levels_withTables (p : Part) : (p.withTables f).levels = p.levels := by
  cases p <;> rfl

/-! ### What the names of tables decide nothing about -/

/-- What holds of an expression if it holds of its operands holds of all expressions. -/
theorem Expr.induct_operands {motive : Expr → Prop}
    (h : ∀ e, (∀ c ∈ e.operands, motive c) → motive e) (e : Expr) : motive e := by
  generalize hp : Part.expr none e = p
  generalize none = parent at hp
  induction p using Part.induct generalizing parent e with
  | h p ih =>
    subst hp
    refine h e fun c hc => ih (.expr (some e.op) c) ?_ c (some e.op) rfl
    rcases List.mem_append.mp hc with hc | hc
    · exact List.mem_append_left _ (List.mem_map_of_mem hc)
    · simp only [Part.inner, Part.behind, List.mem_append]
      exact .inr (.inl (.inl (List.mem_map_of_mem hc)))

/-- Renaming tables changes no identifier: qualifiers are spelled as they were. -/
theorem Expr.identifier_withTables (e : Expr) : (e.withTables f).identifier = e.identifier := by
  induction e using Expr.induct_operands with
  | h e ih =>
    obtain ⟨op, left, right, select, list, token⟩ := e
    simp only [operands, List.forall_mem_append, Option.mem_toList] at ih
    cases op with
    | dot =>
      cases left <;> cases right <;>
        simp_all [withTables, identifier, exprWithTables?]
    | _ => rfl

/-- Renaming tables goes into the operands of an expression. -/
theorem Expr.operands_withTables (e : Expr) :
    (e.withTables f).operands = e.operands.map (Expr.withTables f) := by
  simp [operands, withTables_eq, Option.toList_map]

/-- Renaming tables changes no compared column. -/
theorem Expr.comparedColumns_withTables (e : Expr) :
    (e.withTables f).comparedColumns = e.comparedColumns := by
  induction e using Expr.induct_operands with
  | h e ih =>
    have hop : (e.withTables f).op = e.op := by rw [withTables_eq]
    by_cases hand : (e.op == .and) = true
    · rw [comparedColumns_of_and (hop.symm ▸ hand), comparedColumns_of_and hand,
        operands_withTables, List.flatMap_map]
      exact List.flatMap_congr ih
    · by_cases hcompares : e.op.isIndexComparison = true
      · rw [comparedColumns_of_comparison (hop.symm ▸ hand) (hop.symm ▸ hcompares),
          comparedColumns_of_comparison hand hcompares, withTables_eq]
        simp [Option.toList_map, Function.comp_def, identifier_withTables]
      · rw [comparedColumns_of_other (hop.symm ▸ hand) (hop.symm ▸ hcompares),
          comparedColumns_of_other hand hcompares]

end Outline

namespace Analysis

open Outline

variable (f : String → String) (limit : Nat) (root : Select)

/-- A stop at a part with other names for tables. -/
def Visit.withTables : Visit → Visit
  | arrive d p => arrive d (p.withTables f)
  | .amid d p => .amid d (p.withTables f)

/-- A walk stops at the same parts, whatever the tables in them are named. -/
theorem visits_withTables (depth : Nat) (p : Part) :
    visits depth (p.withTables f) = (visits depth p).map (Visit.withTables f) := by
  induction p using Part.induct generalizing depth with
  | h p ih =>
    have hparts (parts : List Part) (hin : ∀ q ∈ parts, q ∈ p.inner) :
        visitsOf depth (parts.map (Part.withTables f))
          = (visitsOf depth parts).map (Visit.withTables f) := by
      rw [visitsOf, visitsOf, List.flatMap_map, List.map_flatMap]
      refine List.flatMap_congr fun q hq => ?_
      rw [Part.levels_withTables, ih q (hin q hq)]
    rw [visits_eq, visits_eq, Part.before_withTables, Part.behind_withTables,
      hparts p.before fun q hq => List.mem_append_left _ hq,
      hparts p.behind fun q hq => List.mem_append_right _ hq, List.map_cons, List.map_append,
      List.map_cons]
    rfl

/-- Renaming tables changes no depth. -/
theorem Visit.depth_withTables (v : Visit) : (v.withTables f).depth = v.depth := by
  cases v <;> rfl

/-- A walk at a tree with renamed tables makes the same stops, with the tables renamed. -/
theorem shallowVisits_withTables :
    shallowVisits limit (root.withTables f)
      = (shallowVisits limit root).map (Visit.withTables f) := by
  have hvisits : visits 0 (.select (root.withTables f))
      = (visits 0 (.select root)).map (Visit.withTables f) := visits_withTables f 0 (.select root)
  rw [shallowVisits, shallowVisits, hvisits, List.filter_map]
  simp only [Function.comp_def, Visit.depth_withTables]

/-! ### What a stop signals -/

/-- A stop arrives at the renamed table. -/
theorem Visit.table?_withTables (v : Visit) : (v.withTables f).table? = v.table?.map f := by
  rcases v with ⟨d, _ | ⟨reader, s⟩ | _⟩ | ⟨d, _⟩
  · rfl
  · simp only [withTables, Part.withTables, table?, Source.withTables_eq]
  · rfl
  · rfl

/-- A stop arrives at an alias of the renamed table. -/
theorem Visit.alias?_withTables (v : Visit) :
    (v.withTables f).alias? = v.alias?.map (Prod.map id f) := by
  rcases v with ⟨d, _ | ⟨reader, ⟨name, aliasName, select, columns, on⟩⟩ | _⟩ | ⟨d, _⟩
  · rfl
  · cases name <;> cases aliasName <;> rfl
  · rfl
  · rfl

/-- Renaming tables changes nothing that a stop shows. -/
theorem Visit.shows_withTables (signal : Signal) (v : Visit) :
    (v.withTables f).shows signal = v.shows signal := by
  rcases v with ⟨d, _⟩ | ⟨d, _ | ⟨reader, ⟨name, aliasName, select, columns, on⟩⟩ | ⟨parent, e⟩⟩
  · rfl
  · rfl
  · cases on <;> rfl
  · simp only [withTables, Part.withTables, shows, Part.shows, Expr.withTables_eq]

/-- Renaming tables changes no group. -/
theorem Visit.groups_withTables (v : Visit) : (v.withTables f).groups = v.groups := by
  rcases v with ⟨d, _⟩ | ⟨d, _ | _ | ⟨parent, e⟩⟩
  · rfl
  · rfl
  · rfl
  · have hop : (e.withTables f).op = e.op := by rw [Expr.withTables_eq]
    simp only [withTables, Part.withTables, groups, chainTop?, hop]
    split
    · simp only [Option.toList_some, List.map_singleton, Expr.comparedColumns_withTables]
    · rfl

/-- Renaming tables changes no flag. -/
theorem flag_withTables (signal : Signal) :
    signal.flag (ofSelect limit (root.withTables f)).signals
      = signal.flag (ofSelect limit root).signals := by
  rw [flag_ofSelect, flag_ofSelect, shallowVisits_withTables, List.any_map]
  simp only [Function.comp_def, Visit.shows_withTables]

/-- Renaming tables does not change whether the walk is truncated. -/
theorem truncated_withTables :
    (ofSelect limit (root.withTables f)).truncated = (ofSelect limit root).truncated := by
  have hfollow (root : Select) :
      ofSelect limit root = follow limit (visits 0 (.select root)) start :=
    visitSelect_eq_follow limit root start
  have hvisits : visits 0 (.select (root.withTables f))
      = (visits 0 (.select root)).map (Visit.withTables f) := visits_withTables f 0 (.select root)
  rw [hfollow, hfollow, truncated_follow, truncated_follow, hvisits, List.any_map]
  simp only [Function.comp_def, Visit.depth_withTables]

/-- The signals are the same, except that the tables and those behind the aliases have their other
names. -/
theorem signals_withTables :
    (ofSelect limit (root.withTables f)).signals
      = { (ofSelect limit root).signals with
        tables := (((shallowVisits limit root).filterMap Visit.table?).map f).eraseDups
        aliases :=
          .ofList (((shallowVisits limit root).filterMap Visit.alias?).map (Prod.map id f)) } := by
  have hgroups : (ofSelect limit (root.withTables f)).columnGroups
      = (ofSelect limit root).columnGroups := by
    rw [columnGroups_ofSelect, columnGroups_ofSelect, shallowVisits_withTables, List.flatMap_map]
    simp only [Visit.groups_withTables]
  have hand : (ofSelect limit (root.withTables f)).hasAnd = (ofSelect limit root).hasAnd := by
    rw [hasAnd_ofSelect, hasAnd_ofSelect, shallowVisits_withTables, List.any_map]
    simp only [Function.comp_def, Visit.groups_withTables]
  have htables : (ofSelect limit (root.withTables f)).readers.keys
      = (((shallowVisits limit root).filterMap Visit.table?).map f).eraseDups := by
    rw [keys_readers_ofSelect, shallowVisits_withTables, List.filterMap_map, List.map_filterMap]
    simp only [Function.comp_def, Visit.table?_withTables]
  have haliases : (ofSelect limit (root.withTables f)).aliases
      = .ofList (((shallowVisits limit root).filterMap Visit.alias?).map (Prod.map id f)) := by
    rw [aliases_ofSelect, shallowVisits_withTables, List.filterMap_map, List.map_filterMap]
    simp only [Function.comp_def, Visit.alias?_withTables]
  have hflag (signal : Signal) := flag_withTables f limit root signal
  simp only [signals, Signals.mk.injEq]
  exact ⟨hflag .usingOrOn, hflag .bitOperation, hflag .fuzzyMatching, hand, hflag .or,
    hflag .isIn, hgroups,
    htables, haliases, truncated_withTables f limit root⟩

end Analysis

end QueryLint
