import Mathlib.Data.List.Nodup
import QueryLint.Proofs.Checker.Qualifiers
import QueryLint.Proofs.Checker.Spellings
import QueryLint.Proofs.Policies

/-!
# Proposals of indexes

Columns that are compared together lead to the proposal of an index. A qualifier denotes a source of
the query by its alias or by its table, with the schema of the table or without, and in whatever
letter case. The walk knows fewer qualifiers: aliases in the letter case in which they were given,
and whole names of tables (`Source.isWrittenAs`). If each column is qualified by what denotes one
source only, the proposal is about the tables of those sources whose qualifiers it knows, or else
about all tables (`mem_tables_of_denoted_columns`).

The index is to be on the first of these tables, and on all columns that are compared, without their
qualifiers. This is an index on columns of one table exactly if the qualifiers mean no two tables
(`columns_of_target_iff`), and columns with one qualifier are all different without it if they are
with it.
-/

namespace QueryLint

namespace Outline.Source

variable {s : Source} {qualifier : String}

/-- Whether a qualifier denotes a source: in whatever letter case, it is the alias of the source or
the name of its table, or what is behind the last dot in that name. -/
def isDenotedBy (s : Source) (qualifier : String) : Bool :=
  s.aliasName.any (Text.sameLetters · qualifier) || s.name.any (Policy.isAbout qualifier)

/-- Whether a qualifier is the alias of a source, in the letter case in which it was given, or the
whole name of its table, in whatever letter case. -/
def isWrittenAs (s : Source) (qualifier : String) : Bool :=
  s.aliasName == some qualifier || s.name.any (Text.sameLetters · qualifier)

/-- A source whose name is written as the qualifier is denoted by it. -/
theorem isDenotedBy_of_isWrittenAs (h : s.isWrittenAs qualifier = true) :
    s.isDenotedBy qualifier = true := by
  rw [isWrittenAs, Bool.or_eq_true, beq_iff_eq, Option.any_eq_true] at h
  rw [isDenotedBy, Bool.or_eq_true, Option.any_eq_true, Option.any_eq_true]
  rcases h with halias | ⟨table, hname, hsame⟩
  · exact .inl ⟨qualifier, halias, Text.sameLetters_self qualifier⟩
  · rw [Text.sameLetters_comm] at hsame
    exact .inr ⟨table, hname, Policy.isAbout_iff.mpr (.inl hsame)⟩

end Outline.Source

/-! ### What a qualifier denotes -/

namespace Analysis

open Outline

/-- The source at which a walk arrives. -/
def Visit.source? : Visit → Option Source
  | arrive _ (.source _ s) => some s
  | _ => none

/-- The sources at which a walk arrives, in their order. -/
def sources (limit : Nat) (root : Select) : List Source :=
  (shallowVisits limit root).filterMap Visit.source?

variable {limit : Nat} {root : Select} {qualifier table aliasName : String} {source : Source}

/-- A walk that is not cut short arrives at all sources in a query. -/
theorem mem_sources_of_whole (hwhole : (ofSelect limit root).truncated = false) :
    source ∈ sources limit root ↔ ∃ reader, (Part.source reader source).IsIn (.select root) := by
  rw [sources, shallowVisits_of_whole hwhole, List.mem_filterMap]
  constructor
  · rintro ⟨⟨d, _ | ⟨reader, s⟩ | _⟩ | _, hv, hsource⟩
    all_goals cases hsource
    exact ⟨reader, isIn_of_mem_visits hv⟩
  · rintro ⟨reader, hin⟩
    obtain ⟨d, harrive, -⟩ := exists_mem_visits hin 0
    exact ⟨_, harrive, rfl⟩

/-- The named tables are those of the sources. -/
theorem mem_named_iff : table ∈ named limit root ↔ ∃ s ∈ sources limit root,
    s.name = some table := by
  have hname (v : Visit) : v.table? = v.source?.bind Source.name := by
    rcases v with ⟨_, _ | _ | _⟩ | _ <;> rfl
  rw [named, funext hname, ← List.filterMap_filterMap, List.mem_filterMap]
  rfl

/-- The aliased tables are those of the sources that have an alias. -/
theorem mem_aliased_iff :
    (aliasName, table) ∈ aliased limit root
      ↔ ∃ s ∈ sources limit root, s.aliasName = some aliasName ∧ s.name = some table := by
  have halias (v : Visit) :
      v.alias? = v.source?.bind fun s => s.aliasName.bind fun a => s.name.map (a, ·) := by
    rcases v with ⟨_, _ | _ | _⟩ | _ <;> rfl
  rw [aliased, funext halias, ← List.filterMap_filterMap, List.mem_filterMap]
  refine exists_congr fun s => and_congr_right fun _ => ?_
  simp [Option.bind_eq_some_iff]

/-- A qualifier is resolved by the last alias of exactly its letters, and else by the first table of
its letters in any case. -/
theorem resolveTable_ofSelect :
    (ofSelect limit root).signals.resolveTable qualifier
      = ((aliased limit root).reverse.lookup qualifier).or
        ((named limit root).find? fun table => Text.sameLetters table qualifier) := by
  have haliases : (ofSelect limit root).signals.aliases = .ofList (aliased limit root) :=
    aliases_ofSelect limit root
  have htables : (ofSelect limit root).signals.tables = (named limit root).eraseDups :=
    keys_readers_ofSelect limit root
  rw [Signals.resolveTable, haliases, htables, OrderedMap.find?_ofList, find?_eraseDups]
  cases (aliased limit root).reverse.lookup qualifier <;> rfl

/-- A qualifier that means a table is written as the walk knows some source of that table. -/
theorem exists_source_of_resolveTable
    (h : (ofSelect limit root).signals.resolveTable qualifier = some table) :
    ∃ s ∈ sources limit root, s.name = some table ∧ s.isWrittenAs qualifier = true := by
  rw [resolveTable_ofSelect, Option.or_eq_some_iff] at h
  rcases h with hlookup | ⟨-, hfind⟩
  · obtain ⟨s, hs, halias, hname⟩ :=
      mem_aliased_iff.mp (List.mem_reverse.mp (OrderedMap.mem_of_lookup hlookup))
    exact ⟨s, hs, hname, by simp [Source.isWrittenAs, halias]⟩
  · obtain ⟨s, hs, hname⟩ := mem_named_iff.mp (List.mem_of_find?_eq_some hfind)
    exact ⟨s, hs, hname, by simp [Source.isWrittenAs, hname, List.find?_some hfind]⟩

/-- A qualifier that is written as the walk knows some source of a table means some table. -/
theorem resolveTable_ne_none {s : Source} (hs : s ∈ sources limit root)
    (hname : s.name = some table) (hwritten : s.isWrittenAs qualifier = true) :
    (ofSelect limit root).signals.resolveTable qualifier ≠ none := by
  rw [resolveTable_ofSelect, Ne, Option.or_eq_none_iff]
  rintro ⟨hlookup, hfind⟩
  rw [Source.isWrittenAs, Bool.or_eq_true, beq_iff_eq, hname, Option.any_some] at hwritten
  rcases hwritten with halias | hsame
  · have hmem := List.mem_reverse.mpr (mem_aliased_iff.mpr ⟨s, hs, halias, hname⟩)
    simpa using List.lookup_eq_none_iff.mp hlookup _ hmem
  · exact List.find?_eq_none.mp hfind table (mem_named_iff.mpr ⟨s, hs, hname⟩) hsame

/-- A qualifier that denotes one source only means the table of this source, if it is written as the
walk knows it, and else no table. -/
theorem resolveTable_of_denoted
    (h : (sources limit root).filter (fun s => s.isDenotedBy qualifier) = [source]) :
    (ofSelect limit root).signals.resolveTable qualifier
      = if source.isWrittenAs qualifier then source.name else none := by
  have hsource : source ∈ sources limit root :=
    (List.mem_filter.mp (h ▸ List.mem_singleton_self source)).1
  cases hmeant : (ofSelect limit root).signals.resolveTable qualifier with
  | some table =>
    obtain ⟨s, hs, hname, hwritten⟩ := exists_source_of_resolveTable hmeant
    have hdenoted : s ∈ (sources limit root).filter fun s => s.isDenotedBy qualifier :=
      List.mem_filter.mpr ⟨hs, Source.isDenotedBy_of_isWrittenAs hwritten⟩
    obtain rfl : s = source := List.mem_singleton.mp (h ▸ hdenoted)
    rw [if_pos hwritten, hname]
  | none =>
    split
    next hwritten =>
      cases hname : source.name with
      | none => rfl
      | some table => exact absurd hmeant (resolveTable_ne_none hsource hname hwritten)
    next => rfl

end Analysis

namespace Checker

open Outline Analysis

variable {limit : Nat} {root : Select} {s : Signals} {columns : List String}
    {column column' table : String}

/-- The qualifier of a column. -/
def qualifier? (column : String) : Option String :=
  (splitColumn column).map Prod.fst

/-- The table of a column is what its qualifier is resolved to. -/
theorem qualifiedTable_eq (s : Signals) (column : String) :
    qualifiedTable s column = (qualifier? column).bind s.resolveTable := by
  rw [qualifiedTable, qualifier?]
  cases splitColumn column <;> rfl

/-! ### The tables of a proposal -/

/-- The source that the qualifier of a column denotes, if it denotes one only. -/
def denoted? (limit : Nat) (root : Select) (column : String) : Option Source :=
  (qualifier? column).bind fun qualifier =>
    match (sources limit root).filter fun s => s.isDenotedBy qualifier with
    | [source] => some source
    | _ => none

/-- Whether the qualifier of a column is written as the walk knows the source that it denotes. -/
def isWritten (limit : Nat) (root : Select) (column : String) : Bool :=
  (qualifier? column).any fun qualifier =>
    (denoted? limit root column).any fun source => source.isWrittenAs qualifier

/-- The table of a column is that of the denoted source, if the source is written as the
qualifier. -/
theorem qualifiedTable_of_denoted? (h : (denoted? limit root column).isSome = true) :
    qualifiedTable (ofSelect limit root).signals column
      = if isWritten limit root column then (denoted? limit root column).bind Source.name
        else none := by
  obtain ⟨source, hsource⟩ := Option.isSome_iff_exists.mp h
  obtain ⟨qualifier, hqualifier, hfilter⟩ := Option.bind_eq_some_iff.mp hsource
  split at hfilter
  next only honly =>
    obtain rfl : only = source := Option.some.inj hfilter
    rw [qualifiedTable_eq, hqualifier, Option.bind_some, resolveTable_of_denoted honly, isWritten,
      hqualifier, Option.any_some, hsource, Option.any_some, Option.bind_some]
  next => cases hfilter

/-- If each column of a group is qualified by what denotes one source of the query only, its
proposal is about the tables of those sources that are denoted as the walk knows them, and about all
tables of the query if there are none. So it is about exactly the tables that are denoted, if the
walk knows all qualifiers as they are written and some source is a table. The sources are those at
which the walk arrives, which are all in the query if it is not cut short. -/
theorem mem_tables_of_denoted_columns
    (hgroup : columns ∈ (ofSelect limit root).signals.columnGroups)
    (hdenoted : ∀ column ∈ columns, (denoted? limit root column).isSome = true) (sql : String) :
    let s := (ofSelect limit root).signals
    let f := compositeFinding s columns
    let table? (column : String) : Option String := (denoted? limit root column).bind Source.name
    f ∈ compositeIndex.check sql s
      ∧ (∀ table, table ∈ f.tables
        ↔ (∃ column ∈ columns, isWritten limit root column = true ∧ table? column = some table)
          ∨ (∀ column ∈ columns, isWritten limit root column = true → table? column = none)
            ∧ table ∈ s.tables)
      ∧ ((∀ column ∈ columns, isWritten limit root column = true) →
        (∃ column ∈ columns, table? column ≠ none) →
          ∀ table, table ∈ f.tables ↔ ∃ column ∈ columns, table? column = some table)
      ∧ (s.truncated = false →
        ∀ source, source ∈ sources limit root
          ↔ ∃ reader, (Part.source reader source).IsIn (.select root)) := by
  intro s f table?
  have hqualified : ∀ column ∈ columns,
      qualifiedTable s column = if isWritten limit root column then table? column else none :=
    fun column hcolumn => qualifiedTable_of_denoted? (hdenoted column hcolumn)
  have hmem (table : String) : table ∈ f.tables
      ↔ (∃ column ∈ columns, isWritten limit root column = true ∧ table? column = some table)
        ∨ (∀ column ∈ columns, isWritten limit root column = true → table? column = none)
          ∧ table ∈ s.tables := by
    refine mem_owningTables_iff.trans (or_congr ?_ (and_congr_left fun _ => ?_))
    · refine exists_congr fun column => and_congr_right fun hcolumn => ?_
      rw [hqualified column hcolumn, Option.ite_none_right_eq_some]
    · refine forall₂_congr fun column hcolumn => ?_
      rw [hqualified column hcolumn, ite_eq_right_iff]
  refine ⟨List.mem_map_of_mem hgroup, hmem, ?_, fun hwhole source => mem_sources_of_whole hwhole⟩
  rintro hwritten ⟨known, hknown, hname⟩ table
  rw [hmem]
  constructor
  · rintro (⟨column, hcolumn, -, htable⟩ | ⟨hnone, -⟩)
    · exact ⟨column, hcolumn, htable⟩
    · exact absurd (hnone known hknown (hwritten known hknown)) hname
  · rintro ⟨column, hcolumn, htable⟩
    exact .inl ⟨column, hcolumn, hwritten column hcolumn, htable⟩

/-- Of three tables, two are denoted: one by an alias, the other by its name. The proposal is about
these two. -/
theorem mem_tables_of_denoted_columns_of_two :
    let compare (qualifier column : String) : Expr :=
      .binary .eq (.binary .dot (.leaf .id qualifier) (.leaf .id column)) (.leaf .literal "1")
    let root : Select :=
      { Select.blank with
        sources :=
          [{ Source.table "orders" with aliasName := some "o" }, .table "users", .table "items"]
        selection := some (.binary .and (compare "o" "a") (compare "users" "b")) }
    let s := (ofSelect 8 root).signals
    s.tables = ["orders", "users", "items"]
      ∧ ∃ f ∈ compositeIndex.check "" s, ∀ table, table ∈ f.tables ↔ table = "orders"
        ∨ table = "users" := by
  intro compare root s
  have hgroup : ["o.a", "users.b"] ∈ (ofSelect 8 root).signals.columnGroups := by decide +kernel
  have hdenoted : ∀ column ∈ ["o.a", "users.b"], (denoted? 8 root column).isSome = true := by
    decide +kernel
  have hwritten : ∀ column ∈ ["o.a", "users.b"], isWritten 8 root column = true := by decide +kernel
  have horders : (denoted? 8 root "o.a").bind Source.name = some "orders" := by decide +kernel
  have husers : (denoted? 8 root "users.b").bind Source.name = some "users" := by decide +kernel
  obtain ⟨hf, -, htables, -⟩ := mem_tables_of_denoted_columns hgroup hdenoted ""
  refine ⟨by decide +kernel, _, hf, fun table => ?_⟩
  rw [htables hwritten ⟨"o.a", List.mem_cons_self, Option.ne_none_iff_exists'.mpr ⟨_, horders⟩⟩]
  simp only [List.mem_cons, List.not_mem_nil, or_false, exists_eq_or_imp, exists_eq_left, horders,
    husers, Option.some.injEq, eq_comm]

/-- An alias in other letters and a table without its schema denote the first source only, but are
not what the walk knows. The proposals are about both tables. -/
theorem denoted_columns_about_all_tables :
    let compare (qualifier column : String) : Expr :=
      .binary .eq (.binary .dot (.leaf .id qualifier) (.leaf .id column)) (.leaf .literal "1")
    let root (first : Source) (qualifier : String) : Select :=
      { Select.blank with
        sources := [first, .table "users"]
        selection := some (.binary .and (compare qualifier "a") (compare qualifier "b")) }
    let aliased := root { Source.table "orders" with aliasName := some "o" } "O"
    let qualified := root (.table "main.orders") "orders"
    ((sources 8 aliased).map (fun s => s.isDenotedBy "O") = [true, false]
      ∧ (ofSelect 8 aliased).signals.columnGroups = [["O.a", "O.b"]]
      ∧ (compositeIndex.check "" (ofSelect 8 aliased).signals).map Finding.tables
        = [["orders", "users"]])
      ∧ (sources 8 qualified).map (fun s => s.isDenotedBy "orders") = [true, false]
      ∧ (ofSelect 8 qualified).signals.columnGroups = [["orders.a", "orders.b"]]
      ∧ (compositeIndex.check "" (ofSelect 8 qualified).signals).map Finding.tables
        = [["main.orders", "users"]] := by
  intro compare root aliased qualified
  exact ⟨⟨by decide +kernel, by decide +kernel, by decide +kernel⟩,
    by decide +kernel, by decide +kernel, by decide +kernel⟩

/-! ### The columns of a proposal -/

/-- Columns with one qualifier, or without one, differ by their bare names. -/
theorem eq_of_bareColumn_eq (hqualifier : qualifier? column = qualifier? column')
    (hbare : bareColumn column = bareColumn column') : column = column' := by
  rw [qualifier?, qualifier?] at hqualifier
  rw [bareColumn, bareColumn] at hbare
  cases hsplit : splitColumn column with
  | none =>
    cases hsplit' : splitColumn column' with
    | none => simpa only [hsplit, hsplit'] using hbare
    | some split' => simp [hsplit, hsplit'] at hqualifier
  | some split =>
    cases hsplit' : splitColumn column' with
    | none => simp [hsplit, hsplit'] at hqualifier
    | some split' =>
      obtain ⟨qualifier, bare⟩ := split
      obtain ⟨qualifier', bare'⟩ := split'
      obtain rfl : qualifier = qualifier' := by simpa [hsplit, hsplit'] using hqualifier
      obtain rfl : bare = bare' := by simpa only [hsplit, hsplit'] using hbare
      rw [(splitColumn_eq_some_iff.mp hsplit).1, (splitColumn_eq_some_iff.mp hsplit').1]

/-- If a column is qualified by a table, so is some column by the table on which the index is to
be. -/
theorem exists_qualified_by_target (hcolumn : column ∈ columns)
    (h : qualifiedTable s column = some table) :
    ∃ column' ∈ columns,
      qualifiedTable s column' = some ((owningTables s columns).head?.getD "<table>") := by
  have htable : table ∈ owningTables s columns :=
    mem_owningTables_iff.mpr (.inl ⟨column, hcolumn, h⟩)
  cases howning : owningTables s columns with
  | nil =>
    rw [howning] at htable
    cases htable
  | cons target rest =>
    have htarget : target ∈ owningTables s columns := howning ▸ List.mem_cons_self
    rcases mem_owningTables_iff.mp htarget with hmeant | ⟨hnone, -⟩
    · exact hmeant
    · rw [hnone column hcolumn] at h
      cases h

/-- An index is proposed on the first of the tables and for the bare names of all columns of a
group, as often as they are in it. Among them is no column of another table exactly if the
qualifiers of the group mean no two tables. If all columns have one qualifier, or none, no column is
of another table, and none is listed twice exactly if none is compared twice. -/
theorem columns_of_target_iff (s : Signals) (columns : List String) :
    let f := compositeFinding s columns
    let target := f.tables.head?.getD "<table>"
    let bare := columns.map bareColumn
    let listed := String.intercalate ", " bare
    f.advice = s!"Consider CREATE INDEX ON {target}({listed}) ordered by selectivity"
      ∧ ((∀ column ∈ columns, ∀ table, qualifiedTable s column = some table → table = target)
        ↔ ∀ column ∈ columns, ∀ column' ∈ columns, ∀ table table',
          qualifiedTable s column = some table → qualifiedTable s column' = some table' →
            table = table')
      ∧ ∀ qualifier, (∀ column ∈ columns, qualifier? column = qualifier) →
        (∀ column ∈ columns, ∀ table, qualifiedTable s column = some table → table = target)
          ∧ (bare.Nodup ↔ columns.Nodup) := by
  intro f target bare listed
  have hone : (∀ column ∈ columns, ∀ table, qualifiedTable s column = some table → table = target)
      ↔ ∀ column ∈ columns, ∀ column' ∈ columns, ∀ table table',
        qualifiedTable s column = some table → qualifiedTable s column' = some table' →
          table = table' := by
    constructor
    · intro htarget column hcolumn column' hcolumn' table table' htable htable'
      rw [htarget column hcolumn table htable, htarget column' hcolumn' table' htable']
    · intro hsame column hcolumn table htable
      obtain ⟨column', hcolumn', htarget⟩ := exists_qualified_by_target hcolumn htable
      exact hsame column hcolumn column' hcolumn' table _ htable htarget
  refine ⟨rfl, hone, fun qualifier hqualifier => ⟨?_, fun hbare => List.Nodup.of_map _ hbare,
    fun hcolumns => ?_⟩⟩
  · refine hone.mpr fun column hcolumn column' hcolumn' table table' htable htable' => ?_
    rw [qualifiedTable_eq, hqualifier column hcolumn] at htable
    rw [qualifiedTable_eq, hqualifier column' hcolumn'] at htable'
    exact Option.some.inj (htable.symm.trans htable')
  · refine List.Nodup.map_on
      (fun column hcolumn column' hcolumn' heq => eq_of_bareColumn_eq ?_ heq) hcolumns
    rw [hqualifier column hcolumn, hqualifier column' hcolumn']

/-- A column of the first table is compared twice, and one of the second table once. The index that
is proposed on the first table lists the first column twice, and the column of the second table. -/
theorem columns_of_target_repeated_and_foreign :
    let compare (op : Op) (table column : String) : Expr :=
      .binary op (.binary .dot (.leaf .id table) (.leaf .id column)) (.leaf .literal "1")
    let root : Select :=
      { Select.blank with
        sources := [.table "t", .table "u"]
        selection := some (.binary .and (.binary .and (compare .gt "t" "x") (compare .lt "t" "x"))
          (compare .eq "u" "y")) }
    let s := (ofSelect 8 root).signals
    (compositeIndex.check "" s).map Finding.advice
        = ["Consider CREATE INDEX ON t(x, x, y) ordered by selectivity"]
      ∧ s.columnGroups = [["t.x", "t.x", "u.y"]]
      ∧ qualifiedTable s "u.y" = some "u" := by
  intro compare root s
  exact ⟨by decide +kernel, by decide +kernel, by decide +kernel⟩

end Checker

end QueryLint
