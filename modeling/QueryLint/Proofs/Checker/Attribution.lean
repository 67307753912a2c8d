import QueryLint.Proofs.Checker.Spellings
import QueryLint.Proofs.Policies
import QueryLint.Registry.Engine

/-!
# The tables of findings

A walk keeps its tables and its aliases apart, but never one without the other: whatever is behind
an alias is a table that it read, and no table stands twice (`Signals.Indexed`, `indexed_passes`).
So a qualifier means tables of the query only, and a finding is about some of them, or about none if
the query reads none (`Checker.concerns_of_mem_check`). Hence whoever whitelists the tables of a
query for all checkers hears nothing about it (`findings_concern_tables`).
-/

namespace QueryLint

/-! ### Tables and aliases -/

/-- The tables of signals are different ones, and each alias is that of one of them. -/
structure Signals.Indexed (s : Signals) : Prop where
  nodup_tables : s.tables.Nodup
  alias_mem : ∀ aliasName table, s.aliases.find? aliasName = some table → table ∈ s.tables

/-- A qualifier means one of the tables. -/
theorem Signals.Indexed.mem_of_resolveTable {s : Signals} {qualifier table : String}
    (hs : s.Indexed) (h : s.resolveTable qualifier = some table) : table ∈ s.tables := by
  unfold resolveTable at h
  split at h
  next halias =>
    cases h
    exact hs.alias_mem qualifier table halias
  next => exact List.mem_of_find?_eq_some h

namespace Analysis

open Outline

variable {a : Analysis}

/-- Nothing is known at the start, and nothing aliased. -/
theorem indexed_start : start.signals.Indexed where
  nodup_tables := List.nodup_nil
  alias_mem _ _ h := nomatch h

/-- A stop notes a table before an alias of it, and forgets none. -/
theorem indexed_note (ha : a.signals.Indexed) (v : Visit) : (v.note a).signals.Indexed := by
  have htables : (v.note a).signals.tables
      = v.table?.toList.foldl OrderedMap.addKey a.signals.tables :=
    keys_readers_note v a
  have haliases : (v.note a).signals.aliases
      = v.alias?.toList.foldl (fun m e => m.insert e.1 e.2) a.signals.aliases := aliases_note v a
  have hkept : ∀ table ∈ a.signals.tables, table ∈ (v.note a).signals.tables := by
    rw [htables]
    intro table htable
    cases v.table? with
    | none => exact htable
    | some name => exact OrderedMap.mem_addKey_iff.mpr (.inl htable)
  refine ⟨?_, fun aliasName table hfind => ?_⟩
  · rw [htables]
    cases v.table? with
    | none => exact ha.nodup_tables
    | some name => exact OrderedMap.nodup_addKey ha.nodup_tables name
  · rw [haliases] at hfind
    cases hnoted : v.alias? with
    | none =>
      rw [hnoted] at hfind
      exact hkept table (ha.alias_mem aliasName table hfind)
    | some noted =>
      rw [hnoted, Option.toList_some, List.foldl_cons, List.foldl_nil,
        OrderedMap.find?_insert] at hfind
      split at hfind
      next =>
        cases hfind
        rw [htables, Visit.table?_of_alias? hnoted]
        exact OrderedMap.mem_addKey_iff.mpr (.inr rfl)
      next => exact hkept table (ha.alias_mem aliasName table hfind)

/-- Aliases stay those of known tables along a walk. -/
theorem indexed_follow (limit : Nat) (stops : List Visit) (ha : a.signals.Indexed) :
    (follow limit stops a).signals.Indexed := by
  induction stops generalizing a with
  | nil => exact ha
  | cons v rest ih =>
    rw [follow_cons]
    refine ih ?_
    unfold Visit.noteWithin
    split
    next => exact indexed_note ha v
    next => exact ⟨ha.nodup_tables, ha.alias_mem⟩

/-- Any number of walks over a query, cut short or not, keep their aliases within their tables. -/
theorem indexed_passes (limit : Nat) (root : Select) (n : Nat) :
    (passes limit root n).signals.Indexed := by
  induction n with
  | zero => exact indexed_start
  | succ n ih =>
    rw [passes, process, visitSelect_eq_follow]
    exact indexed_follow limit _ ih

end Analysis

/-! ### Findings -/

/-- A finding is about different tables of a query, and about one at least if the query reads
any. -/
structure Finding.Concerns (f : Finding) (s : Signals) : Prop where
  nodup : f.tables.Nodup
  subset : ∀ table ∈ f.tables, table ∈ s.tables
  nonempty : s.tables ≠ [] → f.tables ≠ []

namespace Checker

variable {s : Signals} {c : Checker} {sql : String} {f : Finding}

/-- The table of a column is a known one. -/
theorem mem_of_qualifiedTable {column table : String} (hs : s.Indexed)
    (h : qualifiedTable s column = some table) : table ∈ s.tables := by
  obtain ⟨split, -, h⟩ := Option.bind_eq_some_iff.mp h
  exact hs.mem_of_resolveTable h

/-- A finding about all tables of a query is about tables of the query. -/
theorem concerns_of_tables_eq (hs : s.Indexed) (h : f.tables = s.tables) : f.Concerns s where
  nodup := h ▸ hs.nodup_tables
  subset := h ▸ fun _ => id
  nonempty := h ▸ id

/-- The proposal of an index concerns a known table, or all of them. -/
theorem concerns_compositeFinding (hs : s.Indexed) (columns : List String) :
    (compositeFinding s columns).Concerns s := by
  have htables : (compositeFinding s columns).tables = owningTables s columns := rfl
  refine ⟨?_, fun table htable => ?_, fun hread hnone => ?_⟩
  · rw [htables, owningTables_eq]
    split
    next => exact hs.nodup_tables
    next => exact OrderedMap.nodup_eraseDups _
  · rcases mem_owningTables_iff.mp (htables ▸ htable) with ⟨column, -, hcolumn⟩ | ⟨-, hmem⟩
    · exact mem_of_qualifiedTable hs hcolumn
    · exact hmem
  · -- If there were none, no qualifier would mean one, and the finding would be about all tables.
    have hno (table : String) : table ∉ owningTables s columns := by
      rw [← htables, hnone]
      exact List.not_mem_nil
    obtain ⟨table, htable⟩ := List.exists_mem_of_ne_nil _ hread
    refine hno table (mem_owningTables_iff.mpr (.inr ⟨fun column hcolumn => ?_, htable⟩))
    refine Option.eq_none_iff_forall_ne_some.mpr fun meant hmeant => hno meant ?_
    exact mem_owningTables_iff.mpr (.inl ⟨column, hcolumn, hmeant⟩)

/-- What a checker of a flag finds is about all tables. -/
theorem tables_of_mem_ofFlag {name : String} {severity : Severity} {flag : Signals → Bool}
    {desc detail advice : String}
    (hf : f ∈ (ofFlag name severity flag desc detail advice).check sql s) :
    f.tables = s.tables := by
  unfold ofFlag at hf
  dsimp only at hf
  split at hf
  next => rw [List.mem_singleton.mp hf, statementFinding]
  next => cases hf

/-- What a built-in checker finds is the proposal of an index, or about all tables. -/
theorem tables_of_mem_check (hc : c ∈ builtIn) (hf : f ∈ c.check sql s) :
    c.name = compositeIndex.name ∧ (∃ columns ∈ s.columnGroups, f = compositeFinding s columns)
      ∨ f.tables = s.tables := by
  simp only [builtIn, List.mem_cons, List.not_mem_nil, or_false] at hc
  rcases hc with rfl | rfl | rfl | rfl | rfl | rfl
  · obtain ⟨columns, hcolumns, rfl⟩ := List.mem_map.mp hf
    exact .inl ⟨rfl, columns, hcolumns, rfl⟩
  all_goals exact .inr (tables_of_mem_ofFlag hf)

/-- Every finding of a built-in checker concerns known tables. -/
theorem concerns_of_mem_check (hs : s.Indexed) (hc : c ∈ builtIn) (hf : f ∈ c.check sql s) :
    f.Concerns s := by
  rcases tables_of_mem_check hc hf with ⟨-, columns, -, rfl⟩ | htables
  · exact concerns_compositeFinding hs columns
  · exact concerns_of_tables_eq hs htables

end Checker

/-! ### Tables that are whitelisted for all checkers -/

namespace Policy

variable {p : Policy} {f : Finding} {s : Signals} {table : String}

/-- The whitelist of a policy has a table, with `*` or without checkers. -/
def Silences (p : Policy) (table : String) : Prop :=
  ∃ names, p.whitelist.find? table = some names ∧ (names = [] ∨ Whitelist.allCheckers ∈ names)

/-- A silenced table is whitelisted for every checker. -/
theorem isWhitelisted_of_silences (h : p.Silences table) (checker : String) :
    p.isWhitelisted table checker = true := by
  obtain ⟨names, hfind, hall⟩ := h
  refine List.any_eq_true.mpr ⟨(table, names), OrderedMap.mem_of_lookup hfind,
    Bool.and_eq_true_iff.mpr ⟨?_, ?_⟩⟩
  · exact isAbout_iff.mpr (.inl (Text.sameLetters_self table))
  · exact covers_iff.mpr (hall.imp id fun hstar => ⟨_, hstar, .inl rfl⟩)

/-- A finding about a silenced table is suppressed. -/
theorem suppresses_of_silences (h : p.Silences table) (htable : table ∈ f.tables) :
    p.suppresses f = true :=
  List.any_eq_true.mpr ⟨table, htable, isWhitelisted_of_silences h f.checker⟩

/-- A finding about some tables of a query is suppressed if all tables of the query are silenced. -/
theorem suppresses_of_concerns (hf : f.Concerns s) (hs : s.tables ≠ [])
    (h : ∀ table ∈ s.tables, p.Silences table) : p.suppresses f = true := by
  obtain ⟨table, htable⟩ := List.exists_mem_of_ne_nil _ (hf.nonempty hs)
  exact suppresses_of_silences (h table (hf.subset table htable)) htable

end Policy

/-- What a set of built-in checkers finds is about tables of the query. -/
theorem CheckerSet.concerns_of_mem_run {set : CheckerSet} {sql : String} {s : Signals}
    {isActive : String → Bool} {f : Finding} (hbuiltIn : ∀ c ∈ set.checkers, c ∈ Checker.builtIn)
    (hs : s.Indexed) (hf : f ∈ set.run sql s isActive) : f.Concerns s := by
  obtain ⟨g, hg, rfl⟩ := List.mem_map.mp hf
  obtain ⟨c, hc, hg⟩ := List.mem_flatMap.mp hg
  obtain ⟨hnodup, hsubset, hnonempty⟩ :=
    Checker.concerns_of_mem_check hs (hbuiltIn c (List.mem_filter.mp hc).1) hg
  rw [← set.withSeverity_tables g] at hnodup hsubset hnonempty
  exact ⟨hnodup, hsubset, hnonempty⟩

/-- After any number of walks over a query, whether they were cut short or not, an alias is that of
a table of the query, a qualifier means a table of the query, and a finding of a built-in checker is
about different tables of the query, and about one at least if the query reads any. So if the query
reads a table and the whitelist has all of its tables with `*` or without checkers, all findings are
suppressed and an engine finds nothing. One such table is enough for the findings about all tables,
which are those of all built-in checkers but the one that proposes indexes. -/
theorem findings_concern_tables (limit : Nat) (root : Outline.Select) (n : Nat) :
    let walked := Analysis.passes limit root n
    let s := walked.signals
    (∀ aliasName table, s.aliases.find? aliasName = some table → table ∈ s.tables)
      ∧ (∀ qualifier table, s.resolveTable qualifier = some table → table ∈ s.tables)
      ∧ (∀ c ∈ Checker.builtIn, ∀ sql, ∀ f ∈ c.check sql s, f.Concerns s)
      ∧ (∀ p : Policy, s.tables ≠ [] → (∀ table ∈ s.tables, p.Silences table) →
        (∀ c ∈ Checker.builtIn, ∀ sql, ∀ f ∈ c.check sql s, p.suppresses f = true)
          ∧ ∀ (config : Config) (sql : String),
          (Engine.ofConfig config).findingsOf p sql walked = [])
      ∧ (∀ p : Policy, (∃ table ∈ s.tables, p.Silences table) →
        ∀ c ∈ Checker.builtIn, ∀ sql, ∀ f ∈ c.check sql s, f.tables = s.tables →
          p.suppresses f = true)
      ∧ ∀ c ∈ Checker.builtIn, c.name ≠ Checker.compositeIndex.name →
        ∀ sql, ∀ f ∈ c.check sql s, f.tables = s.tables := by
  intro walked s
  have hs : s.Indexed := Analysis.indexed_passes limit root n
  refine ⟨hs.alias_mem, fun qualifier table => hs.mem_of_resolveTable,
    fun c hc sql f hf => Checker.concerns_of_mem_check hs hc hf,
    fun p hread hall => ⟨fun c hc sql f hf => ?_, fun config sql => ?_⟩, ?_,
    fun c hc hname sql f hf => ?_⟩
  · exact Policy.suppresses_of_concerns (Checker.concerns_of_mem_check hs hc hf) hread hall
  · unfold Engine.findingsOf
    split
    next => rfl
    next =>
      refine List.filter_eq_nil_iff.mpr fun f hf => ?_
      have hconcerns : f.Concerns s :=
        CheckerSet.concerns_of_mem_run (fun _ => CheckerSet.mem_builtIn_of_mem_ofSettings) hs hf
      simp [Policy.suppresses_of_concerns hconcerns hread hall]
  · rintro p ⟨table, htable, hsilences⟩ c hc sql f hf htables
    exact Policy.suppresses_of_silences hsilences (htables ▸ htable)
  · exact (Checker.tables_of_mem_check hc hf).resolve_left fun h => hname h.1

/-- A table is listed with `*`, and another one without checkers. The proposal of an index for the
first one and what is found about both are suppressed, also by the second entry alone if it is about
both. -/
theorem findings_concern_tables_of_two :
    let compare (column : String) : Outline.Expr :=
      .binary .eq (.binary .dot (.leaf .id "x") (.leaf .id column)) (.leaf .literal "1")
    let root : Outline.Select :=
      { Outline.Select.blank with
        sources := [{ Outline.Source.table "t" with aliasName := some "x" }, .table "u"]
        selection := some (.binary .or (.binary .and (compare "a") (compare "b")) (compare "c")) }
    let s := (Analysis.passes 8 root 1).signals
    let found := Checker.builtIn.flatMap fun c => c.check "" s
    let p := Policy.default.setWhitelist (.ofTables [("t", ["*"]), ("u", [])])
    let q := Policy.default.setWhitelist (.ofTables [("u", [])])
    found.map Finding.tables = [["t"], ["t", "u"]]
      ∧ (∀ f ∈ found, p.suppresses f = true)
      ∧ (Engine.ofConfig .default).findingsOf p "" (Analysis.passes 8 root 1) = []
      ∧ ∀ f ∈ Checker.orCondition.check "" s, q.suppresses f = true := by
  intro compare root s found p q
  have htables : s.tables = ["t", "u"] := by decide_cbv
  have hall : ∀ table ∈ s.tables, p.Silences table := by
    rw [htables]
    intro table htable
    simp only [List.mem_cons, List.not_mem_nil, or_false] at htable
    rcases htable with rfl | rfl
    · exact ⟨["*"], rfl, .inr List.mem_cons_self⟩
    · exact ⟨[], rfl, .inl rfl⟩
  have hone : ∃ table ∈ s.tables, q.Silences table :=
    ⟨"u", by rw [htables]; decide, [], rfl, .inl rfl⟩
  obtain ⟨-, -, -, hsuppressed, hwide, hflags⟩ := findings_concern_tables 8 root 1
  obtain ⟨hfound, hnone⟩ := hsuppressed p (by rw [htables]; decide) hall
  have hor : Checker.orCondition ∈ Checker.builtIn := by simp [Checker.builtIn]
  have hname : Checker.orCondition.name ≠ Checker.compositeIndex.name := by decide
  refine ⟨by decide +kernel, fun f hf => ?_, hnone .default "", fun f hf => ?_⟩
  · obtain ⟨c, hc, hf⟩ := List.mem_flatMap.mp hf
    exact hfound c hc "" f hf
  · exact hwide q hone _ hor "" f hf (hflags _ hor hname "" f hf)

end QueryLint
