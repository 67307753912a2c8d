import Mathlib.Data.List.Find
import Mathlib.Data.List.Forall2
import QueryLint.Checker.BuiltIn
import QueryLint.Policy
import QueryLint.Proofs.Analysis.Tables

/-!
# Spellings of tables

A table may be spelled with quotes or without. Whitelists and the qualifiers of columns are compared
with the text of its name as it stands in the query, quotes included, and nothing else of a checker
looks at it: if a whitelist and the qualifiers take two spellings of each table alike, the built-in
checkers find the same with either, and the same is suppressed (`suppressed_alike_of_spellings`). A
whitelist that lists a table without quotes does not take them alike
(`quoted_table_not_suppressed`).
-/

namespace QueryLint

/-! ### Lists -/

/-- The first item that fits is also the first one without repetitions. -/
theorem find?_eraseDups (p : String → Bool) (items : List String) : items.eraseDups.find? p
    = items.find? p := by
  induction items using List.reverseRecOn with
  | nil => rfl
  | append_singleton items item ih =>
    rw [List.eraseDups_append, List.find?_append, List.find?_append, ih]
    by_cases hitem : item ∈ items
    · have hnone : [item].removeAll items = [] := by simp [List.removeAll, hitem]
      rw [hnone]
      cases hfind : items.find? p with
      | some found => rfl
      | none => simpa using List.find?_eq_none.mp hfind item hitem
    · have hnew : [item].removeAll items = [item] := by simp [List.removeAll, hitem]
      rw [hnew]
      rfl

/-- Looking up a key is not affected by what is done to the values. -/
theorem lookup_map_snd {α β : Type} (f : α → β) (key : String) (entries : List (String × α)) :
    (entries.map (Prod.map id f)).lookup key = (entries.lookup key).map f := by
  induction entries with
  | nil => rfl
  | cons e rest ih =>
    rw [List.map_cons, List.lookup_cons, List.lookup_cons, ih]
    simp only [Prod.map_fst, Prod.map_snd, id_eq]
    split <;> rfl

/-- Two tests that agree on all items find one in both lists or in none. -/
theorem any_map_congr {α β : Type} {p : β → Bool} {f g : α → β} {items : List α}
    (h : ∀ a ∈ items, p (f a) = p (g a)) : (items.map f).any p = (items.map g).any p := by
  induction items with
  | nil => rfl
  | cons a rest ih =>
    rw [List.map_cons, List.map_cons, List.any_cons, List.any_cons, h a List.mem_cons_self,
      ih fun b hb => h b (List.mem_cons_of_mem a hb)]

/-- Adding items to nothing drops the repetitions. -/
theorem Distinct.ofList_eq_eraseDups (items : List String) : ofList items = items.eraseDups := by
  rw [ofList, insert_eq_addKey, OrderedMap.foldl_addKey]

/-- Repetitions do not matter to whether some item fits. -/
theorem any_eraseDups (p : String → Bool) (items : List String) :
    items.eraseDups.any p = items.any p := by
  rw [Bool.eq_iff_iff, List.any_eq_true, List.any_eq_true]
  simp only [List.mem_eraseDups]

/-! ### What a qualifier means -/

namespace Analysis

open Outline

variable (limit : Nat) (root : Select)

/-- The names of the tables at which a walk arrives, in their order. -/
def named : List String := (shallowVisits limit root).filterMap Visit.table?

/-- The aliases at which a walk arrives, with the names of their tables, in their order. -/
def aliased : List (String × String) := (shallowVisits limit root).filterMap Visit.alias?

/-- The name of the table that a qualifier means if tables are spelled in some way. -/
def meant (spelled : String → String) (qualifier : String) : Option String :=
  ((aliased limit root).reverse.lookup qualifier).or
    ((named limit root).find? fun table => Text.sameLetters (spelled table) qualifier)

variable {limit root} {spelled spelled' : String → String} {qualifier table : String}

/-- The tables of an analysis are those at which the walk arrives. -/
theorem mem_tables_iff : table ∈ (ofSelect limit root).signals.tables
    ↔ table ∈ named limit root := by
  have htables : (ofSelect limit root).signals.tables = (ofSelect limit root).readers.keys := rfl
  rw [htables, keys_readers_ofSelect, List.mem_eraseDups, named]

/-- The table of an alias is among those at which the walk arrives. -/
theorem mem_named_of_aliased {e : String × String} (h : e ∈ aliased limit root) :
    e.2 ∈ named limit root := by
  obtain ⟨v, hv, halias⟩ := List.mem_filterMap.mp h
  exact List.mem_filterMap.mpr ⟨v, hv, Visit.table?_of_alias? halias⟩

/-- The table that a qualifier means is among those at which the walk arrives. -/
theorem mem_named_of_meant (h : meant limit root spelled qualifier = some table) :
    table ∈ named limit root := by
  rw [meant, Option.or_eq_some_iff] at h
  rcases h with h | ⟨-, h⟩
  · exact mem_named_of_aliased (List.mem_reverse.mp (OrderedMap.mem_of_lookup h))
  · exact List.mem_of_find?_eq_some h

/-- A qualifier means the same table, by whichever spelling. -/
theorem resolveTable_withTables :
    (ofSelect limit (root.withTables spelled)).signals.resolveTable qualifier
      = (meant limit root spelled qualifier).map spelled := by
  rw [signals_withTables, Signals.resolveTable, OrderedMap.find?_ofList, ← List.map_reverse,
    lookup_map_snd, find?_eraseDups, List.find?_map, meant, aliased, named]
  cases ((shallowVisits limit root).filterMap Visit.alias?).reverse.lookup qualifier <;> rfl

/-- What a qualifier means depends on which tables have its letters only. -/
theorem meant_congr (h : ∀ table ∈ named limit root,
    Text.sameLetters (spelled table) qualifier = Text.sameLetters (spelled' table) qualifier) :
    meant limit root spelled qualifier = meant limit root spelled' qualifier := by
  rw [meant, meant, List.find?_congr h]

end Analysis

/-! ### What is suppressed -/

open Outline Analysis

/-- Whether a policy whitelists the built-in checkers alike for two tables. -/
def Policy.TreatsAlike (p : Policy) (table table' : String) : Prop :=
  ∀ c ∈ Checker.builtIn, p.isWhitelisted table c.name = p.isWhitelisted table' c.name

instance (p : Policy) (table table' : String) : Decidable (p.TreatsAlike table table') :=
  inferInstanceAs (Decidable (∀ c ∈ Checker.builtIn, _ = _))

namespace Checker

variable {limit : Nat} {root : Select} {spelled spelled' : String → String} {columns : List String}

/-- The table that a column belongs to by its qualifier. -/
def meantBy (limit : Nat) (root : Select) (spelled : String → String) (column : String) :
    Option String :=
  (splitColumn column).bind fun (qualifier, _) => meant limit root spelled qualifier

/-- The table of a column is the spelled name of the one that its qualifier means. -/
theorem qualifiedTable_withTables (column : String) :
    qualifiedTable (ofSelect limit (root.withTables spelled)).signals column
      = (meantBy limit root spelled column).map spelled := by
  rw [qualifiedTable, meantBy]
  cases splitColumn column with
  | none => rfl
  | some split => exact resolveTable_withTables

/-- The tables of a group of columns are those that the columns are qualified by, or else all. -/
theorem owningTables_eq (s : Signals) (columns : List String) :
    owningTables s columns
      = if columns.filterMap (qualifiedTable s) = [] then s.tables
        else (columns.filterMap (qualifiedTable s)).eraseDups := by
  rw [owningTables, Distinct.ofList_eq_eraseDups]
  cases columns.filterMap (qualifiedTable s) with
  | nil => rfl
  | cons table rest => rw [if_neg (List.cons_ne_nil _ _), List.eraseDups_cons]

/-- The owning tables of some columns are those that their qualifiers mean, or all tables if no
qualifier means any. -/
theorem mem_owningTables_iff {s : Signals} {table : String} :
    table ∈ owningTables s columns
      ↔ (∃ column ∈ columns, qualifiedTable s column = some table)
        ∨ (∀ column ∈ columns, qualifiedTable s column = none) ∧ table ∈ s.tables := by
  rw [owningTables_eq]
  split
  next hnone =>
    rw [List.filterMap_eq_nil_iff] at hnone
    constructor
    · exact fun htable => .inr ⟨hnone, htable⟩
    · rintro (⟨column, hcolumn, hmeant⟩ | ⟨-, htable⟩)
      · rw [hnone column hcolumn] at hmeant
        cases hmeant
      · exact htable
  next hsome =>
    rw [List.mem_eraseDups, List.mem_filterMap]
    constructor
    · exact .inl
    · rintro (hmeant | ⟨hnone, -⟩)
      · exact hmeant
      · exact absurd (List.filterMap_eq_nil_iff.mpr hnone) hsome

/-- Whether some owning table fits is told by the qualifiers if one of them means a table, and else
by all tables. -/
theorem any_owningTables (s : Signals) (p : String → Bool) :
    (owningTables s columns).any p
      = if columns.filterMap (qualifiedTable s) = [] then s.tables.any p
        else (columns.filterMap (qualifiedTable s)).any p := by
  rw [owningTables_eq]
  split
  next => rfl
  next => exact any_eraseDups p _

/-- Whether some table of an analysis fits does not depend on how tables are spelled, if the test
does not. -/
theorem any_tables_withTables {p : String → Bool}
    (h : ∀ table ∈ named limit root, p (spelled table) = p (spelled' table)) :
    (ofSelect limit (root.withTables spelled)).signals.tables.any p
      = (ofSelect limit (root.withTables spelled')).signals.tables.any p := by
  rw [signals_withTables, signals_withTables]
  simp only [any_eraseDups]
  exact any_map_congr h

/-- The same for the owning tables of some columns, if the qualifiers mean the same tables. -/
theorem any_owningTables_withTables {p : String → Bool}
    (h : ∀ table ∈ named limit root, p (spelled table) = p (spelled' table))
    (hmeant : ∀ column ∈ columns, meantBy limit root spelled column
      = meantBy limit root spelled' column) :
    (owningTables (ofSelect limit (root.withTables spelled)).signals columns).any p
      = (owningTables (ofSelect limit (root.withTables spelled')).signals columns).any p := by
  have hqualified (spelled : String → String) :
      columns.filterMap (qualifiedTable (ofSelect limit (root.withTables spelled)).signals)
        = (columns.filterMap (meantBy limit root spelled)).map spelled := by
    rw [List.map_filterMap]
    exact List.filterMap_congr fun column _ => qualifiedTable_withTables column
  have hsame : columns.filterMap (meantBy limit root spelled')
      = columns.filterMap (meantBy limit root spelled) :=
    List.filterMap_congr fun column hcolumn => (hmeant column hcolumn).symm
  rw [any_owningTables, any_owningTables, hqualified, hqualified, hsame]
  simp only [List.map_eq_nil_iff]
  split
  next => exact any_tables_withTables h
  next =>
    refine any_map_congr fun table htable => h table ?_
    obtain ⟨column, -, hcolumn⟩ := List.mem_filterMap.mp htable
    obtain ⟨_, -, hqualifier⟩ := Option.bind_eq_some_iff.mp hcolumn
    exact mem_named_of_meant hqualifier

end Checker

/-- Whether two findings say the same and a policy suppresses both or neither. -/
structure Policy.SuppressesAlike (p : Policy) (f f' : Finding) : Prop where
  checker : f.checker = f'.checker
  desc : f.desc = f'.desc
  level : f.level = f'.level
  suppresses : p.suppresses f = p.suppresses f'

/-- Findings that are suppressed alike one by one are suppressed alike as a list. -/
theorem Policy.map_suppresses {p : Policy} {found found' : List Finding}
    (h : List.Forall₂ p.SuppressesAlike found found') : found.map p.suppresses
      = found'.map p.suppresses := by
  rw [← List.forall₂_eq_eq_eq, List.forall₂_map_left_iff, List.forall₂_map_right_iff]
  exact h.imp fun f f' halike => halike.suppresses

namespace Checker

variable {p : Policy} {limit : Nat} {root : Select} {spelled spelled' : String → String}
    (sql sql' : String)

/-- A checker of a flag finds alike things if the flag and the suppression by tables agree. -/
theorem ofFlag_alike {name : String} {severity : Severity} {flag : Signals → Bool} {s s' : Signals}
    (desc detail advice : String) (hflag : flag s = flag s')
    (hany : (s.tables.any fun table => p.isWhitelisted table name)
      = s'.tables.any fun table => p.isWhitelisted table name) :
    List.Forall₂ p.SuppressesAlike ((ofFlag name severity flag desc detail advice).check sql s)
      ((ofFlag name severity flag desc detail advice).check sql' s') := by
  simp only [ofFlag, hflag]
  split
  next => exact .cons ⟨rfl, rfl, rfl, hany⟩ .nil
  next => exact .nil

/-- Every built-in checker finds alike things in two spellings that the policy treats alike. -/
theorem check_alike
    (hlists : ∀ table ∈ named limit root, p.TreatsAlike (spelled table) (spelled' table))
    (hmeant : ∀ columns ∈ (ofSelect limit root).signals.columnGroups, ∀ column ∈ columns,
      meantBy limit root spelled column = meantBy limit root spelled' column)
    {c : Checker} (hc : c ∈ builtIn) :
    List.Forall₂ p.SuppressesAlike (c.check sql (ofSelect limit (root.withTables spelled)).signals)
      (c.check sql' (ofSelect limit (root.withTables spelled')).signals) := by
  have hlisted : ∀ table ∈ named limit root,
      p.isWhitelisted (spelled table) c.name = p.isWhitelisted (spelled' table) c.name :=
    fun table htable => hlists table htable c hc
  have hany := any_tables_withTables (p := fun table => p.isWhitelisted table c.name) hlisted
  have hsignals (spelled : String → String) := signals_withTables spelled limit root
  simp only [builtIn, List.mem_cons, List.not_mem_nil, or_false] at hc
  rcases hc with rfl | rfl | rfl | rfl | rfl | rfl
  · have hgroups (spelled : String → String) :
        (ofSelect limit (root.withTables spelled)).signals.columnGroups
          = (ofSelect limit root).signals.columnGroups := by rw [hsignals]
    simp only [compositeIndex, hgroups, List.forall₂_map_left_iff, List.forall₂_map_right_iff,
      List.forall₂_same]
    exact fun columns hcolumns =>
      ⟨rfl, rfl, rfl, any_owningTables_withTables hlisted (hmeant columns hcolumns)⟩
  · exact ofFlag_alike sql sql' _ _ _ (by rw [hsignals, hsignals]) hany
  · exact ofFlag_alike sql sql' _ _ _ (by rw [hsignals, hsignals]) hany
  · exact ofFlag_alike sql sql' _ _ _ (by rw [hsignals, hsignals]) hany
  · exact ofFlag_alike sql sql' _ _ _ (by rw [hsignals, hsignals]) hany
  · exact ofFlag_alike sql sql' _ _ _ (by rw [hsignals, hsignals]) hany

end Checker

/-- The same is suppressed for two spellings of the tables of a query, if the whitelist and the
qualifiers take them alike. Any two queries that differ only in the names of tables are some query
with one and with other names for its tables. If the whitelist lists the one name of each table for
the same built-in checkers as the other, and each qualifier of a column that is compared means the
one name exactly if it means the other, then both queries can be lowered if that query can, and each
built-in checker finds the same in both, about tables for which the policy suppresses it in both or
in neither. -/
theorem suppressed_alike_of_spellings {levels limit : Nat} {q : Sql.Query} {root : Select}
    (hlower : lowerQuery levels q = .ok root) {names names' : String → Sql.ObjectName} {p : Policy}
    (hlists : ∀ table ∈ (ofSelect limit root).signals.tables,
      p.TreatsAlike (spelling names table) (spelling names' table))
    (hqualifiers : ∀ columns ∈ (ofSelect limit root).signals.columnGroups, ∀ column ∈ columns,
      ∀ qualifier bare, Checker.splitColumn column = some (qualifier, bare) →
        ∀ table ∈ (ofSelect limit root).signals.tables,
          Text.sameLetters (spelling names table) qualifier
            = Text.sameLetters (spelling names' table) qualifier) :
    ∃ s s', lowerQuery levels (q.withTables names) = .ok s
      ∧ lowerQuery levels (q.withTables names') = .ok s'
      ∧ ∀ c ∈ Checker.builtIn, ∀ sql sql' : String,
        List.Forall₂ p.SuppressesAlike (c.check sql (ofSelect limit s).signals)
          (c.check sql' (ofSelect limit s').signals) := by
  have hlowered (names : String → Sql.ObjectName) :
      lowerQuery levels (q.withTables names) = .ok (root.withTables (spelling names)) := by
    rw [lowerQuery_withTables, hlower]
    rfl
  refine ⟨_, _, hlowered names, hlowered names', fun c hc sql sql' => ?_⟩
  refine Checker.check_alike sql sql'
    (fun table htable => hlists table (mem_tables_iff.mpr htable)) ?_ hc
  intro columns hcolumns column hcolumn
  rw [Checker.meantBy, Checker.meantBy]
  cases hsplit : Checker.splitColumn column with
  | none => rfl
  | some split =>
    exact meant_congr fun table htable =>
      hqualifiers columns hcolumns column hcolumn _ _ hsplit table (mem_tables_iff.mpr htable)

/-- A table is listed with and without quotes, and the columns that are compared are qualified by
its alias. The proposal of an index is suppressed for both spellings. -/
theorem suppressed_alike_of_both_listed :
    let compare (column : String) : Sql.Expr :=
      .binary (.compound [.plain "u", .plain column]) .eq (.value (.number "1" false))
    let users : Sql.TableFactor := .table ⟨[.plain "users"]⟩ "" (some ⟨true, .plain "u", []⟩) ""
    let q : Sql.Query := .mk false []
      (.select (.mk .standard "" [.wildcard "*"] "" [.mk users []] ""
        (some (.binary (compare "a") .and (compare "b"))) (.keys [] "") "" none ""))
      (.keys [] "") (.clauses none none "") ""
    let names (quote : Option Char) (table : String) : Sql.ObjectName := ⟨[⟨table, quote⟩]⟩
    let p := Policy.default.setWhitelist
      (.ofTables [("users", ["composite_index"]), ("\"users\"", ["composite_index"])])
    ∃ s s', lowerQuery 8 (q.withTables (names none)) = .ok s
      ∧ lowerQuery 8 (q.withTables (names (some '"'))) = .ok s'
      ∧ (Checker.compositeIndex.check "" (ofSelect 8 s).signals).map p.suppresses = [true]
      ∧ (Checker.compositeIndex.check "" (ofSelect 8 s').signals).map p.suppresses = [true] := by
  intro compare users q names p
  obtain ⟨root, hlower, htables, hcolumns⟩ : ∃ root, lowerQuery 8 q = .ok root
      ∧ (ofSelect 8 root).signals.tables = ["users"]
      ∧ (ofSelect 8 root).signals.columnGroups = [["u.a", "u.b"]] :=
    ⟨_, rfl, by decide +kernel, by decide +kernel⟩
  have hlists : ∀ table ∈ (ofSelect 8 root).signals.tables,
      p.TreatsAlike (spelling (names none) table) (spelling (names (some '"')) table) := by
    rw [htables, List.forall_mem_singleton]
    decide +kernel
  have hqualifiers : ∀ columns ∈ (ofSelect 8 root).signals.columnGroups, ∀ column ∈ columns,
      ∀ qualifier bare, Checker.splitColumn column = some (qualifier, bare) →
        ∀ table ∈ (ofSelect 8 root).signals.tables,
          Text.sameLetters (spelling (names none) table) qualifier
            = Text.sameLetters (spelling (names (some '"')) table) qualifier := by
    have hsplit : ∀ column ∈ ["u.a", "u.b"], (Checker.splitColumn column).map Prod.fst
        = some "u" := by
      decide +kernel
    rw [htables, hcolumns, List.forall_mem_singleton]
    intro column hcolumn qualifier bare hqualified
    have hqualifier := hsplit column hcolumn
    rw [hqualified] at hqualifier
    cases hqualifier
    rw [List.forall_mem_singleton]
    decide +kernel
  obtain ⟨s, s', hs, hs', halike⟩ := suppressed_alike_of_spellings hlower hlists hqualifiers
  have hproposal := halike Checker.compositeIndex List.mem_cons_self "" ""
  have hsuppressed : ∃ s, lowerQuery 8 (q.withTables (names none)) = .ok s
      ∧ (Checker.compositeIndex.check "" (ofSelect 8 s).signals).map p.suppresses = [true] :=
    ⟨_, rfl, by decide +kernel⟩
  obtain ⟨s₀, hs₀, hsuppressed⟩ := hsuppressed
  obtain rfl : s₀ = s := Except.ok.inj (hs₀.symm.trans hs)
  exact ⟨s₀, s', hs, hs', hsuppressed, Policy.map_suppresses hproposal ▸ hsuppressed⟩

/-- A whitelist that lists a table without quotes does not suppress what is found in a query that
quotes it. -/
theorem quoted_table_not_suppressed :
    let like : Sql.Expr := .pattern .like false false (.ident (.plain "a"))
      (.value (.single "x")) none
    let q : Sql.Query := .mk false []
      (.select (.mk .standard "" [.wildcard "*"] ""
        [.mk (.table ⟨[.plain "users"]⟩ "" none "") []] ""
        (some like) (.keys [] "") "" none ""))
      (.keys [] "") (.clauses none none "") ""
    let names (quote : Option Char) (table : String) : Sql.ObjectName := ⟨[⟨table, quote⟩]⟩
    let p := Policy.default.setWhitelist (.ofTables [("users", ["fuzzy_match"])])
    ∃ s s', lowerQuery 8 (q.withTables (names none)) = .ok s
      ∧ lowerQuery 8 (q.withTables (names (some '"'))) = .ok s'
      ∧ (Checker.fuzzyMatch.check "" (ofSelect 8 s).signals).map p.suppresses = [true]
      ∧ (Checker.fuzzyMatch.check "" (ofSelect 8 s').signals).map p.suppresses = [false] := by
  intro like q names p
  exact ⟨_, _, rfl, rfl, by decide +kernel, by decide +kernel⟩

end QueryLint
