import QueryLint.Proofs.Analysis.Chain
import QueryLint.Proofs.Analysis.Walk
import QueryLint.Proofs.OrderedMap

/-!
# The signals of a query

What one walk over a query that is not nested too deeply finds, told by the parts of the query and
by the order in which the walk stops at them, without what the walk keeps in between
(`signals_of_height_le`).
-/

namespace QueryLint.Analysis

open Outline

/-! ### What a stop signals -/

namespace Visit

/-- Whether the stop is amid an expression with some tag. -/
def marks (tag : Op → Bool) : Visit → Bool
  | amid _ (.expr _ e) => tag e.op
  | _ => false

/-- Whether the stop is amid a source that is joined by columns or by a condition. -/
def joins : Visit → Bool
  | amid _ (.source _ s) => s.columns.isSome || s.on.isSome
  | _ => false

/-- The expression at the top of a chain of `AND`, if the stop is amid one. -/
def chainTop? : Visit → Option Expr
  | amid _ (.expr parent e) => if e.op = .and ∧ parent ≠ some .and then some e else none
  | _ => none

/-- The columns that are noted at a stop: those of a chain, if it compares more than one. -/
def groups (v : Visit) : List (List String) :=
  (v.chainTop?.toList.map Expr.comparedColumns).filter fun columns => 1 < columns.length

/-- The table that a source names at which the walk arrives. -/
def table? : Visit → Option String
  | arrive _ (.source _ s) => s.name
  | _ => none

/-- The alias and the table of a source at which the walk arrives, if it has both. -/
def alias? : Visit → Option (String × String)
  | arrive _ (.source _ s) => s.aliasName.bind fun aliasName => s.name.map (aliasName, ·)
  | _ => none

/-- An alias is noted for a table that is noted at the same stop. -/
theorem table?_of_alias? {v : Visit} {aliasName table : String}
    (h : v.alias? = some (aliasName, table)) : v.table? = some table := by
  rcases v with ⟨d, _ | ⟨reader, s⟩ | _⟩ | ⟨d, _⟩
  all_goals try cases h
  obtain ⟨_, -, hname⟩ := Option.bind_eq_some_iff.mp h
  obtain ⟨name, hname, hpair⟩ := Option.map_eq_some_iff.mp hname
  cases hpair
  exact hname

end Visit

/-- Noting a source changes what is known of tables and aliases only. -/
theorem noteSource_eq (o : Occurrence) (s : Source) (a : Analysis) :
    a.noteSource o s
      = { a with
        readers := (a.noteSource o s).readers
        aliases := (a.noteSource o s).aliases } := by
  obtain ⟨name, aliasName, select, columns, on⟩ := s
  cases name <;> cases aliasName <;> rfl

/-- Noting a join changes one flag only. -/
theorem noteJoin_eq (s : Source) (a : Analysis) :
    a.noteJoin s = { a with
      hasUsingOrOn := a.hasUsingOrOn || (s.columns.isSome || s.on.isSome) } := by
  unfold noteJoin
  split
  · next h => simp [h]
  · next h => simp [h]

/-- Noting a chain adds a group if it compares two columns at least. -/
theorem noteChain_eq (columns : List String) (a : Analysis) :
    a.noteChain columns
      = { a with
        columnGroups := a.columnGroups ++ [columns].filter fun columns => 1 < columns.length
        hasAnd := a.hasAnd || !([columns].filter fun columns => 1 < columns.length).isEmpty } := by
  unfold noteChain
  split
  · next h => simp [h]
  · next h => simp [h]

/-- Noting an operator sets the flags that it calls for, and notes the chain that it begins. -/
theorem noteOp_eq (d : Nat) (parent : Option Op) (e : Expr) (a : Analysis) :
    a.noteOp parent e
      = { a with
        hasBitOperation := a.hasBitOperation || e.op.isBitwise
        hasFuzzyMatching := a.hasFuzzyMatching || decide (e.op = .like)
        hasOr := a.hasOr || decide (e.op = .or)
        hasIn := a.hasIn || decide (e.op = .isIn)
        columnGroups := a.columnGroups ++ (Visit.amid d (.expr parent e)).groups
        hasAnd := a.hasAnd || !(Visit.amid d (.expr parent e)).groups.isEmpty } := by
  obtain ⟨op, left, right, select, list, token⟩ := e
  cases op with
  | and =>
    by_cases hparent : parent = some .and
    · simp [noteOp, Visit.groups, Visit.chainTop?, Op.isBitwise, hparent]
    · simp [noteOp, Visit.groups, Visit.chainTop?, Op.isBitwise, hparent, chainColumns_eq,
        noteChain_eq]
  | _ => simp [noteOp, Visit.groups, Visit.chainTop?, Op.isBitwise]

/-! ### What stops in turn signal -/

/-- An analysis is extended by what some stops signal, apart from tables and aliases. -/
structure Extends (a : Analysis) (stops : List Visit) (b : Analysis) : Prop where
  hasUsingOrOn : b.hasUsingOrOn = (a.hasUsingOrOn || stops.any Visit.joins)
  hasBitOperation : b.hasBitOperation = (a.hasBitOperation || stops.any (Visit.marks Op.isBitwise))
  hasFuzzyMatching :
    b.hasFuzzyMatching = (a.hasFuzzyMatching || stops.any (Visit.marks (· = .like)))
  hasOr : b.hasOr = (a.hasOr || stops.any (Visit.marks (· = .or)))
  hasIn : b.hasIn = (a.hasIn || stops.any (Visit.marks (· = .isIn)))
  columnGroups : b.columnGroups = a.columnGroups ++ stops.flatMap Visit.groups
  hasAnd : b.hasAnd = (a.hasAnd || stops.any fun v => !v.groups.isEmpty)
  truncated : b.truncated = a.truncated

namespace Extends

/-- No stops signal nothing. -/
theorem nil (a : Analysis) : Extends a [] a := by
  constructor <;> simp

/-- A stop extends an analysis by what it signals. -/
theorem note (v : Visit) (a : Analysis) : Extends a [v] (v.note a) := by
  rcases v with ⟨d, _ | ⟨reader, s⟩ | ⟨parent, e⟩⟩ | ⟨d, _ | ⟨reader, s⟩ | ⟨parent, e⟩⟩
  · constructor <;> simp [Visit.note, Visit.joins, Visit.marks, Visit.groups, Visit.chainTop?]
  · rw [Visit.note, noteSource_eq]
    constructor <;> simp [Visit.joins, Visit.marks, Visit.groups, Visit.chainTop?]
  · constructor <;> simp [Visit.note, Visit.joins, Visit.marks, Visit.groups, Visit.chainTop?]
  · constructor <;> simp [Visit.note, Visit.joins, Visit.marks, Visit.groups, Visit.chainTop?]
  · rw [Visit.note, noteJoin_eq]
    constructor <;> simp [Visit.joins, Visit.marks, Visit.groups, Visit.chainTop?]
  · rw [Visit.note, noteOp_eq d]
    constructor <;> simp [Visit.joins, Visit.marks]

/-- Two extensions in a row are one by the stops of both. -/
theorem trans {a b c : Analysis} {stops more : List Visit} (h : Extends a stops b)
    (h' : Extends b more c) : Extends a (stops ++ more) c := by
  constructor
  · rw [h'.hasUsingOrOn, h.hasUsingOrOn, List.any_append, Bool.or_assoc]
  · rw [h'.hasBitOperation, h.hasBitOperation, List.any_append, Bool.or_assoc]
  · rw [h'.hasFuzzyMatching, h.hasFuzzyMatching, List.any_append, Bool.or_assoc]
  · rw [h'.hasOr, h.hasOr, List.any_append, Bool.or_assoc]
  · rw [h'.hasIn, h.hasIn, List.any_append, Bool.or_assoc]
  · rw [h'.columnGroups, h.columnGroups, List.flatMap_append, List.append_assoc]
  · rw [h'.hasAnd, h.hasAnd, List.any_append, Bool.or_assoc]
  · rw [h'.truncated, h.truncated]

/-- Stops extend an analysis one after the other. -/
theorem foldl (stops : List Visit) (a : Analysis) :
    Extends a stops (stops.foldl (fun a v => v.note a) a) := by
  induction stops generalizing a with
  | nil => exact .nil a
  | cons v rest ih => exact (Extends.note v a).trans (ih (v.note a))

end Extends

/-! ### Tables and aliases -/

/-- A stop adds its table to the known ones. -/
theorem keys_readers_note (v : Visit) (a : Analysis) :
    (v.note a).readers.keys = v.table?.toList.foldl OrderedMap.addKey a.readers.keys := by
  rcases v with ⟨d, _ | ⟨reader, ⟨name, aliasName, select, columns, on⟩⟩ | ⟨parent, e⟩⟩
    | ⟨d, _ | ⟨reader, s⟩ | ⟨parent, e⟩⟩
  · rfl
  · cases name with
    | none => rfl
    | some name => exact OrderedMap.keys_alter a.readers name _
  · rfl
  · rfl
  · rw [Visit.note, noteJoin_eq]
    rfl
  · rw [Visit.note, noteOp_eq d]
    rfl

/-- A stop adds its alias to the known ones. -/
theorem aliases_note (v : Visit) (a : Analysis) :
    (v.note a).aliases = v.alias?.toList.foldl (fun m e => m.insert e.1 e.2) a.aliases := by
  rcases v with ⟨d, _ | ⟨reader, ⟨name, aliasName, select, columns, on⟩⟩ | ⟨parent, e⟩⟩
    | ⟨d, _ | ⟨reader, s⟩ | ⟨parent, e⟩⟩
  · rfl
  · cases name <;> cases aliasName <;> rfl
  · rfl
  · rfl
  · rw [Visit.note, noteJoin_eq]
    rfl
  · rw [Visit.note, noteOp_eq d]
    rfl

/-- What each stop adds to something that is kept, if anything, is added in the order of the
stops. -/
theorem foldl_note_kept {α β : Type} (kept : Analysis → α) {add : α → β → α}
    {noted? : Visit → Option β}
    (h : ∀ v a, kept (v.note a) = (noted? v).toList.foldl add (kept a)) (stops : List Visit)
    (a : Analysis) :
    kept (stops.foldl (fun a v => v.note a) a) = (stops.filterMap noted?).foldl add (kept a) := by
  induction stops generalizing a with
  | nil => rfl
  | cons v rest ih =>
    rw [List.foldl_cons, ih, h]
    cases hv : noted? v with
    | none => rw [List.filterMap_cons_none hv]; rfl
    | some b => rw [List.filterMap_cons_some hv]; rfl

/-- The tables of some stops are known once each, in the order of the stops. -/
theorem keys_readers_foldl (stops : List Visit) :
    (stops.foldl (fun a v => v.note a) start).readers.keys
      = (stops.filterMap Visit.table?).eraseDups := by
  rw [← OrderedMap.foldl_addKey]
  exact foldl_note_kept (fun a => a.readers.keys) keys_readers_note stops start

/-- The last alias of a name counts. -/
theorem aliases_foldl (stops : List Visit) :
    (stops.foldl (fun a v => v.note a) start).aliases
      = .ofList (stops.filterMap Visit.alias?) :=
  foldl_note_kept Analysis.aliases aliases_note stops start

/-! ### The parts of a query that signal -/

/-- A flag of operators is called for exactly when one of them stands somewhere in the tree. -/
theorem any_marks_iff {tag : Op → Bool} {root : Select} :
    (visits 0 (.select root)).any (Visit.marks tag) = true
      ↔ ∃ parent e, (Part.expr parent e).IsIn (.select root) ∧ tag e.op = true := by
  rw [List.any_eq_true]
  constructor
  · rintro ⟨_ | ⟨d, _ | _ | ⟨parent, e⟩⟩, hv, hmarks⟩
    all_goals try cases hmarks
    exact ⟨parent, e, isIn_of_mem_visits hv, hmarks⟩
  · rintro ⟨parent, e, hin, htag⟩
    obtain ⟨d, -, hamid⟩ := exists_mem_visits hin 0
    exact ⟨_, hamid, htag⟩

/-- The same for a single operator. -/
theorem any_marks_op_iff (op : Op) {root : Select} :
    (visits 0 (.select root)).any (Visit.marks (· = op)) = true
      ↔ ∃ parent e, (Part.expr parent e).IsIn (.select root) ∧ e.op = op := by
  simp only [any_marks_iff, decide_eq_true_iff]

/-- A join is signalled exactly when a source somewhere in the tree is joined by columns or a
condition. -/
theorem any_joins_iff {root : Select} :
    (visits 0 (.select root)).any Visit.joins = true
      ↔ ∃ reader s, (Part.source reader s).IsIn (.select root)
        ∧ (s.columns.isSome = true ∨ s.on.isSome = true) := by
  rw [List.any_eq_true]
  constructor
  · rintro ⟨_ | ⟨d, _ | ⟨reader, s⟩ | _⟩, hv, hjoins⟩
    all_goals try cases hjoins
    exact ⟨reader, s, isIn_of_mem_visits hv, Bool.or_eq_true_iff.mp hjoins⟩
  · rintro ⟨reader, s, hin, hjoins⟩
    obtain ⟨d, -, hamid⟩ := exists_mem_visits hin 0
    exact ⟨_, hamid, Bool.or_eq_true_iff.mpr hjoins⟩

/-- The groups of some stops are the chains of two columns at least that begin there. -/
theorem flatMap_groups (stops : List Visit) :
    stops.flatMap Visit.groups
      = ((stops.filterMap Visit.chainTop?).map Expr.comparedColumns).filter
        fun columns => 1 < columns.length := by
  induction stops with
  | nil => rfl
  | cons v rest ih =>
    rw [List.flatMap_cons, ih, Visit.groups]
    cases hv : v.chainTop? with
    | none => rw [List.filterMap_cons_none hv]; rfl
    | some e =>
      rw [List.filterMap_cons_some hv, List.map_cons, Option.toList_some, List.map_singleton,
        ← List.filter_append]
      rfl

/-- One walk over a query that is not nested too deeply signals exactly what is in it. A flag is set
if some expression in the query has a tag of its kind, or if some source in it is joined by columns
or by a condition. The tables are those of the named sources in the order in which the walk first
comes by them, an alias stands for the last table that has it, and the column groups are those of
the tops of chains of `AND` in the order in which the walk stops amid them. -/
theorem signals_of_height_le {limit : Nat} {root : Select}
    (h : (Part.select root).height ≤ limit) :
    let found := (ofSelect limit root).signals
    let stops := visits 0 (.select root)
    (found.hasBitOperation = true
        ↔ ∃ parent e, (Part.expr parent e).IsIn (.select root) ∧ e.op.isBitwise = true)
      ∧ (found.hasFuzzyMatching = true
        ↔ ∃ parent e, (Part.expr parent e).IsIn (.select root) ∧ e.op = .like)
      ∧ (found.hasOr = true
        ↔ ∃ parent e, (Part.expr parent e).IsIn (.select root) ∧ e.op = .or)
      ∧ (found.hasIn = true
        ↔ ∃ parent e, (Part.expr parent e).IsIn (.select root) ∧ e.op = .isIn)
      ∧ (found.hasUsingOrOn = true
        ↔ ∃ reader s, (Part.source reader s).IsIn (.select root)
          ∧ (s.columns.isSome = true ∨ s.on.isSome = true))
      ∧ found.tables = (stops.filterMap Visit.table?).eraseDups
      ∧ found.aliases.keys = ((stops.filterMap Visit.alias?).map Prod.fst).eraseDups
      ∧ (∀ aliasName, found.aliases.find? aliasName
        = (stops.filterMap Visit.alias?).reverse.lookup aliasName)
      ∧ found.columnGroups = ((stops.filterMap Visit.chainTop?).map Expr.comparedColumns).filter
        (fun columns => 1 < columns.length)
      ∧ (found.hasAnd = true ↔ found.columnGroups ≠ [])
      ∧ found.truncated = false := by
  intro found stops
  -- A walk that is not cut short makes all stops, so the signals are those of the stops.
  have hfound : found = (stops.foldl (fun a v => v.note a) start).signals := by
    rw [← ofSelect_eq_foldl h]
  have hextends := Extends.foldl stops start
  have haliases : found.aliases = .ofList (stops.filterMap Visit.alias?) := by
    rw [hfound]
    exact aliases_foldl stops
  have hgroups : found.columnGroups = stops.flatMap Visit.groups := by
    rw [hfound]
    exact hextends.columnGroups
  refine ⟨?_, ?_, ?_, ?_, ?_, ?_, ?_, fun aliasName => ?_, ?_, ?_, ?_⟩
  · rw [hfound, signals, hextends.hasBitOperation]
    exact any_marks_iff
  · rw [hfound, signals, hextends.hasFuzzyMatching]
    exact any_marks_op_iff .like
  · rw [hfound, signals, hextends.hasOr]
    exact any_marks_op_iff .or
  · rw [hfound, signals, hextends.hasIn]
    exact any_marks_op_iff .isIn
  · rw [hfound, signals, hextends.hasUsingOrOn]
    exact any_joins_iff
  · rw [hfound]
    exact keys_readers_foldl stops
  · rw [haliases, OrderedMap.keys_ofList]
  · rw [haliases, OrderedMap.find?_ofList]
  · rw [hgroups, flatMap_groups]
  · have hand : found.hasAnd = stops.any fun v => !v.groups.isEmpty := by
      rw [hfound]
      exact hextends.hasAnd
    rw [hand, hgroups, Ne, List.flatMap_eq_nil_iff]
    simp
  · rw [hfound]
    exact hextends.truncated

/-- `SELECT FROM t AS x JOIN u USING (id) WHERE a = 1 AND b = c & 4 AND d LIKE '%z'`: all flags but
two are set, the alias stands for its table, and the columns of the two comparisons are grouped. -/
theorem signals_of_conjunction :
    let root : Select :=
      { Select.blank with
        sources := [{ Source.table "t" with aliasName := some "x" },
          { Source.table "u" with columns := some ["id"] }]
        selection := some (.binary .and
          (.binary .and (.binary .eq (.leaf .id "a") (.leaf .literal "1"))
            (.binary .eq (.leaf .id "b") (.binary .bitAnd (.leaf .id "c") (.leaf .literal "4"))))
          (.binary .like (.leaf .id "d") (.leaf .literal "%z"))) }
    let found := (ofSelect 6 root).signals
    (Part.select root).height ≤ 6
      ∧ found.hasBitOperation = true ∧ found.hasFuzzyMatching = true ∧ found.hasOr = false
      ∧ found.hasIn = false ∧ found.hasUsingOrOn = true ∧ found.hasAnd = true
      ∧ found.tables = ["t", "u"] ∧ found.aliases.keys = ["x"]
      ∧ found.aliases.find? "x" = some "t" ∧ found.columnGroups = [["a", "b"]]
      ∧ found.truncated = false := by
  intro root found
  have hheight : (Part.select root).height ≤ 6 := by decide_cbv
  obtain ⟨hbit, hfuzzy, hor, hin, hjoin, htables, hkeys, haliases, hgroups, hand, htruncated⟩ :=
    signals_of_height_le hheight
  have hcolumns : found.columnGroups = [["a", "b"]] := by
    rw [hgroups]
    decide_cbv
  have hstops : (visits 0 (.select root)).filterMap Visit.alias? = [("x", "t")] := by decide_cbv
  refine ⟨hheight, hbit.mpr (any_marks_iff.mp (by decide_cbv)),
    hfuzzy.mpr ((any_marks_op_iff .like).mp (by decide_cbv)),
    Bool.eq_false_iff.mpr fun h => ?_, Bool.eq_false_iff.mpr fun h => ?_,
    hjoin.mpr (any_joins_iff.mp (by decide_cbv)), hand.mpr ?_, ?_, ?_, ?_, hcolumns, htruncated⟩
  · exact absurd ((any_marks_op_iff .or).mpr (hor.mp h)) (by decide_cbv)
  · exact absurd ((any_marks_op_iff .isIn).mpr (hin.mp h)) (by decide_cbv)
  · rw [hcolumns]
    exact List.cons_ne_nil _ _
  · rw [htables]
    decide_cbv
  · rw [hkeys, hstops]
    rfl
  · rw [haliases, hstops]
    rfl

end QueryLint.Analysis
