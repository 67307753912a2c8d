import Mathlib.Data.List.Infix
import QueryLint.Proofs.Analysis.Limits
import QueryLint.Proofs.Analysis.Places

/-!
# Chains of conjunctions

The walk tells the top of a chain of `AND` by the tag around it, and gathers the columns of a chain
by going down from its top. Here the chains are told by places instead: a conjunction belongs to the
chain of another one if there is nothing but conjunctions from the one down to the other
(`Part.InChain`). Every conjunction belongs to the chain of exactly one top (`existsUnique_top`),
going down from a top gathers the columns at the places of its chain (`comparedColumns_eq_columns`),
and so the groups of a walk are the columns of the chains (`columnGroups_eq_columns`).
-/

namespace QueryLint

/-- An expression has two operands, and nothing else inside. -/
def Outline.Expr.IsBinary (e : Expr) : Prop :=
  e.left.isSome = true ∧ e.right.isSome = true ∧ e.select = none ∧ e.list = []

namespace Outline.Part

/-! ### Tops, chains and members -/

/-- The tag of a part. Only expressions have tags. -/
def op? : Part → Option Op
  | expr _ e => some e.op
  | _ => none

/-- The column that a part compares: the left operand of a comparison that an index can serve. -/
def column? : Part → Option String
  | expr _ e => if e.op.isIndexComparison then e.left.map Expr.identifier else none
  | _ => none

/-- The tag of the part at the end of a path. -/
def opAt? (p : Part) (path : List Nat) : Option Op := (p.at? path).bind op?

/-- The column that the part at the end of a path compares. -/
def columnAt? (p : Part) (path : List Nat) : Option String := (p.at? path).bind column?

/-- All conjunctions in a part have two operands, and nothing else inside. -/
def Regular (p : Part) : Prop :=
  ∀ parent e, (expr parent e).IsIn p → e.op = .and → e.IsBinary

/-- A conjunction that is not directly inside a conjunction. -/
def IsTop (p : Part) (path : List Nat) : Prop :=
  p.opAt? path = some .and ∧ p.opAt? path.dropLast ≠ some .and

/-- From one place down to another there are only conjunctions. -/
def InChain (p : Part) (top path : List Nat) : Prop :=
  top <+: path ∧ ∀ mid, top <+: mid → mid <+: path → p.opAt? mid = some .and

instance (p : Part) (path : List Nat) : Decidable (p.IsTop path) :=
  inferInstanceAs (Decidable (_ ∧ _))

instance (p : Part) (top path : List Nat) : Decidable (p.InChain top path) :=
  decidable_of_iff (top <+: path ∧ ∀ mid ∈ path.inits, top <+: mid → p.opAt? mid = some .and) <|
    and_congr_right fun _ =>
      ⟨fun h mid htop hpath => h mid ((List.mem_inits _ _).mpr hpath) htop,
        fun h mid hpath htop => h mid htop ((List.mem_inits _ _).mp hpath)⟩

/-- The tops of all chains, in the order of the walk. -/
def tops (p : Part) : List (List Nat) := (p.paths true).filter fun path => p.IsTop path

/-- The comparisons directly inside the conjunctions of a chain, from left to right. -/
def members (p : Part) (top : List Nat) : List (List Nat) :=
  (p.paths true).filter fun path => (p.columnAt? path).isSome && p.InChain top path.dropLast

/-- The columns that the members of a chain compare. -/
def columns (p : Part) (top : List Nat) : List String := (p.members top).filterMap p.columnAt?

variable {p q c : Part} {top path mid : List Nat} {k : Nat}

/-- A path that leads to an operator leads to a part. -/
theorem isSome_at?_of_opAt? {op : Op} (h : p.opAt? path = some op) :
    (p.at? path).isSome = true := by
  obtain ⟨q, hat, -⟩ := Option.bind_eq_some_iff.mp h
  rw [hat]
  rfl

/-- A path that leads to a compared column leads to a part. -/
theorem isSome_at?_of_columnAt? (h : (p.columnAt? path).isSome = true) :
    (p.at? path).isSome = true := by
  obtain ⟨column, hcolumn⟩ := Option.isSome_iff_exists.mp h
  obtain ⟨q, hat, -⟩ := Option.bind_eq_some_iff.mp hcolumn
  rw [hat]
  rfl

/-- The listed tops are the paths to the tops of chains. -/
theorem mem_tops_iff : path ∈ p.tops ↔ p.IsTop path := by
  rw [tops, List.mem_filter, mem_paths_iff, decide_eq_true_iff]
  exact and_iff_right_of_imp fun h => isSome_at?_of_opAt? h.1

/-- The listed members of a chain are the paths to compared columns right below one of its
conjunctions. -/
theorem mem_members_iff :
    path ∈ p.members top ↔ (p.columnAt? path).isSome = true ∧ p.InChain top path.dropLast := by
  rw [members, List.mem_filter, mem_paths_iff, Bool.and_eq_true, decide_eq_true_iff]
  exact and_iff_right_of_imp fun h => isSome_at?_of_columnAt? h.1

/-- The columns of a chain are those at the ends of its members, in their order. -/
theorem map_some_columns (p : Part) (top : List Nat) :
    (p.columns top).map some = (p.members top).map p.columnAt? := by
  rw [columns, List.map_filterMap_some_eq_filter_map_isSome, List.filter_eq_self]
  intro column hcolumn
  obtain ⟨path, hpath, rfl⟩ := List.mem_map.mp hcolumn
  exact (mem_members_iff.mp hpath).1

/-- A conjunction is no comparison. -/
theorem column?_of_and (h : p.op? = some .and) : p.column? = none := by
  rcases p with _ | _ | ⟨parent, e⟩
  · rfl
  · rfl
  · rw [column?, Option.some.inj h]
    rfl

/-! ### Every conjunction has one top -/

/-- A conjunction is in the chain that begins with it. -/
theorem inChain_self (h : p.opAt? path = some .and) : p.InChain path path :=
  ⟨List.prefix_refl path, fun mid htop hpath => by rwa [htop.eq_of_length_le hpath.length_le] at h⟩

/-- A conjunction right below one of a chain is in the chain. -/
theorem InChain.concat (h : p.InChain top path) (hand : p.opAt? (path ++ [k]) = some .and) :
    p.InChain top (path ++ [k]) := by
  refine ⟨h.1.trans (List.prefix_append path [k]), fun mid htop hpath => ?_⟩
  rcases List.prefix_concat_iff.mp hpath with rfl | hpath
  · exact hand
  · exact h.2 mid htop hpath

/-- Going up from a conjunction as long as there are conjunctions ends at a top. -/
theorem exists_top {root : Select} (h : (select root).opAt? path = some .and) :
    ∃ top, (select root).IsTop top ∧ (select root).InChain top path := by
  induction path using List.reverseRecOn with
  | nil => cases h
  | append_singleton path k ih =>
    by_cases hparent : (select root).opAt? path = some .and
    · obtain ⟨top, htop, hchain⟩ := ih hparent
      exact ⟨top, htop, hchain.concat h⟩
    · exact ⟨path ++ [k], ⟨h, by rwa [List.dropLast_concat]⟩, inChain_self h⟩

/-- Below a top there is no other top in its chain. -/
theorem InChain.eq_of_prefix {top' : List Nat} (h : p.InChain top path) (htop' : p.IsTop top')
    (hpath : top' <+: path) (hle : top <+: top') : top = top' := by
  rcases List.eq_nil_or_concat top' with rfl | ⟨mid, k, rfl⟩
  · exact List.prefix_nil.mp hle
  · rw [List.concat_eq_append] at *
    rcases List.prefix_concat_iff.mp hle with rfl | hmid
    · rfl
    · have hand : p.opAt? mid = some .and := h.2 mid hmid ((List.prefix_append mid [k]).trans hpath)
      exact absurd hand (by simpa using htop'.2)

/-- A conjunction is in no more than one chain. -/
theorem InChain.top_unique {top' : List Nat} (htop : p.IsTop top) (h : p.InChain top path)
    (htop' : p.IsTop top') (h' : p.InChain top' path) : top = top' := by
  rcases List.prefix_or_prefix_of_prefix h.1 h'.1 with hle | hle
  · exact h.eq_of_prefix htop' h'.1 hle
  · exact (h'.eq_of_prefix htop h.1 hle).symm

/-- Every conjunction belongs to the chain of exactly one top. -/
theorem existsUnique_top {root : Select} (h : (select root).opAt? path = some .and) :
    ∃! top, (select root).IsTop top ∧ (select root).InChain top path := by
  obtain ⟨top, htop, hchain⟩ := exists_top h
  exact ⟨top, ⟨htop, hchain⟩, fun top' h' => h'.2.top_unique h'.1 htop hchain⟩

/-- Every comparison directly inside a conjunction is a member of exactly one chain. -/
theorem existsUnique_top_of_column {root : Select}
    (hcolumn : ((select root).columnAt? path).isSome = true)
    (hparent : (select root).opAt? path.dropLast = some .and) :
    ∃! top, (select root).IsTop top ∧ path ∈ (select root).members top := by
  simp only [mem_members_iff, hcolumn, true_and]
  exact existsUnique_top hparent

/-! ### Going down from a top -/

/-- Above a place there are only conjunctions. -/
def Conjoined (p : Part) (path : List Nat) : Prop :=
  ∀ mid, mid <+: path → mid ≠ path → p.opAt? mid = some .and

instance (p : Part) (path : List Nat) : Decidable (p.Conjoined path) :=
  decidable_of_iff (∀ mid ∈ path.inits, mid ≠ path → p.opAt? mid = some .and)
    ⟨fun h mid hpath => h mid ((List.mem_inits _ _).mpr hpath),
      fun h mid hpath => h mid ((List.mem_inits _ _).mp hpath)⟩

/-- Nothing stands between a part and itself. -/
theorem conjoined_nil (p : Part) : p.Conjoined [] :=
  fun _ hpath hne => absurd (List.prefix_nil.mp hpath) hne

/-- The operator behind the first step of a path is that of the part there. -/
theorem opAt?_cons_of_getElem? (hq : p.inner[k]? = some q) (path : List Nat) :
    p.opAt? (k :: path) = q.opAt? path := by
  rw [opAt?, at?_cons_of_getElem? hq, opAt?]

/-- The column behind the first step of a path is that of the part there. -/
theorem columnAt?_cons_of_getElem? (hq : p.inner[k]? = some q) (path : List Nat) :
    p.columnAt? (k :: path) = q.columnAt? path := by
  rw [columnAt?, at?_cons_of_getElem? hq, columnAt?]

/-- A path leads through conjunctions only if it begins at one and goes on through them. -/
theorem conjoined_cons_iff (hq : p.inner[k]? = some q) :
    p.Conjoined (k :: path) ↔ p.op? = some .and ∧ q.Conjoined path := by
  constructor
  · intro h
    refine ⟨h [] List.nil_prefix (List.cons_ne_nil k path).symm, fun mid hmid hne => ?_⟩
    rw [← opAt?_cons_of_getElem? hq]
    exact h (k :: mid) ((List.prefix_cons_inj k).mpr hmid) fun heq => hne (List.cons.inj heq).2
  · rintro ⟨hand, h⟩ mid hmid hne
    rcases List.prefix_cons_iff.mp hmid with rfl | ⟨mid, rfl, hmid'⟩
    · exact hand
    · rw [opAt?_cons_of_getElem? hq]
      exact h mid hmid' fun heq => hne (by rw [heq])

/-- A path leads through conjunctions up to its last step exactly when every part before is one. -/
theorem conjoined_concat_iff :
    p.Conjoined (path ++ [k]) ↔ ∀ mid, mid <+: path → p.opAt? mid = some .and := by
  constructor
  · intro h mid hmid
    refine h mid (hmid.trans (List.prefix_append path [k])) fun heq => ?_
    have hle := hmid.length_le
    rw [heq, List.length_append] at hle
    exact absurd hle (by simp)
  · intro h mid hmid hne
    exact h mid ((List.prefix_concat_iff.mp hmid).resolve_left hne)

/-- The column compared at a place, if there are only conjunctions above the place. -/
def conjunct? (p : Part) (path : List Nat) : Option String :=
  if p.Conjoined path then p.columnAt? path else none

/-- The columns compared at the places above which there are only conjunctions. -/
def conjuncts (p : Part) : List String := (p.paths true).filterMap p.conjunct?

/-- The conjunct at a part itself is the column that it compares. -/
theorem conjunct?_nil (p : Part) : p.conjunct? [] = p.column? := if_pos p.conjoined_nil

/-- A conjunction has the conjuncts of all parts inside. -/
theorem conjuncts_of_and (h : p.op? = some .and) : p.conjuncts = p.inner.flatMap conjuncts := by
  have hstep (k : Nat) (q : Part) (hq : p.inner[k]? = some q) :
      (q.paths true).filterMap (fun path => p.conjunct? (k :: path)) = q.conjuncts := by
    refine List.filterMap_congr fun path _ => ?_
    simp only [conjunct?, conjoined_cons_iff hq, h, true_and, columnAt?_cons_of_getElem? hq]
  rw [conjuncts, filterMap_paths hstep, conjunct?_nil, column?_of_and h, Option.toList_none,
    List.nil_append, ← List.flatMap_append, List.take_append_drop]

/-- Nothing else is looked into. -/
theorem conjuncts_of_not_and (h : p.op? ≠ some .and) : p.conjuncts = p.column?.toList := by
  have hstep (k : Nat) (q : Part) (hq : p.inner[k]? = some q) :
      (q.paths true).filterMap (fun path => p.conjunct? (k :: path)) = [] := by
    rw [List.filterMap_eq_nil_iff]
    exact fun path _ => if_neg fun hpath => h ((conjoined_cons_iff hq).mp hpath).1
  have hnone (parts : List Part) : parts.flatMap (fun _ => ([] : List String)) = [] := by simp
  rw [conjuncts, filterMap_paths hstep, conjunct?_nil, hnone, hnone, List.nil_append,
    List.append_nil]

/-- The parts inside a regular part are regular. -/
theorem Regular.of_mem_inner (h : p.Regular) (hq : q ∈ p.inner) : q.Regular :=
  fun parent e hin => h parent e (isIn_iff.mpr (.inr ⟨q, hq, hin⟩))

/-- The part at the end of a path is regular if the whole is. -/
theorem Regular.of_at? (h : p.Regular) (hat : p.at? path = some q) : q.Regular := by
  induction path generalizing p with
  | nil => exact Option.some.inj hat ▸ h
  | cons k path ih =>
    rw [at?_cons, Option.bind_eq_some_iff] at hat
    obtain ⟨c, hc, hat⟩ := hat
    exact ih (h.of_mem_inner (List.mem_of_getElem? hc)) hat

/-- The stack of a chain gathers the conjuncts of its top. -/
theorem conjuncts_expr {parent : Option Op} {e : Expr} (h : (expr parent e).Regular) :
    (expr parent e).conjuncts = e.comparedColumns := by
  generalize hp : expr parent e = p at h ⊢
  induction p using Part.induct generalizing parent e with
  | h p ih =>
    subst hp
    by_cases hand : e.op = .and
    · obtain ⟨-, -, hselect, hlist⟩ := h parent e (.refl _) hand
      have hinner : (expr parent e).inner = e.operands.map (expr (some e.op)) := by
        simp [inner, before, behind, Expr.operands, hselect, hlist]
      have hop : (expr parent e).op? = some .and := congrArg some hand
      rw [conjuncts_of_and hop, Expr.comparedColumns_of_and (beq_iff_eq.mpr hand), hinner,
        List.flatMap_map]
      refine List.flatMap_congr fun c hc => ?_
      have hmem : expr (some e.op) c ∈ (expr parent e).inner := by
        rw [hinner]
        exact List.mem_map_of_mem hc
      exact ih _ hmem rfl (h.of_mem_inner hmem)
    · have hnot : ¬(e.op == .and) = true := mt eq_of_beq hand
      have hop : (expr parent e).op? ≠ some .and := fun heq => hand (Option.some.inj heq)
      rw [conjuncts_of_not_and hop, column?]
      by_cases hcompares : e.op.isIndexComparison = true
      · rw [if_pos hcompares, Expr.comparedColumns_of_comparison hnot hcompares, Option.toList_map]
      · rw [if_neg hcompares, Expr.comparedColumns_of_other hnot hcompares, Option.toList_none]

/-- The column compared at a place, if the place is directly inside a chain. -/
def member? (p : Part) (top path : List Nat) : Option String :=
  if p.InChain top path.dropLast then p.columnAt? path else none

/-- The columns of a chain are found on one way through the tree. -/
theorem columns_eq_filterMap (p : Part) (top : List Nat) :
    p.columns top = (p.paths true).filterMap (p.member? top) := by
  rw [columns, members, List.filterMap_filter]
  refine List.filterMap_congr fun path _ => ?_
  rw [member?]
  cases p.columnAt? path <;> simp

/-- Members of a chain are below its top. -/
theorem isPrefixOf_of_member? (h : p.member? top path ≠ none) : top.isPrefixOf path = true := by
  rw [member?, ne_eq, ite_eq_right_iff, Classical.not_imp] at h
  rw [List.isPrefixOf_iff_prefix]
  exact h.1.1.trans (List.dropLast_prefix path)

/-- Behind a top, what is directly inside its chain is what has only conjunctions above it. -/
theorem member?_append (hat : p.at? top = some q) (hand : q.op? = some .and) (rest : List Nat) :
    p.member? top (top ++ rest) = q.conjunct? rest := by
  have hopAt (rest : List Nat) : p.opAt? (top ++ rest) = q.opAt? rest := by
    rw [opAt?, at?_append_of_eq_some hat, opAt?]
  have hcolumnAt : p.columnAt? (top ++ rest) = q.columnAt? rest := by
    rw [columnAt?, at?_append_of_eq_some hat, columnAt?]
  rw [member?, conjunct?, hcolumnAt]
  rcases List.eq_nil_or_concat rest with rfl | ⟨rest, k, rfl⟩
  · -- The top itself is no comparison.
    have hhere : q.columnAt? [] = none := column?_of_and hand
    simp [hhere]
  · have hiff : p.InChain top (top ++ rest) ↔ q.Conjoined (rest ++ [k]) := by
      rw [conjoined_concat_iff]
      constructor
      · intro h mid hmid
        rw [← hopAt]
        exact h.2 (top ++ mid) (List.prefix_append top mid)
          ((List.prefix_append_right_inj top).mpr hmid)
      · intro h
        refine ⟨List.prefix_append top rest, ?_⟩
        rintro _ ⟨mid, rfl⟩ hmid
        rw [hopAt]
        exact h mid ((List.prefix_append_right_inj top).mp hmid)
    rw [List.concat_eq_append, ← List.append_assoc, List.dropLast_concat]
    simp only [hiff]

/-- The columns of a chain are the conjuncts of its top. -/
theorem columns_eq_conjuncts (hat : p.at? top = some q) (hand : q.op? = some .and) :
    p.columns top = q.conjuncts := by
  have hbehind (path : List Nat) :
      p.member? top path = if top.isPrefixOf path then p.member? top path else none := by
    by_cases hmember : p.member? top path = none
    · rw [hmember, ite_self]
    · rw [if_pos (isPrefixOf_of_member? hmember)]
  calc p.columns top
      = (p.paths true).filterMap fun path =>
          if top.isPrefixOf path then p.member? top path else none := by
        rw [columns_eq_filterMap]
        exact List.filterMap_congr fun path _ => hbehind path
    _ = ((p.paths true).filter fun path => top.isPrefixOf path).filterMap (p.member? top) := by
        rw [List.filterMap_filter]
    _ = (q.paths true).filterMap fun rest => p.member? top (top ++ rest) := by
        rw [filter_paths hat, List.filterMap_map]
        rfl
    _ = q.conjuncts := List.filterMap_congr fun rest _ => member?_append hat hand rest

/-- An expression is told the tag of what is directly around it. -/
theorem parent_eq_op? {parent : Option Op} {e : Expr} (h : expr parent e ∈ c.inner) :
    parent = c.op? := by
  cases c with
  | select s =>
    simp only [inner, before, behind, List.nil_append, List.mem_append, List.mem_map, reduceCtorEq,
      and_false, exists_false, expr.injEq, false_or, or_false, or_assoc] at h
    rcases h with ⟨-, -, rfl, -⟩ | ⟨-, -, rfl, -⟩ | ⟨-, -, rfl, -⟩ | ⟨-, -, rfl, -⟩ | ⟨-, -, rfl, -⟩
      | ⟨-, -, rfl, -⟩ | ⟨-, -, rfl, -⟩
    all_goals rfl
  | source reader s =>
    simp only [inner, before, behind, List.mem_append, List.mem_map, reduceCtorEq, and_false,
      exists_false, expr.injEq, false_or] at h
    obtain ⟨-, -, rfl, -⟩ := h
    rfl
  | expr outer o =>
    simp only [inner, before, behind, List.mem_append, List.mem_map, reduceCtorEq, and_false,
      exists_false, expr.injEq, or_false] at h
    rcases h with ⟨-, -, rfl, -⟩ | ⟨-, -, rfl, -⟩ | ⟨-, -, rfl, -⟩
    all_goals rfl

/-- The expression at the top of a chain, if a part is one. -/
def top? : Part → Option Expr
  | expr parent e => if e.op = .and ∧ parent ≠ some .and then some e else none
  | _ => none

/-- A conjunction that is told of no conjunction around it is a top. -/
theorem isTop_iff {root : Select} {parent : Option Op} {e : Expr}
    (hat : (select root).at? path = some (expr parent e)) :
    (select root).IsTop path ↔ e.op = .and ∧ parent ≠ some .and := by
  have hhere : (select root).opAt? path = some e.op := by
    rw [opAt?, hat]
    rfl
  have hparent : parent = (select root).opAt? path.dropLast := by
    rcases List.eq_nil_or_concat path with rfl | ⟨path, k, rfl⟩
    · cases hat
    · rw [List.concat_eq_append, at?_concat_eq_some_iff] at hat
      obtain ⟨c, hc, hk⟩ := hat
      rw [List.concat_eq_append, List.dropLast_concat, opAt?, hc, Option.bind_some,
        parent_eq_op? (List.mem_of_getElem? hk)]
  rw [IsTop, hhere, ← hparent, Option.some.injEq]

end Outline.Part

namespace Analysis

open Outline

variable {limit : Nat} {root : Select}

/-- The top of a chain at a stop is that of the part where the stop is made. -/
theorem Visit.chainTop?_eq (v : Visit) : v.chainTop? = (v.partAt? true).bind Part.top? := by
  rcases v with _ | ⟨d, _ | _ | _⟩ <;> rfl

/-- At a place the walk gathers columns exactly if it is a top, and then those of its chain. -/
theorem map_top?_at? (hregular : (Part.select root).Regular) (path : List Nat) :
    (((Part.select root).at? path).bind Part.top?).map Expr.comparedColumns
      = if (Part.select root).IsTop path then some ((Part.select root).columns path) else none := by
  have hnot (h : (Part.select root).opAt? path = none) : ¬(Part.select root).IsTop path :=
    fun htop => by
    rw [htop.1] at h
    cases h
  cases hat : (Part.select root).at? path with
  | none => rw [if_neg (hnot (by rw [Part.opAt?, hat]; rfl))]; rfl
  | some q =>
    cases q with
    | select s => rw [if_neg (hnot (by rw [Part.opAt?, hat]; rfl))]; rfl
    | source reader s => rw [if_neg (hnot (by rw [Part.opAt?, hat]; rfl))]; rfl
    | expr parent e =>
      rw [Option.bind_some, Part.top?]
      by_cases htop : e.op = .and ∧ parent ≠ some .and
      · have hop : (Part.expr parent e).op? = some .and := congrArg some htop.1
        rw [if_pos htop, if_pos ((Part.isTop_iff hat).mpr htop), Option.map_some,
          Part.columns_eq_conjuncts hat hop, Part.conjuncts_expr (hregular.of_at? hat)]
      · rw [if_neg htop, if_neg (mt (Part.isTop_iff hat).mp htop), Option.map_none]

/-- The tops at which a walk stops are those at the places of the tops, and it gathers the columns
of their chains. -/
theorem map_chainTop?_visits (hregular : (Part.select root).Regular) :
    ((visits 0 (.select root)).filterMap Visit.chainTop?).map Expr.comparedColumns
      = (Part.select root).tops.map (Part.select root).columns := by
  rw [funext Visit.chainTop?_eq, filterMap_visits_bind, List.map_filterMap,
    funext (map_top?_at? hregular), Part.tops, ← List.filterMap_eq_map, List.filterMap_filter]
  simp only [decide_eq_true_iff, Function.comp_apply]

/-- The groups of a walk are the columns of the chains, if there is more than one. -/
theorem columnGroups_eq_columns (hregular : (Part.select root).Regular)
    (hwhole : (ofSelect limit root).truncated = false) :
    (ofSelect limit root).columnGroups
      = ((Part.select root).tops.map (Part.select root).columns).filter fun columns => 1
        < columns.length := by
  rw [columnGroups_ofSelect, shallowVisits_of_whole hwhole, flatMap_groups,
    map_chainTop?_visits hregular]

/-! ### Any number of walks -/

/-- Every group has several columns, and the flag tells whether there are groups. -/
structure Grouped (a : Analysis) : Prop where
  several : ∀ columns ∈ a.columnGroups, 2 ≤ columns.length
  flag : a.hasAnd = true ↔ a.columnGroups ≠ []

/-- At the start no group is recorded. -/
theorem grouped_start : start.Grouped where
  several := fun _ h => by cases h
  flag := by decide

/-- A group that a stop records has two columns at least. -/
theorem two_le_length_of_mem_groups {v : Visit} {columns : List String} (h : columns ∈ v.groups) :
    2 ≤ columns.length :=
  of_decide_eq_true (List.mem_filter.mp h).2

/-- One more walk adds the groups of its stops and sets the flag if there are any. -/
theorem Grouped.process {a : Analysis} (h : a.Grouped) (limit : Nat) (root : Select) :
    (a.process limit root).Grouped := by
  have hfollow : a.process limit root = follow limit (visits a.depth (.select root)) a :=
    visitSelect_eq_follow limit root a
  rw [hfollow, follow_eq_foldl_filter]
  generalize (visits a.depth (.select root)).filter (fun v => v.depth < limit) = stops
  have hextends := Extends.foldl stops a
  constructor
  · intro columns hcolumns
    rw [hextends.columnGroups, List.mem_append, List.mem_flatMap] at hcolumns
    rcases hcolumns with hcolumns | ⟨v, -, hcolumns⟩
    · exact h.several columns hcolumns
    · exact two_le_length_of_mem_groups hcolumns
  · rw [hextends.hasAnd, hextends.columnGroups, Bool.or_eq_true, h.flag, ne_eq, ne_eq,
      List.append_eq_nil_iff, List.flatMap_eq_nil_iff, not_and_or]
    simp

/-- The groups of any number of passes are grouped. -/
theorem grouped_passes (limit : Nat) (root : Select) (n : Nat) : (passes limit root n).Grouped := by
  induction n with
  | zero => exact grouped_start
  | succ n ih => exact ih.process limit root

end Analysis

end QueryLint
