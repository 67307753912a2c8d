import QueryLint.Proofs.Outline.Levels

/-!
# Heights of syntax trees

A node has an outline exactly if there are as many levels as the node is high
(`succeeds_lowerPart_iff`). Its height is counted on the syntax tree alone: the levels that lowering
enters at the node, and the height of the highest node directly inside it (`Sql.Part.height`). The
members of a compound query are lowered one behind the other, each with the one before; whether they
are lowered does not depend on which one that is.
-/

namespace QueryLint

namespace Sql.Part

/-- How many levels lowering needs for a node. -/
def height (p : Part) : Nat :=
  p.levels + (p.inner Outline.keepsConstraint).attach.foldr
    (fun q highest => max q.1.height highest) 0
termination_by p.size
decreasing_by exact size_lt_of_mem_inner q.2

/-- The height of a node is the levels it enters and the greatest height among the nodes that
lowering reaches inside it. -/
theorem height_eq (p : Part) :
    p.height
      = p.levels + (p.inner Outline.keepsConstraint).foldr
        (fun q highest => max q.height highest) 0 := by
  rw [height]
  simp

/-- A node is no higher than some levels if its own ones are among them and no node directly inside
is higher than the others. -/
theorem height_le_iff {p : Part} {n : Nat} :
    p.height ≤ n ↔ ∃ m, n = p.levels + m ∧ ∀ q ∈ p.inner Outline.keepsConstraint, q.height ≤ m := by
  have hfoldr : ∀ (parts : List Part) (m : Nat),
      parts.foldr (fun q highest => max q.height highest) 0 ≤ m ↔ ∀ q ∈ parts, q.height ≤ m := by
    intro parts m
    induction parts with
    | nil => simp
    | cons q rest ih => rw [List.foldr_cons, Nat.max_le, ih, List.forall_mem_cons]
  rw [height_eq]
  simp only [← hfoldr]
  constructor
  · intro h
    exact ⟨n - p.levels, by omega, by omega⟩
  · rintro ⟨m, rfl, h⟩
    exact Nat.add_le_add_left h _

end Sql.Part

namespace Outline

/-! ### What succeeds -/

/-- There is a result. -/
def Succeeds {α : Type} (x : Lowered α) : Prop := ∃ a, x = .ok a

section Results

variable {α β : Type}

/-- A lowering that does nothing succeeds. -/
@[simp] theorem succeeds_pure (a : α) : Succeeds (pure a) := ⟨a, rfl⟩

/-- A sequence succeeds exactly when its first half does and its second half does on that result. -/
theorem succeeds_bind_iff {x : Lowered α} {f : α → Lowered β} :
    Succeeds (x >>= f) ↔ ∃ a, x = .ok a ∧ Succeeds (f a) := by
  simp only [Succeeds, bind_eq_ok_iff]
  rw [exists_comm]
  simp only [exists_and_left]

/-- Succeeding is having a result. -/
@[simp] theorem exists_eq_ok_iff {x : Lowered α} : (∃ a, x = .ok a) ↔ Succeeds x := Iff.rfl

/-- Mapping over the result does not change whether a lowering succeeds. -/
@[simp] theorem succeeds_map_iff {x : Lowered α} {f : α → β} : Succeeds (f <$> x) ↔ Succeeds x := by
  simp only [Succeeds, map_eq_ok_iff]
  rw [exists_comm]
  simp

/-- A level is entered exactly when one is left, and the inside has one level less. -/
theorem succeeds_nested_iff {levels : Nat} {f : Nat → Lowered α} :
    Succeeds (nested levels f) ↔ ∃ m, levels = 1 + m ∧ Succeeds (f m) := by
  simp only [Succeeds, nested_eq_ok_iff]
  rw [exists_comm]
  simp only [exists_and_left, Nat.add_comm 1]

/-- A list is lowered exactly when each of its members is. -/
@[simp] theorem succeeds_mapM_iff {f : α → Lowered β} {as : List α} :
    Succeeds (as.mapM f) ↔ ∀ a ∈ as, Succeeds (f a) := by
  induction as with
  | nil => simp [succeeds_pure]
  | cons a rest ih =>
    simp [List.mapM_cons, succeeds_bind_iff, ← ih]

end Results

/-! ### Lowering nodes -/

/-- A node has an outline with so many levels, behind the member before it if the node is the body
of a query. -/
def IsLowered (levels : Nat) (prior : Option Select) : Sql.Part → Prop
  | .expr e => Succeeds (lowerExpr levels e)
  | .query q => Succeeds (lowerQuery levels q)
  | .body b => Succeeds (lowerSetExpr levels prior b)
  | .select s => Succeeds (lowerSelect levels s)
  | .tableJoins t => Succeeds (lowerTableJoins levels t)
  | .factor f => Succeeds (lowerTableFactor levels f)
  | .join j => Succeeds (lowerJoins levels [j])

/-- A node has an outline exactly if there are as many levels as it is high. -/
def NeedsHeight (p : Sql.Part) : Prop :=
  ∀ levels prior, IsLowered levels prior p ↔ p.height ≤ levels

section Kinds

variable {parts : List Sql.Part} {levels : Nat}

/-- That no node is higher than some levels means that all of them are lowered with these. -/
theorem forall_height_le_iff (h : ∀ q ∈ parts, NeedsHeight q) :
    (∀ q ∈ parts, q.height ≤ levels) ↔ ∀ q ∈ parts, IsLowered levels none q :=
  forall₂_congr fun q hq => (h q hq levels none).symm

/-- A node has no levels of its own. -/
theorem height_le_iff_of_levels_eq_zero {p : Sql.Part}
    (h : ∀ q ∈ p.inner keepsConstraint, NeedsHeight q) (hlevels : p.levels = 0) :
    p.height ≤ levels ↔ ∀ q ∈ p.inner keepsConstraint, IsLowered levels none q := by
  rw [← forall_height_le_iff h, Sql.Part.height_le_iff, hlevels]
  simp

/-- A node has one level of its own. -/
theorem height_le_iff_of_levels_eq_one {p : Sql.Part}
    (h : ∀ q ∈ p.inner keepsConstraint, NeedsHeight q) (hlevels : p.levels = 1) :
    p.height ≤ levels ↔ ∃ m, levels = 1 + m ∧ ∀ q ∈ p.inner keepsConstraint,
      IsLowered m none q := by
  rw [Sql.Part.height_le_iff, hlevels]
  exact exists_congr fun m => and_congr_right fun _ => forall_height_le_iff h

section Nodes

variable {prior : Option Select}

/-- An expression is lowered when `lowerExpr` succeeds on it. -/
@[simp] theorem isLowered_expr_iff {e : Sql.Expr} :
    IsLowered levels prior (.expr e) ↔ Succeeds (lowerExpr levels e) := Iff.rfl

/-- A query is lowered when `lowerQuery` succeeds on it. -/
@[simp] theorem isLowered_query_iff {q : Sql.Query} :
    IsLowered levels prior (.query q) ↔ Succeeds (lowerQuery levels q) := Iff.rfl

/-- The body of a query is lowered when `lowerSetExpr` succeeds on it. -/
@[simp] theorem isLowered_body_iff {b : Sql.SetExpr} :
    IsLowered levels prior (.body b) ↔ Succeeds (lowerSetExpr levels prior b) := Iff.rfl

/-- A select is lowered when `lowerSelect` succeeds on it. -/
@[simp] theorem isLowered_select_iff {s : Sql.Select} :
    IsLowered levels prior (.select s) ↔ Succeeds (lowerSelect levels s) := Iff.rfl

/-- A relation with its joins is lowered when `lowerTableJoins` succeeds on it. -/
@[simp] theorem isLowered_tableJoins_iff {t : Sql.TableJoins} :
    IsLowered levels prior (.tableJoins t) ↔ Succeeds (lowerTableJoins levels t) := Iff.rfl

/-- A table factor is lowered when `lowerTableFactor` succeeds on it. -/
@[simp] theorem isLowered_factor_iff {f : Sql.TableFactor} :
    IsLowered levels prior (.factor f) ↔ Succeeds (lowerTableFactor levels f) := Iff.rfl

/-- A join is lowered when `lowerJoins` succeeds on it alone. -/
@[simp] theorem isLowered_join_iff {j : Sql.Join} :
    IsLowered levels prior (.join j) ↔ Succeeds (lowerJoins levels [j]) := Iff.rfl

end Nodes

/-- An optional expression is lowered exactly when the expression, if there is one, is. -/
theorem succeeds_lowerExpr?_iff (e : Option Sql.Expr) :
    Succeeds (lowerExpr? levels e) ↔ ∀ e' ∈ e.toList, Succeeds (lowerExpr levels e') := by
  cases e with
  | none => simp [lowerExpr?]
  | some e => simp [lowerExpr?]

/-- A call is lowered exactly when each node among its arguments is. -/
theorem succeeds_lowerCall_iff (name : String) (arguments : Sql.Arguments) :
    Succeeds (lowerCall levels name arguments)
      ↔ ∀ q ∈ Sql.Part.ofArguments arguments, IsLowered levels none q := by
  cases arguments with
  | absent => simp [lowerCall, Sql.Part.ofArguments]
  | query query => simp [lowerCall, Sql.Part.ofArguments]
  | list quantifier arguments clauses =>
    rw [Sql.Part.ofArguments, List.forall_mem_map]
    simp [lowerCall, lowerArguments_eq_mapM]

/-- The rows of a LIMIT are lowered exactly when each of their expressions is. -/
theorem succeeds_lowerLimit_iff (limit : Sql.Limit) :
    Succeeds (lowerLimit levels limit) ↔ ∀ e ∈ limit.exprs, Succeeds (lowerExpr levels e) := by
  cases limit with
  | clauses count offset tail =>
    simp [lowerLimit, Sql.Limit.exprs, succeeds_bind_iff, succeeds_lowerExpr?_iff,
      or_imp, forall_and]
  | comma offset count =>
    simp [lowerLimit, Sql.Limit.exprs, succeeds_bind_iff, and_comm]

/-- The items of a projection are lowered exactly when each of their expressions is. -/
theorem succeeds_lowerItems_iff (items : List Sql.SelectItem) :
    Succeeds (lowerItems levels items)
      ↔ ∀ e ∈ items.flatMap Sql.SelectItem.exprs, Succeeds (lowerExpr levels e) := by
  induction items with
  | nil => simp [lowerItems]
  | cons item rest ih =>
    rw [List.flatMap_cons, List.forall_mem_append, ← ih]
    cases item <;> simp [lowerItems, Sql.SelectItem.exprs, succeeds_bind_iff]

/-- The constraint of a join is lowered exactly when its expressions are, or when the operator drops
it. -/
theorem succeeds_lowerConstraint_iff (kept : Bool) (constraint : Sql.JoinConstraint)
    (found : List Source) :
    Succeeds (lowerConstraint levels kept constraint found)
      ↔ (kept = true → ∀ e ∈ constraint.exprs, Succeeds (lowerExpr levels e)) := by
  cases kept <;> cases constraint <;> simp [lowerConstraint, Sql.JoinConstraint.exprs]

/-- An expression needs its height if the nodes inside it do. -/
theorem needsHeight_expr {e : Sql.Expr}
    (h : ∀ p ∈ (Sql.Part.expr e).inner keepsConstraint, NeedsHeight p) : NeedsHeight (.expr e) := by
  intro levels prior
  rw [height_le_iff_of_levels_eq_one h rfl, isLowered_expr_iff, lowerExpr, succeeds_nested_iff]
  refine exists_congr fun m => and_congr_right fun _ => ?_
  rw [Sql.Part.inner]
  cases e with
  | ident | compound | value | verbatim => simp [Sql.Part.ofExpr]
  | call braced name parameters arguments suffix =>
    exact succeeds_lowerCall_iff name.render arguments
  | _ =>
    simp only [Sql.Part.ofExpr, List.forall_mem_cons, List.forall_mem_append, List.forall_mem_map]
    simp [succeeds_bind_iff, lowerExprs_eq_mapM, lowerBranches_eq_mapM, succeeds_lowerExpr?_iff,
      and_assoc, and_comm, and_left_comm]

/-- A query needs its height if the nodes inside it do. -/
theorem needsHeight_query {q : Sql.Query}
    (h : ∀ p ∈ (Sql.Part.query q).inner keepsConstraint, NeedsHeight p) :
    NeedsHeight (.query q) := by
  intro levels prior
  rw [height_le_iff_of_levels_eq_one h rfl, isLowered_query_iff, lowerQuery,
    succeeds_nested_iff]
  refine exists_congr fun m => and_congr_right fun _ => ?_
  obtain ⟨recursive, ctes, body, orderBy, limit, tail⟩ := q
  simp only [Sql.Part.inner, Sql.Part.ofQuery, List.forall_mem_cons, List.forall_mem_append,
    List.forall_mem_map]
  simp [succeeds_bind_iff, lowerCtes_eq_mapM, lowerOrderBy_eq_mapM, succeeds_lowerLimit_iff,
    and_assoc]

/-- The body of a query needs its height if the nodes inside it do. -/
theorem needsHeight_body {b : Sql.SetExpr}
    (h : ∀ p ∈ (Sql.Part.body b).inner keepsConstraint, NeedsHeight p) : NeedsHeight (.body b) := by
  intro levels prior
  rw [isLowered_body_iff]
  cases b with
  | operation left op quantifier right =>
    obtain ⟨hleft, hright⟩ : NeedsHeight (.body left) ∧ NeedsHeight (.body right) := by
      simpa [Sql.Part.inner, Sql.Part.ofBody] using h
    -- The members on the right are lowered or not whatever the member before them is.
    have hbehind : ∀ m first,
        Succeeds (lowerSetExpr m (some first) right) ↔ (Sql.Part.body right).height ≤ m :=
      fun m first => hright m (some first)
    have hbefore : ∀ m, Succeeds (lowerSetExpr m prior left) ↔ (Sql.Part.body left).height ≤ m :=
      fun m => hleft m prior
    rw [Sql.Part.height_le_iff, lowerSetExpr, succeeds_bind_iff]
    simp only [succeeds_nested_iff, hbehind, exists_and_right, exists_eq_ok_iff, hbefore]
    simp only [Sql.Part.inner, Sql.Part.ofBody, Sql.Part.levels, List.forall_mem_cons,
      List.not_mem_nil, false_implies, implies_true, and_true]
    constructor
    · rintro ⟨⟨m, rfl, hleft⟩, m', hm, hright⟩
      exact ⟨m, rfl, hleft, by omega⟩
    · rintro ⟨m, rfl, hleft, hright⟩
      exact ⟨⟨m, rfl, hleft⟩, m, rfl, hright⟩
  | values keyword row rows =>
    rw [height_le_iff_of_levels_eq_zero h rfl, Sql.Part.inner, Sql.Part.ofBody, List.forall_mem_map]
    simp [lowerSetExpr, lowerRows_eq_mapM]
  | _ =>
    rw [height_le_iff_of_levels_eq_zero h rfl, Sql.Part.inner]
    simp [Sql.Part.ofBody, lowerSetExpr]

/-- A select needs its height if the nodes inside it do. -/
theorem needsHeight_select {s : Sql.Select}
    (h : ∀ p ∈ (Sql.Part.select s).inner keepsConstraint, NeedsHeight p) :
    NeedsHeight (.select s) := by
  intro levels prior
  rw [height_le_iff_of_levels_eq_zero h rfl, isLowered_select_iff]
  obtain ⟨form, head, projection, into, sources, beforeWhere, selection, groupBy,
    beforeHaving, having, tail⟩ := s
  simp only [Sql.Part.inner, Sql.Part.ofSelect, List.forall_mem_append, List.forall_mem_map]
  simp [lowerSelect, succeeds_bind_iff, succeeds_lowerItems_iff, lowerSources_eq_mapM,
    lowerGroupBy_eq_mapM, succeeds_lowerExpr?_iff, and_assoc]

/-- A relation with its joins needs its height if the nodes inside it do. -/
theorem needsHeight_tableJoins {t : Sql.TableJoins}
    (h : ∀ p ∈ (Sql.Part.tableJoins t).inner keepsConstraint, NeedsHeight p) :
    NeedsHeight (.tableJoins t) := by
  intro levels prior
  rw [height_le_iff_of_levels_eq_zero h rfl, isLowered_tableJoins_iff]
  obtain ⟨relation, joins⟩ := t
  rw [lowerTableJoins, lowerJoins_eq_mapM]
  simp [Sql.Part.inner, Sql.Part.ofTableJoins, succeeds_bind_iff]

/-- A table factor needs its height if the nodes inside it do. -/
theorem needsHeight_factor {f : Sql.TableFactor}
    (h : ∀ p ∈ (Sql.Part.factor f).inner keepsConstraint, NeedsHeight p) :
    NeedsHeight (.factor f) := by
  intro levels prior
  rw [isLowered_factor_iff]
  cases f with
  | nested inner aliasName =>
    rw [height_le_iff_of_levels_eq_one h rfl, lowerTableFactor, succeeds_nested_iff]
    simp [Sql.Part.inner, Sql.Part.ofFactor]
  | _ =>
    rw [height_le_iff_of_levels_eq_zero h rfl]
    simp [Sql.Part.inner, Sql.Part.ofFactor, lowerTableFactor]

/-- A join needs its height if the nodes inside it do. -/
theorem needsHeight_join {j : Sql.Join}
    (h : ∀ p ∈ (Sql.Part.join j).inner keepsConstraint, NeedsHeight p) : NeedsHeight (.join j) := by
  intro levels prior
  rw [height_le_iff_of_levels_eq_zero h rfl, isLowered_join_iff]
  obtain ⟨isGlobal, kind, relation, constraint⟩ := j
  rw [Sql.Part.inner, Sql.Part.ofJoin, List.forall_mem_cons, lowerJoins]
  cases keepsConstraint kind <;>
    simp [lowerJoins, succeeds_bind_iff, succeeds_lowerConstraint_iff]

end Kinds

/-- A node has an outline exactly if there are as many levels as it is high. -/
theorem isLowered_iff (levels : Nat) (prior : Option Select) (p : Sql.Part) :
    IsLowered levels prior p ↔ p.height ≤ levels := by
  suffices NeedsHeight p from this levels prior
  induction p using Sql.Part.induct keepsConstraint with
  | h p ih =>
    cases p with
    | expr e => exact needsHeight_expr ih
    | query q => exact needsHeight_query ih
    | body b => exact needsHeight_body ih
    | select s => exact needsHeight_select ih
    | tableJoins t => exact needsHeight_tableJoins ih
    | factor f => exact needsHeight_factor ih
    | join j => exact needsHeight_join ih

end Outline

end QueryLint
