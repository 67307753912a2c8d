import QueryLint.Outline.Lowering
import QueryLint.Proofs.Results
import QueryLint.Proofs.Sql.Parts

/-!
# Lowering member by member

A level more gives a result just if there is one and what is lowered within it gives one
(`nested_eq_ok_iff`). The functions on lists are `mapM`s, so that one lemma (`exists_mem_mapM_iff`)
speaks of all of them.
-/

namespace QueryLint.Outline

/-! ### Results -/

section Results

variable {α β : Type}

/-- A level gives a result exactly when one is left, and the inside gives it with one level less. -/
theorem nested_eq_ok_iff {levels : Nat} {f : Nat → Lowered α} {a : α} :
    nested levels f = .ok a ↔ ∃ n, levels = n + 1 ∧ f n = .ok a := by
  cases levels with
  | zero =>
    constructor
    · intro h
      cases h
    · rintro ⟨n, h, -⟩
      cases h
  | succ n =>
    constructor
    · intro h
      exact ⟨n, rfl, h⟩
    · rintro ⟨m, h, hf⟩
      cases h
      exact hf

/-- If results have something exactly if what they are results of has something, so have lists of
results and of what they are results of. -/
theorem exists_mem_mapM_iff {f : α → Lowered β} {p : α → Prop} {q : β → Prop} {as : List α}
    (h : ∀ a ∈ as, ∀ b, f a = .ok b → (q b ↔ p a)) {bs : List β} (hm : as.mapM f = .ok bs) :
    (∃ b ∈ bs, q b) ↔ ∃ a ∈ as, p a := by
  induction as generalizing bs with
  | nil =>
    rw [List.mapM_nil, pure_eq_ok_iff] at hm
    subst hm
    simp
  | cons a as ih =>
    simp only [List.mapM_cons, bind_eq_ok_iff, pure_eq_ok_iff] at hm
    obtain ⟨b, hb, bs, hbs, rfl⟩ := hm
    have hhead : q b ↔ p a := h a List.mem_cons_self b hb
    have htail : (∃ b ∈ bs, q b) ↔ ∃ a ∈ as, p a :=
      ih (fun a ha => h a (List.mem_cons_of_mem _ ha)) hbs
    simp only [List.mem_cons, exists_eq_or_imp, hhead, htail]

end Results

/-- Without levels there is no outline of an expression. -/
@[simp] theorem lowerExpr_zero (e : Sql.Expr) : lowerExpr 0 e = .error .tooDeep := by
  rw [lowerExpr, nested]

/-! ### Lists are lowered member by member -/

section Lists

variable (levels : Nat)

/-- Expressions are lowered one by one. -/
theorem lowerExprs_eq_mapM (es : List Sql.Expr) :
    lowerExprs levels es = es.mapM (lowerExpr levels) := by
  induction es with
  | nil => rfl
  | cons e rest ih => rw [lowerExprs, List.mapM_cons, ih]

/-- The branches of a CASE are lowered expression by expression. -/
theorem lowerBranches_eq_mapM (branches : List Sql.Branch) :
    lowerBranches levels branches = (branches.flatMap Sql.Branch.exprs).mapM
      (lowerExpr levels) := by
  induction branches with
  | nil => rfl
  | cons b rest ih =>
    obtain ⟨condition, result⟩ := b
    simp [lowerBranches, Sql.Branch.exprs, ih]

/-- Arguments are lowered expression by expression. -/
theorem lowerArguments_eq_mapM (arguments : List Sql.Argument) :
    lowerArguments levels arguments
      = (arguments.flatMap Sql.Argument.exprs).mapM (lowerExpr levels) := by
  induction arguments with
  | nil => rfl
  | cons a rest ih => cases a <;> simp [lowerArguments, Sql.Argument.exprs, ih]

/-- The keys of an ORDER BY are lowered one by one. -/
theorem lowerKeys_eq_mapM (keys : List Sql.OrderKey) :
    lowerKeys levels keys = (keys.map Sql.OrderKey.expr).mapM (lowerExpr levels) := by
  induction keys with
  | nil => rfl
  | cons key rest ih =>
    obtain ⟨key, options⟩ := key
    simp [lowerKeys, Sql.OrderKey.expr, ih]

/-- So is the whole clause. -/
theorem lowerOrderBy_eq_mapM (o : Sql.OrderBy) :
    lowerOrderBy levels o = o.exprs.mapM (lowerExpr levels) := by
  obtain ⟨keys, tail⟩ := o
  exact lowerKeys_eq_mapM levels keys

/-- The keys of a GROUP BY are lowered one by one. -/
theorem lowerGroupBy_eq_mapM (g : Sql.GroupBy) :
    lowerGroupBy levels g = g.exprs.mapM (lowerExpr levels) := by
  cases g with
  | keys keys modifiers => exact lowerExprs_eq_mapM levels keys
  | all modifiers => rfl

/-- The rows of a VALUES are lowered one value after the other. -/
theorem lowerRows_eq_mapM (rows : List (List Sql.Expr)) :
    lowerRows levels rows = rows.flatten.mapM (lowerExpr levels) := by
  induction rows with
  | nil => rfl
  | cons row rest ih =>
    rw [lowerRows, List.flatten_cons, List.mapM_append, lowerExprs_eq_mapM, ih]

/-- Common table expressions are lowered query by query. -/
theorem lowerCtes_eq_mapM (ctes : List Sql.Cte) :
    lowerCtes levels ctes = (ctes.map Sql.Cte.query).mapM (lowerQuery levels) := by
  induction ctes with
  | nil => rfl
  | cons c rest ih =>
    obtain ⟨aliasName, hint, query, source⟩ := c
    simp [lowerCtes, Sql.Cte.query, ih]

/-- The relations of a FROM are lowered one by one, and their sources listed in this order. -/
theorem lowerSources_eq_mapM (tables : List Sql.TableJoins) :
    lowerSources levels tables = List.flatten <$> tables.mapM (lowerTableJoins levels) := by
  induction tables with
  | nil => rfl
  | cons t rest ih => simp [lowerSources, ih]

/-- Joins are lowered one by one, and their sources listed in this order. -/
theorem lowerJoins_eq_mapM (joins : List Sql.Join) :
    lowerJoins levels joins = List.flatten <$> joins.mapM fun j => lowerJoins levels [j] := by
  induction joins with
  | nil => rfl
  | cons j rest ih =>
    obtain ⟨isGlobal, kind, relation, constraint⟩ := j
    simp [lowerJoins, ih]

end Lists

end QueryLint.Outline
