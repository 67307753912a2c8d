import QueryLint.Proofs.Outline.Limits
import QueryLint.Proofs.Sql.Wrappers

/-!
# Wrapped expressions in outlines

Parentheses and collations cost levels and leave nothing in an outline: what has an outline has the
same one without them, with as many levels or more (`lowerQuery_unwrapped` and its companions, one
for each function of lowering). So two queries that differ only in what is wrapped have the same
outline, whatever the limits under which they have one (`lowerQuery_eq_of_unwrapped_eq`).
-/

namespace QueryLint.Outline

/-- A join keeps its condition whether or not it is unwrapped. -/
theorem keepsConstraint_unwrapped (kind : Sql.JoinKind) :
    keepsConstraint kind.unwrapped = keepsConstraint kind := by
  cases kind <;> rfl

mutual

/-- An expression without its wrappers lowers alike, with at least as many levels. -/
theorem lowerExpr_unwrapped {n m : Nat} (h : n ≤ m) (e : Sql.Expr) :
    Refines (lowerExpr n e) (lowerExpr m e.unwrapped) := by
  cases n with
  | zero =>
    rw [lowerExpr_zero]
    intro _ hresult
    cases hresult
  | succ k =>
    obtain ⟨l, rfl⟩ : ∃ l, m = l + 1 := ⟨m - 1, by omega⟩
    have h : k ≤ l := Nat.le_of_succ_le_succ h
    cases e with
    | ident | compound | value | verbatim => exact .refl _
    -- The level that a wrapper costs is left over.
    | nested inner | collate inner collation =>
      exact lowerExpr_unwrapped (Nat.le_succ_of_le h) inner
    | binary left op right =>
      exact (lowerExpr_unwrapped h left).bind fun _ => (lowerExpr_unwrapped h right).bind_pure
    | unary op operand => exact (lowerExpr_unwrapped h operand).bind_pure
    | pattern kind negated any operand pattern escape =>
      exact (lowerExpr_unwrapped h operand).bind fun _ => (lowerExpr_unwrapped h pattern).bind_pure
    | inList operand negated members =>
      exact (lowerExpr_unwrapped h operand).bind fun _ => (lowerExprs_unwrapped h members).bind_pure
    | inQuery operand negated query =>
      exact (lowerExpr_unwrapped h operand).bind fun _ => (lowerQuery_unwrapped h query).bind_pure
    | isNull operand => exact (lowerExpr_unwrapped h operand).bind_pure
    | isNotNull operand => exact (lowerExpr_unwrapped h operand).bind_pure
    | isTruth operand negated truth => exact (lowerExpr_unwrapped h operand).bind_pure
    | distinct left same right =>
      exact (lowerExpr_unwrapped h left).bind fun _ => (lowerExpr_unwrapped h right).bind_pure
    | between operand negated low high =>
      exact (lowerExpr_unwrapped h operand).bind fun _ =>
        (lowerExpr_unwrapped h low).bind fun _ => (lowerExpr_unwrapped h high).bind_pure
    | subquery query => exact (lowerQuery_unwrapped h query).bind_pure
    | «exists» negated query => exact (lowerQuery_unwrapped h query).bind_pure
    | call braced name parameters arguments suffix =>
      exact lowerCall_unwrapped h name.render arguments
    | case operand branches otherwise =>
      exact (lowerBranches_unwrapped h branches).bind fun _ =>
        (lowerExpr?_unwrapped h otherwise).bind fun _ => (lowerExpr?_unwrapped h operand).bind_pure
    | cast form operand type => exact (lowerExpr_unwrapped h operand).bind_pure

theorem lowerExpr?_unwrapped {n m : Nat} (h : n ≤ m) :
    ∀ e : Option Sql.Expr, Refines (lowerExpr? n e) (lowerExpr? m (Sql.exprUnwrapped? e))
  | none => .refl _
  | some e => (lowerExpr_unwrapped h e).bind_pure

theorem lowerExprs_unwrapped {n m : Nat} (h : n ≤ m) :
    ∀ es : List Sql.Expr, Refines (lowerExprs n es) (lowerExprs m (Sql.exprsUnwrapped es))
  | [] => .refl _
  | e :: rest => (lowerExpr_unwrapped h e).bind fun _ => (lowerExprs_unwrapped h rest).bind_pure

theorem lowerBranches_unwrapped {n m : Nat} (h : n ≤ m) :
    ∀ branches : List Sql.Branch,
      Refines (lowerBranches n branches) (lowerBranches m (Sql.branchesUnwrapped branches))
  | [] => .refl _
  | .mk condition result :: rest =>
    (lowerExpr_unwrapped h condition).bind fun _ =>
      (lowerExpr_unwrapped h result).bind fun _ => (lowerBranches_unwrapped h rest).bind_pure

theorem lowerCall_unwrapped {n m : Nat} (h : n ≤ m) (name : String) :
    ∀ arguments : Sql.Arguments, Refines (lowerCall n name arguments)
      (lowerCall m name arguments.unwrapped)
  | .absent => .refl _
  | .query query => (lowerQuery_unwrapped h query).bind_pure
  | .list _ arguments _ => (lowerArguments_unwrapped h arguments).bind_pure

theorem lowerArguments_unwrapped {n m : Nat} (h : n ≤ m) :
    ∀ arguments : List Sql.Argument,
      Refines (lowerArguments n arguments) (lowerArguments m (Sql.argumentsUnwrapped arguments))
  | [] => .refl _
  | .positional value :: rest =>
    (lowerExpr_unwrapped h value).bind fun _ => (lowerArguments_unwrapped h rest).bind_pure
  | .named _ _ value :: rest =>
    (lowerExpr_unwrapped h value).bind fun _ => (lowerArguments_unwrapped h rest).bind_pure
  | .verbatim _ :: rest => lowerArguments_unwrapped h rest

/-- A query without its wrappers lowers alike, with at least as many levels. -/
theorem lowerQuery_unwrapped {n m : Nat} (h : n ≤ m) (q : Sql.Query) :
    Refines (lowerQuery n q) (lowerQuery m q.unwrapped) := by
  rw [lowerQuery, lowerQuery]
  refine .nested h fun k l h => ?_
  obtain ⟨recursive, ctes, body, orderBy, limit, tail⟩ := q
  exact (lowerSetExpr_unwrapped h none body).bind fun _ =>
    (lowerCtes_unwrapped h ctes).bind fun _ =>
    (lowerOrderBy_unwrapped h orderBy).bind fun _ => (lowerLimit_unwrapped h limit).bind_pure

theorem lowerCtes_unwrapped {n m : Nat} (h : n ≤ m) :
    ∀ ctes : List Sql.Cte, Refines (lowerCtes n ctes) (lowerCtes m (Sql.ctesUnwrapped ctes))
  | [] => .refl _
  | .mk _ _ query _ :: rest => (lowerQuery_unwrapped h query).bind fun _ =>
    (lowerCtes_unwrapped h rest).bind_pure

theorem lowerOrderBy_unwrapped {n m : Nat} (h : n ≤ m) :
    ∀ o : Sql.OrderBy, Refines (lowerOrderBy n o) (lowerOrderBy m o.unwrapped)
  | .keys keys _ => lowerKeys_unwrapped h keys

theorem lowerKeys_unwrapped {n m : Nat} (h : n ≤ m) :
    ∀ keys : List Sql.OrderKey, Refines (lowerKeys n keys) (lowerKeys m (Sql.keysUnwrapped keys))
  | [] => .refl _
  | .mk key _ :: rest => (lowerExpr_unwrapped h key).bind fun _ =>
    (lowerKeys_unwrapped h rest).bind_pure

theorem lowerLimit_unwrapped {n m : Nat} (h : n ≤ m) :
    ∀ limit : Sql.Limit, Refines (lowerLimit n limit) (lowerLimit m limit.unwrapped)
  | .clauses count offset _ =>
    (lowerExpr?_unwrapped h count).bind fun _ => (lowerExpr?_unwrapped h offset).bind_pure
  | .comma offset count =>
    (lowerExpr_unwrapped h count).bind fun _ => (lowerExpr_unwrapped h offset).bind_pure

theorem lowerSetExpr_unwrapped {n m : Nat} (h : n ≤ m) (prior : Option Select) :
    ∀ b : Sql.SetExpr, Refines (lowerSetExpr n prior b) (lowerSetExpr m prior b.unwrapped)
  | .select select => (lowerSelect_unwrapped h select).bind_pure
  | .query query => (lowerQuery_unwrapped h query).bind_pure
  | .operation left _ _ right =>
    (Refines.nested h fun _ _ h => lowerSetExpr_unwrapped h prior left).bind fun first =>
      .nested h fun _ _ h => lowerSetExpr_unwrapped h (some first) right
  | .values _ _ rows => (lowerRows_unwrapped h rows).bind_pure
  | .verbatim _ => .refl _

theorem lowerRows_unwrapped {n m : Nat} (h : n ≤ m) :
    ∀ rows : List (List Sql.Expr), Refines (lowerRows n rows) (lowerRows m (Sql.rowsUnwrapped rows))
  | [] => .refl _
  | row :: rest => (lowerExprs_unwrapped h row).bind fun _ => (lowerRows_unwrapped h rest).bind_pure

/-- A select without its wrappers lowers alike, with at least as many levels. -/
theorem lowerSelect_unwrapped {n m : Nat} (h : n ≤ m) :
    ∀ s : Sql.Select, Refines (lowerSelect n s) (lowerSelect m s.unwrapped)
  | .mk _ _ projection _ sources _ selection groupBy _ having _ =>
    (lowerItems_unwrapped h projection).bind fun _ =>
      (lowerSources_unwrapped h sources).bind fun _ =>
      (lowerExpr?_unwrapped h selection).bind fun _ =>
        (lowerGroupBy_unwrapped h groupBy).bind fun _ =>
        (lowerExpr?_unwrapped h having).bind_pure

theorem lowerItems_unwrapped {n m : Nat} (h : n ≤ m) :
    ∀ items : List Sql.SelectItem, Refines (lowerItems n items)
      (lowerItems m (Sql.itemsUnwrapped items))
  | [] => .refl _
  | .expr value _ :: rest => (lowerExpr_unwrapped h value).bind fun _ =>
    (lowerItems_unwrapped h rest).bind_pure
  | .wildcard _ :: rest => (lowerItems_unwrapped h rest).bind_pure

theorem lowerGroupBy_unwrapped {n m : Nat} (h : n ≤ m) :
    ∀ g : Sql.GroupBy, Refines (lowerGroupBy n g) (lowerGroupBy m g.unwrapped)
  | .keys keys _ => lowerExprs_unwrapped h keys
  | .all _ => .refl _

theorem lowerSources_unwrapped {n m : Nat} (h : n ≤ m) :
    ∀ tables : List Sql.TableJoins,
      Refines (lowerSources n tables) (lowerSources m (Sql.sourcesUnwrapped tables))
  | [] => .refl _
  | t :: rest => (lowerTableJoins_unwrapped h t).bind fun _ =>
    (lowerSources_unwrapped h rest).bind_pure

theorem lowerTableJoins_unwrapped {n m : Nat} (h : n ≤ m) :
    ∀ t : Sql.TableJoins, Refines (lowerTableJoins n t) (lowerTableJoins m t.unwrapped)
  | .mk relation joins =>
    (lowerTableFactor_unwrapped h relation).bind fun _ => (lowerJoins_unwrapped h joins).bind_pure

theorem lowerTableFactor_unwrapped {n m : Nat} (h : n ≤ m) :
    ∀ f : Sql.TableFactor, Refines (lowerTableFactor n f) (lowerTableFactor m f.unwrapped)
  | .table _ _ _ _ => .refl _
  | .derived _ query _ => (lowerQuery_unwrapped h query).bind_pure
  | .nested inner _ => .nested h fun _ _ h => lowerTableJoins_unwrapped h inner
  | .verbatim _ _ _ => .refl _

theorem lowerJoins_unwrapped {n m : Nat} (h : n ≤ m) :
    ∀ joins : List Sql.Join, Refines (lowerJoins n joins) (lowerJoins m (Sql.joinsUnwrapped joins))
  | [] => .refl _
  | .mk _ kind relation constraint :: rest => by
    rw [Sql.joinsUnwrapped, lowerJoins, lowerJoins, keepsConstraint_unwrapped]
    exact (lowerTableFactor_unwrapped h relation).bind fun found =>
      (lowerConstraint_unwrapped h (keepsConstraint kind) constraint found).bind fun _ =>
        (lowerJoins_unwrapped h rest).bind_pure

theorem lowerConstraint_unwrapped {n m : Nat} (h : n ≤ m) (kept : Bool)
    (constraint : Sql.JoinConstraint) (found : List Source) :
    Refines (lowerConstraint n kept constraint found)
      (lowerConstraint m kept constraint.unwrapped found) := by
  cases kept with
  | false =>
    rw [lowerConstraint, lowerConstraint]
    · exact .refl _
    all_goals simp
  | true =>
    cases constraint with
    | on condition => exact (lowerExpr_unwrapped h condition).bind_pure
    | «using» columns => exact .refl _
    | natural | none => exact .refl _

end

/-- Queries that differ only in what is wrapped have the same outline, if they have any. -/
theorem lowerQuery_eq_of_unwrapped_eq {n n' : Nat} {q q' : Sql.Query} {root root' : Select}
    (h : q.unwrapped = q'.unwrapped) (hlower : lowerQuery n q = .ok root)
    (hlower' : lowerQuery n' q' = .ok root') : root = root' := by
  have hroot := lowerQuery_unwrapped (Nat.le_max_left n n') q root hlower
  have hroot' := lowerQuery_unwrapped (Nat.le_max_right n n') q' root' hlower'
  rw [h] at hroot
  exact Except.ok.inj (hroot.symm.trans hroot')

end QueryLint.Outline
