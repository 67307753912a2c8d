import QueryLint.Proofs.Outline.Members

/-!
# Limits of lowering

Lowering may go only so many levels deep. With more levels nothing is lowered differently: whatever
has an outline under a limit has the same one under every higher limit (`refines_lowerQuery` and its
companions, one for each function of lowering).
-/

namespace QueryLint.Outline

/-! ### Results with more levels -/

/-- A result stays if another one takes its place. -/
def Refines {α : Type} (x y : Lowered α) : Prop := ∀ a, x = .ok a → y = .ok a

namespace Refines

variable {α β : Type}

/-- A lowering refines to itself. -/
theorem refl (x : Lowered α) : Refines x x := fun _ h => h

/-- Sequences refine part by part. -/
theorem bind {x y : Lowered α} {f g : α → Lowered β} (h : Refines x y)
    (hf : ∀ a, Refines (f a) (g a)) : Refines (x >>= f) (y >>= g) := by
  intro b hb
  obtain ⟨a, hx, hfa⟩ := bind_eq_ok_iff.mp hb
  exact bind_eq_ok_iff.mpr ⟨a, h a hx, hf a b hfa⟩

/-- A result that something is made of. -/
theorem bind_pure {x y : Lowered α} {f : α → β} (h : Refines x y) :
    Refines (x >>= fun a => pure (f a)) (y >>= fun a => pure (f a)) :=
  h.bind fun _ => refl _

/-- Where a level can be entered, it can also be entered with more levels left. -/
theorem nested {n m : Nat} (h : n ≤ m) {f g : Nat → Lowered α}
    (hf : ∀ k l, k ≤ l → Refines (f k) (g l)) : Refines (nested n f) (nested m g) := by
  intro a ha
  obtain ⟨k, rfl, hfa⟩ := nested_eq_ok_iff.mp ha
  obtain ⟨l, rfl⟩ := Nat.exists_eq_add_of_le h
  exact nested_eq_ok_iff.mpr ⟨k + l, by omega, hf k (k + l) (Nat.le_add_right k l) a hfa⟩

end Refines

/-! ### Each function of lowering -/

mutual

/-- An expression that is lowered with some levels is lowered alike with more. -/
theorem refines_lowerExpr {n m : Nat} (h : n ≤ m) (e : Sql.Expr) : Refines (lowerExpr n e)
    (lowerExpr m e) := by
  rw [lowerExpr, lowerExpr]
  refine .nested h fun k l h => ?_
  cases e with
  | ident | compound | value | verbatim => exact .refl _
  | nested inner => exact refines_lowerExpr h inner
  | collate inner collation => exact refines_lowerExpr h inner
  | binary left op right =>
    exact (refines_lowerExpr h left).bind fun _ => (refines_lowerExpr h right).bind_pure
  | unary op operand => exact (refines_lowerExpr h operand).bind_pure
  | pattern kind negated any operand pattern escape =>
    exact (refines_lowerExpr h operand).bind fun _ => (refines_lowerExpr h pattern).bind_pure
  | inList operand negated members =>
    exact (refines_lowerExpr h operand).bind fun _ => (refines_lowerExprs h members).bind_pure
  | inQuery operand negated query =>
    exact (refines_lowerExpr h operand).bind fun _ => (refines_lowerQuery h query).bind_pure
  | isNull operand => exact (refines_lowerExpr h operand).bind_pure
  | isNotNull operand => exact (refines_lowerExpr h operand).bind_pure
  | isTruth operand negated truth => exact (refines_lowerExpr h operand).bind_pure
  | distinct left same right =>
    exact (refines_lowerExpr h left).bind fun _ => (refines_lowerExpr h right).bind_pure
  | between operand negated low high =>
    exact (refines_lowerExpr h operand).bind fun _ =>
      (refines_lowerExpr h low).bind fun _ => (refines_lowerExpr h high).bind_pure
  | subquery query => exact (refines_lowerQuery h query).bind_pure
  | «exists» negated query => exact (refines_lowerQuery h query).bind_pure
  | call braced name parameters arguments suffix => exact refines_lowerCall h name.render arguments
  | case operand branches otherwise =>
    exact (refines_lowerBranches h branches).bind fun _ =>
      (refines_lowerExpr? h otherwise).bind fun _ => (refines_lowerExpr? h operand).bind_pure
  | cast form operand type => exact (refines_lowerExpr h operand).bind_pure

theorem refines_lowerExpr? {n m : Nat} (h : n ≤ m) :
    ∀ e : Option Sql.Expr, Refines (lowerExpr? n e) (lowerExpr? m e)
  | none => .refl _
  | some e => (refines_lowerExpr h e).bind_pure

theorem refines_lowerExprs {n m : Nat} (h : n ≤ m) :
    ∀ es : List Sql.Expr, Refines (lowerExprs n es) (lowerExprs m es)
  | [] => .refl _
  | e :: rest => (refines_lowerExpr h e).bind fun _ => (refines_lowerExprs h rest).bind_pure

theorem refines_lowerBranches {n m : Nat} (h : n ≤ m) :
    ∀ branches : List Sql.Branch, Refines (lowerBranches n branches) (lowerBranches m branches)
  | [] => .refl _
  | .mk condition result :: rest =>
    (refines_lowerExpr h condition).bind fun _ =>
      (refines_lowerExpr h result).bind fun _ => (refines_lowerBranches h rest).bind_pure

theorem refines_lowerCall {n m : Nat} (h : n ≤ m) (name : String) :
    ∀ arguments : Sql.Arguments, Refines (lowerCall n name arguments) (lowerCall m name arguments)
  | .absent => .refl _
  | .query query => (refines_lowerQuery h query).bind_pure
  | .list _ arguments _ => (refines_lowerArguments h arguments).bind_pure

theorem refines_lowerArguments {n m : Nat} (h : n ≤ m) :
    ∀ arguments : List Sql.Argument, Refines (lowerArguments n arguments)
      (lowerArguments m arguments)
  | [] => .refl _
  | .positional value :: rest =>
    (refines_lowerExpr h value).bind fun _ => (refines_lowerArguments h rest).bind_pure
  | .named _ _ value :: rest =>
    (refines_lowerExpr h value).bind fun _ => (refines_lowerArguments h rest).bind_pure
  | .verbatim _ :: rest => refines_lowerArguments h rest

/-- A query that is lowered with some levels is lowered alike with more. -/
theorem refines_lowerQuery {n m : Nat} (h : n ≤ m) (q : Sql.Query) : Refines (lowerQuery n q)
    (lowerQuery m q) := by
  rw [lowerQuery, lowerQuery]
  refine .nested h fun k l h => ?_
  obtain ⟨recursive, ctes, body, orderBy, limit, tail⟩ := q
  exact (refines_lowerSetExpr h none body).bind fun _ => (refines_lowerCtes h ctes).bind fun _ =>
    (refines_lowerOrderBy h orderBy).bind fun _ => (refines_lowerLimit h limit).bind_pure

theorem refines_lowerCtes {n m : Nat} (h : n ≤ m) :
    ∀ ctes : List Sql.Cte, Refines (lowerCtes n ctes) (lowerCtes m ctes)
  | [] => .refl _
  | .mk _ _ query _ :: rest => (refines_lowerQuery h query).bind fun _ =>
    (refines_lowerCtes h rest).bind_pure

theorem refines_lowerOrderBy {n m : Nat} (h : n ≤ m) :
    ∀ o : Sql.OrderBy, Refines (lowerOrderBy n o) (lowerOrderBy m o)
  | .keys keys _ => refines_lowerKeys h keys

theorem refines_lowerKeys {n m : Nat} (h : n ≤ m) :
    ∀ keys : List Sql.OrderKey, Refines (lowerKeys n keys) (lowerKeys m keys)
  | [] => .refl _
  | .mk key _ :: rest => (refines_lowerExpr h key).bind fun _ =>
    (refines_lowerKeys h rest).bind_pure

theorem refines_lowerLimit {n m : Nat} (h : n ≤ m) :
    ∀ limit : Sql.Limit, Refines (lowerLimit n limit) (lowerLimit m limit)
  | .clauses count offset _ =>
    (refines_lowerExpr? h count).bind fun _ => (refines_lowerExpr? h offset).bind_pure
  | .comma offset count =>
    (refines_lowerExpr h count).bind fun _ => (refines_lowerExpr h offset).bind_pure

theorem refines_lowerSetExpr {n m : Nat} (h : n ≤ m) (prior : Option Select) :
    ∀ b : Sql.SetExpr, Refines (lowerSetExpr n prior b) (lowerSetExpr m prior b)
  | .select select => (refines_lowerSelect h select).bind_pure
  | .query query => (refines_lowerQuery h query).bind_pure
  | .operation left _ _ right =>
    (Refines.nested h fun _ _ h => refines_lowerSetExpr h prior left).bind fun first =>
      .nested h fun _ _ h => refines_lowerSetExpr h (some first) right
  | .values _ _ rows => (refines_lowerRows h rows).bind_pure
  | .verbatim _ => .refl _

theorem refines_lowerRows {n m : Nat} (h : n ≤ m) :
    ∀ rows : List (List Sql.Expr), Refines (lowerRows n rows) (lowerRows m rows)
  | [] => .refl _
  | row :: rest => (refines_lowerExprs h row).bind fun _ => (refines_lowerRows h rest).bind_pure

/-- A select that is lowered with some levels is lowered alike with more. -/
theorem refines_lowerSelect {n m : Nat} (h : n ≤ m) :
    ∀ s : Sql.Select, Refines (lowerSelect n s) (lowerSelect m s)
  | .mk _ _ projection _ sources _ selection groupBy _ having _ =>
    (refines_lowerItems h projection).bind fun _ => (refines_lowerSources h sources).bind fun _ =>
      (refines_lowerExpr? h selection).bind fun _ => (refines_lowerGroupBy h groupBy).bind fun _ =>
        (refines_lowerExpr? h having).bind_pure

theorem refines_lowerItems {n m : Nat} (h : n ≤ m) :
    ∀ items : List Sql.SelectItem, Refines (lowerItems n items) (lowerItems m items)
  | [] => .refl _
  | .expr value _ :: rest => (refines_lowerExpr h value).bind fun _ =>
    (refines_lowerItems h rest).bind_pure
  | .wildcard _ :: rest => (refines_lowerItems h rest).bind_pure

theorem refines_lowerGroupBy {n m : Nat} (h : n ≤ m) :
    ∀ g : Sql.GroupBy, Refines (lowerGroupBy n g) (lowerGroupBy m g)
  | .keys keys _ => refines_lowerExprs h keys
  | .all _ => .refl _

theorem refines_lowerSources {n m : Nat} (h : n ≤ m) :
    ∀ tables : List Sql.TableJoins, Refines (lowerSources n tables) (lowerSources m tables)
  | [] => .refl _
  | t :: rest => (refines_lowerTableJoins h t).bind fun _ => (refines_lowerSources h rest).bind_pure

theorem refines_lowerTableJoins {n m : Nat} (h : n ≤ m) :
    ∀ t : Sql.TableJoins, Refines (lowerTableJoins n t) (lowerTableJoins m t)
  | .mk relation joins =>
    (refines_lowerTableFactor h relation).bind fun _ => (refines_lowerJoins h joins).bind_pure

theorem refines_lowerTableFactor {n m : Nat} (h : n ≤ m) :
    ∀ f : Sql.TableFactor, Refines (lowerTableFactor n f) (lowerTableFactor m f)
  | .table _ _ _ _ => .refl _
  | .derived _ query _ => (refines_lowerQuery h query).bind_pure
  | .nested inner _ => .nested h fun _ _ h => refines_lowerTableJoins h inner
  | .verbatim _ _ _ => .refl _

theorem refines_lowerJoins {n m : Nat} (h : n ≤ m) :
    ∀ joins : List Sql.Join, Refines (lowerJoins n joins) (lowerJoins m joins)
  | [] => .refl _
  | .mk _ kind relation constraint :: rest =>
    (refines_lowerTableFactor h relation).bind fun found =>
      (refines_lowerConstraint h (keepsConstraint kind) constraint found).bind fun _ =>
        (refines_lowerJoins h rest).bind_pure

theorem refines_lowerConstraint {n m : Nat} (h : n ≤ m) (kept : Bool)
    (constraint : Sql.JoinConstraint) (found : List Source) :
    Refines (lowerConstraint n kept constraint found)
      (lowerConstraint m kept constraint found) := by
  cases kept with
  | false =>
    rw [lowerConstraint, lowerConstraint]
    · exact .refl _
    all_goals simp
  | true =>
    cases constraint with
    | on condition => exact (refines_lowerExpr h condition).bind_pure
    | «using» columns => exact .refl _
    | natural | none => exact .refl _

end

end QueryLint.Outline
