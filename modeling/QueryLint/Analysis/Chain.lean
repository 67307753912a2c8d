import QueryLint.Outline

/-!
# Chains of conditions

The columns that a chain of `AND` compares. `chainColumns` collects them with a stack of the
expressions that are still to be looked at.
-/

namespace QueryLint.Outline

/-- The operands of an expression, the left one first. -/
def Expr.operands (e : Expr) : List Expr :=
  e.left.toList ++ e.right.toList

/-- The operands of an expression weigh less than it, on any stack. -/
theorem sizeOf_operands_append_lt (e : Expr) (stack : List Expr) :
    sizeOf (e.operands ++ stack) < sizeOf (e :: stack) := by
  obtain ⟨op, left, right, select, list, token⟩ := e
  cases left <;> cases right <;> simp [Expr.operands] <;> omega

/-- The left operands of the comparisons on a stack of expressions, from the top down. -/
def columnsOnStack (stack : List Expr) : List String :=
  match stack with
  | [] => []
  | e :: rest =>
    if e.op == .and then columnsOnStack (e.operands ++ rest)
    else if e.op.isIndexComparison then
      match e.left with
      | some left => left.identifier :: columnsOnStack rest
      | none => columnsOnStack rest
    else columnsOnStack rest
termination_by sizeOf stack
decreasing_by
  · exact sizeOf_operands_append_lt e rest
  all_goals
    simp only [List.cons.sizeOf_spec]
    omega

/-- The columns that a chain of `AND` compares, from left to right. An operand that is no name
counts as the empty text. -/
def chainColumns (root : Expr) : List String :=
  columnsOnStack [root]

end QueryLint.Outline
