import QueryLint.Analysis.Chain

/-!
# What a chain compares

The columns of a chain of `AND` by recursion over the expression (`Expr.comparedColumns`). The stack
of `columnsOnStack` only keeps the parts of this recursion that are still to come.

Told round by round (`Gathering`), the loop over the stack looks at every expression of a chain once
and then ends, with the columns of the recursion (`ends_with_comparedColumns`).
-/

namespace QueryLint.Outline

/-- The operators of the comparisons that an index can serve. -/
def Op.indexed : List Op := [.is, .isIn, .isNull, .eq, .gt, .le, .lt, .ge]

/-- The operators of index comparisons are those of the list. -/
theorem Op.isIndexComparison_iff {op : Op} : op.isIndexComparison = true ↔ op ∈ indexed := by
  cases op <;> decide

/-- The columns that an expression compares: at an `AND` those of the left and then of the right
operand, at a comparison that an index can serve its left operand, and none elsewhere. -/
def Expr.comparedColumns : Expr → List String
  | ⟨op, left, right, _, _, _⟩ =>
    if op == .and then
      (match left with
        | some e => e.comparedColumns
        | none => [])
      ++ (match right with
        | some e => e.comparedColumns
        | none => [])
    else if op ∈ Op.indexed then left.toList.map Expr.identifier
    else []

/-- A conjunction compares what its operands compare. -/
theorem Expr.comparedColumns_of_and {e : Expr} (h : (e.op == .and) = true) :
    e.comparedColumns = e.operands.flatMap Expr.comparedColumns := by
  obtain ⟨op, left, right, select, list, token⟩ := e
  cases left <;> cases right <;> rw [comparedColumns, if_pos h, operands] <;> simp

/-- A comparison compares the column on its left. -/
theorem Expr.comparedColumns_of_comparison {e : Expr} (h : ¬(e.op == .and) = true)
    (hcompares : e.op.isIndexComparison = true) :
    e.comparedColumns = e.left.toList.map Expr.identifier := by
  obtain ⟨op, left, right, select, list, token⟩ := e
  have hindexed : op ∈ Op.indexed := Op.isIndexComparison_iff.mp hcompares
  cases left <;> cases right <;> rw [comparedColumns, if_neg h, if_pos hindexed]

/-- Anything else compares no column. -/
theorem Expr.comparedColumns_of_other {e : Expr} (h : ¬(e.op == .and) = true)
    (hcompares : ¬e.op.isIndexComparison = true) : e.comparedColumns = [] := by
  obtain ⟨op, left, right, select, list, token⟩ := e
  have hindexed : op ∉ Op.indexed := fun h => hcompares (Op.isIndexComparison_iff.mpr h)
  cases left <;> cases right <;> rw [comparedColumns, if_neg h, if_neg hindexed]

/-- What is collected with a stack is what the expressions on it compare, from the top down. -/
theorem columnsOnStack_eq (stack : List Expr) :
    columnsOnStack stack = stack.flatMap Expr.comparedColumns := by
  fun_induction columnsOnStack stack with
  | case1 => rfl
  | case2 e rest hand ih =>
    rw [ih, List.flatMap_append, List.flatMap_cons, Expr.comparedColumns_of_and hand]
  | case3 e rest hand hcompares left hleft ih =>
    rw [ih, List.flatMap_cons, Expr.comparedColumns_of_comparison hand hcompares, hleft]
    rfl
  | case4 e rest hand hcompares hleft ih =>
    rw [ih, List.flatMap_cons, Expr.comparedColumns_of_comparison hand hcompares, hleft]
    rfl
  | case5 e rest hand hcompares ih =>
    rw [ih, List.flatMap_cons, Expr.comparedColumns_of_other hand hcompares]
    rfl

/-- The columns of a chain are the compared ones. -/
theorem chainColumns_eq (e : Expr) : chainColumns e = e.comparedColumns := by
  rw [chainColumns, columnsOnStack_eq, List.flatMap_singleton]

/-! ### The expressions of a chain -/

/-- The expressions of a chain from the top down and from left to right: its conjunctions, and what
is directly inside of them. -/
def Expr.chain : Expr → List Expr
  | ⟨op, left, right, select, list, token⟩ =>
    ⟨op, left, right, select, list, token⟩ ::
      if op == .and then
        (match left with
          | some e => e.chain
          | none => [])
        ++ (match right with
          | some e => e.chain
          | none => [])
      else []

/-- A chain goes on below conjunctions only. -/
theorem Expr.chain_eq (e : Expr) :
    e.chain = e :: if e.op == .and then e.operands.flatMap chain else [] := by
  obtain ⟨op, left, right, select, list, token⟩ := e
  cases left <;> cases right <;> rw [chain, operands] <;> simp

/-! ### The loop over a stack, round by round -/

/-- The loop that gathers the columns of a chain, between two rounds. -/
structure Gathering where
  /-- The expressions that are still to be looked at, from the top of the stack down. -/
  stack : List Expr
  /-- The columns that were found. -/
  columns : List String

namespace Gathering

/-- The loop before its first round: the top of the chain is all that is on the stack. -/
def start (root : Expr) : Gathering := ⟨[root], []⟩

/-- A stack with an operand put on top, if there is one. -/
def push (operand : Option Expr) (stack : List Expr) : List Expr := operand.toList ++ stack

/-- One round, unless the stack is empty: the expression on top is taken off. Of a conjunction the
right operand is put on the stack and then the left one, and of a comparison the left operand is
noted. -/
def round? (g : Gathering) : Option Gathering :=
  match g.stack with
  | [] => none
  | e :: rest =>
    some <|
      if e.op == .and then { g with stack := push e.left (push e.right rest) }
      else if e.op.isIndexComparison then ⟨rest, g.columns ++ e.left.toList.map Expr.identifier⟩
      else { g with stack := rest }

/-- So many rounds, unless the stack is empty before. -/
def rounds : Nat → Gathering → Option Gathering
  | 0, g => some g
  | n + 1, g => g.round?.bind (rounds n)

/-- The expressions of the chains on the stack: these are still to be looked at, in this order. -/
def ahead (g : Gathering) : List Expr := g.stack.flatMap Expr.chain

/-- The columns that were found and those that are still to be found. -/
def result (g : Gathering) : List String := g.columns ++ columnsOnStack g.stack

variable {g g' : Gathering}

/-- Two operands on a stack are taken before what was there. -/
theorem push_push (left right : Option Expr) (stack : List Expr) :
    push left (push right stack) = left.toList ++ right.toList ++ stack :=
  (List.append_assoc _ _ _).symm

/-- Nothing is ahead exactly when the stack is empty. -/
theorem ahead_eq_nil_iff : g.ahead = [] ↔ g.stack = [] := by
  rw [ahead]
  cases g.stack with
  | nil => simp
  | cons e rest => simp [e.chain_eq]

/-- The rounds end exactly when the stack is empty. -/
theorem round?_eq_none_iff : g.round? = none ↔ g.stack = [] := by
  rw [round?]
  cases g.stack <;> simp

/-- A round looks at the first expression that is ahead. -/
theorem ahead_of_round? (h : g.round? = some g') : ∃ e, g.ahead = e :: g'.ahead := by
  obtain ⟨stack, columns⟩ := g
  cases stack with
  | nil => cases h
  | cons e rest =>
    obtain rfl := Option.some.inj h
    refine ⟨e, ?_⟩
    rw [ahead, ahead, List.flatMap_cons, e.chain_eq, List.cons_append]
    split
    · rw [push_push, List.flatMap_append, Expr.operands]
    · split
      all_goals rfl

/-- No round changes what is found in the end. -/
theorem result_of_round? (h : g.round? = some g') : g'.result = g.result := by
  obtain ⟨stack, columns⟩ := g
  cases stack with
  | nil => cases h
  | cons e rest =>
    obtain rfl := Option.some.inj h
    simp only [result]
    rw [columnsOnStack]
    split
    · rw [push_push, Expr.operands]
    · split
      · cases e.left <;> simp
      · rfl

/-- The loop ends after as many rounds as there are expressions ahead, and not before. -/
theorem rounds_eq_some_iff {n : Nat} {columns : List String} :
    rounds n g = some ⟨[], columns⟩ ↔ n = g.ahead.length ∧ columns = g.result := by
  -- By induction on the rounds: each takes one expression from what is ahead and keeps the result.
  induction n generalizing g with
  | zero =>
    obtain ⟨stack, found⟩ := g
    rw [rounds, eq_comm (a := 0), List.length_eq_zero_iff, ahead_eq_nil_iff]
    constructor
    · intro h
      cases h
      exact ⟨rfl, by simp [result, columnsOnStack]⟩
    · rintro ⟨rfl, rfl⟩
      simp [result, columnsOnStack]
  | succ n ih =>
    rw [rounds]
    cases hround : g.round? with
    | none =>
      have hahead : g.ahead = [] := ahead_eq_nil_iff.mpr (round?_eq_none_iff.mp hround)
      simp [hahead]
    | some g' =>
      obtain ⟨e, hahead⟩ := ahead_of_round? hround
      rw [Option.bind_some, ih, hahead, List.length_cons, result_of_round? hround, Nat.succ_inj]

/-- The loop ends for every chain, after just as many rounds as there are expressions in it, and has
then found what the recursion finds: the columns of the left and then of the right operand of a
conjunction as far as it has them, the left operand of a comparison that an index can serve if it
has one, and nothing elsewhere. -/
theorem ends_with_comparedColumns (root : Expr) :
    (∀ n columns, rounds n (start root) = some ⟨[], columns⟩
      ↔ n = root.chain.length ∧ columns = root.comparedColumns)
      ∧ chainColumns root = root.comparedColumns := by
  have hahead : (start root).ahead = root.chain := List.flatMap_singleton _ _
  have hresult : (start root).result = chainColumns root := rfl
  refine ⟨fun n columns => ?_, chainColumns_eq root⟩
  rw [rounds_eq_some_iff, hahead, hresult, chainColumns_eq]

-- A call is no name and counts as the empty text; a conjunction without operands counts as nothing.
example :
    chainColumns
      (.binary .and (.binary .and (.binary .eq (.leaf .id "a") (.leaf .literal "1")) (.bare .and))
      (.binary .gt (.leaf .function "lower") (.leaf .literal "2"))) = ["a", ""] := by
  decide_cbv

end Gathering

end QueryLint.Outline
