import QueryLint.Outline
import QueryLint.Sql.Printer

/-!
# From syntax trees to outlines

Lowering keeps of a query what the linter looks at. It may go only so many levels deep: a query, an
expression, each side of a set operation and a join in parentheses take one level each. Expressions
without a tag of their own become `Op.other` and are not looked into.
-/

namespace QueryLint.Outline

/-- Why a query has no outline: it needs more levels than there are. -/
inductive TooDeep where
  | tooDeep
  deriving DecidableEq, Repr, Inhabited

/-- The result of lowering. -/
abbrev Lowered (α : Type) := Except TooDeep α

/-- One level deeper, if there is one left. -/
def nested {α : Type} (levels : Nat) (inner : Nat → Lowered α) : Lowered α :=
  match levels with
  | 0 => .error .tooDeep
  | n + 1 => inner n

/-! ### Tags -/

/-- The tag of a binary operator. -/
def Op.ofBinary : Sql.BinaryOp → Op
  | .and => .and
  | .or => .or
  | .eq => .eq
  | .ne => .ne
  | .gt => .gt
  | .ge => .ge
  | .lt => .lt
  | .le => .le
  | .bitAnd => .bitAnd
  | .bitOr => .bitOr
  | .bitXor => .bitXor
  | .shiftLeft => .shiftLeft
  | .shiftRight => .shiftRight
  | .plus => .plus
  | .minus => .minus
  | .multiply => .multiply
  | .divide => .divide
  | .modulo => .modulo
  | .concat => .concat
  | .other _ => .other

/-- The tag of a unary operator. -/
def Op.ofUnary : Sql.UnaryOp → Op
  | .not => .not
  | .bitNot => .bitNot
  | .minus => .negate
  | _ => .other

/-- A dotted name: `a.b.c` is `a` with the member `b.c`. -/
def Expr.ofNames : List Sql.Ident → Expr
  | [] => .bare .other
  | [name] => .leaf .id name.value
  | name :: rest => .binary .dot (.leaf .id name.value) (ofNames rest)

/-- Whether the outline keeps what a join matches rows by. -/
def keepsConstraint : Sql.JoinKind → Bool
  | .cross | .straight | .asOf _ | .crossApply | .outerApply => false
  | _ => true

/-- Sources of which the first carries the columns or the condition of a join. -/
def attach (columns : Option (List String)) (on : Option Expr) : List Source → List Source
  | [] => []
  | source :: rest =>
    { source with
      columns := if columns.isSome then columns else source.columns
      on := if on.isSome then on else source.on } :: rest

/-! ### Trees -/

mutual

/-- The outline of an expression. -/
def lowerExpr (levels : Nat) (e : Sql.Expr) : Lowered Expr :=
  nested levels fun n => do
    match e with
    | .ident name => return .leaf .id name.value
    | .compound parts => return .ofNames parts
    | .value v => return .leaf .literal v.render
    | .nested inner => lowerExpr n inner
    | .collate inner _ => lowerExpr n inner
    | .binary left op right =>
      return .binary (.ofBinary op) (← lowerExpr n left) (← lowerExpr n right)
    | .unary op operand => return .unary (.ofUnary op) (← lowerExpr n operand)
    | .pattern _ _ _ operand pattern _ =>
      return .binary .like (← lowerExpr n operand) (← lowerExpr n pattern)
    | .inList operand _ members =>
      let left ← lowerExpr n operand
      return { Expr.unary .isIn left with list := ← lowerExprs n members }
    | .inQuery operand _ query =>
      let left ← lowerExpr n operand
      return { Expr.unary .isIn left with select := some (← lowerQuery n query) }
    | .isNull operand => return .unary .isNull (← lowerExpr n operand)
    | .isNotNull operand => return .unary .notNull (← lowerExpr n operand)
    | .isTruth operand negated _ =>
      return .unary (if negated then .isNot else .is) (← lowerExpr n operand)
    | .distinct left same right =>
      return .binary (if same then .is else .isNot) (← lowerExpr n left) (← lowerExpr n right)
    | .between operand _ low high =>
      let left ← lowerExpr n operand
      return { Expr.unary .between left with list := [← lowerExpr n low, ← lowerExpr n high] }
    | .subquery query => return { Expr.bare .select with select := some (← lowerQuery n query) }
    | .exists _ query => return { Expr.bare .exists with select := some (← lowerQuery n query) }
    | .call _ name _ arguments _ => lowerCall n name.render arguments
    | .case operand branches otherwise =>
      let arms ← lowerBranches n branches
      let last ← lowerExpr? n otherwise
      let left ← lowerExpr? n operand
      return { Expr.bare .case with left, list := arms ++ last.toList }
    | .cast _ operand _ => return .unary .cast (← lowerExpr n operand)
    | .verbatim _ => return .bare .other

/-- The outline of an expression that may be missing. -/
def lowerExpr? (levels : Nat) : Option Sql.Expr → Lowered (Option Expr)
  | none => return none
  | some e => return some (← lowerExpr levels e)

/-- The outlines of some expressions. -/
def lowerExprs (levels : Nat) : List Sql.Expr → Lowered (List Expr)
  | [] => return []
  | e :: rest => return (← lowerExpr levels e) :: (← lowerExprs levels rest)

/-- The outlines of the conditions and results of a case expression, in turn. -/
def lowerBranches (levels : Nat) : List Sql.Branch → Lowered (List Expr)
  | [] => return []
  | .mk condition result :: rest =>
    return (← lowerExpr levels condition) :: (← lowerExpr levels result)
      :: (← lowerBranches levels rest)

/-- The outline of a call. -/
def lowerCall (levels : Nat) (name : String) : Sql.Arguments → Lowered Expr
  | .absent => return .leaf .function name
  | .query query =>
    return { Expr.leaf .function name with select := some (← lowerQuery levels query) }
  | .list _ arguments _ =>
    return { Expr.leaf .function name with list := ← lowerArguments levels arguments }

/-- The outlines of the arguments that are expressions with a plain name or none. -/
def lowerArguments (levels : Nat) : List Sql.Argument → Lowered (List Expr)
  | [] => return []
  | .positional value :: rest =>
    return (← lowerExpr levels value) :: (← lowerArguments levels rest)
  | .named _ _ value :: rest =>
    return (← lowerExpr levels value) :: (← lowerArguments levels rest)
  | .verbatim _ :: rest => lowerArguments levels rest

/-- The outline of a query. Order and limit belong to the last member of a compound query. -/
def lowerQuery (levels : Nat) (q : Sql.Query) : Lowered Select :=
  nested levels fun n => do
    match q with
    | .mk _ ctes body orderBy limit _ =>
      let select ← lowerSetExpr n none body
      let bodies ← lowerCtes n ctes
      let keys ← lowerOrderBy n orderBy
      let (count, offset) ← lowerLimit n limit
      return { select with ctes := select.ctes ++ bodies, orderBy := select.orderBy ++ keys,
                           limit := count, offset := offset }

/-- The outlines of the bodies of common table expressions. -/
def lowerCtes (levels : Nat) : List Sql.Cte → Lowered (List Select)
  | [] => return []
  | .mk _ _ query _ :: rest => return (← lowerQuery levels query) :: (← lowerCtes levels rest)

/-- The outlines of the keys of an order. -/
def lowerOrderBy (levels : Nat) : Sql.OrderBy → Lowered (List Expr)
  | .keys keys _ => lowerKeys levels keys

/-- The outlines of some keys. -/
def lowerKeys (levels : Nat) : List Sql.OrderKey → Lowered (List Expr)
  | [] => return []
  | .mk key _ :: rest => return (← lowerExpr levels key) :: (← lowerKeys levels rest)

/-- The outlines of the count and the offset of a limit. -/
def lowerLimit (levels : Nat) : Sql.Limit → Lowered (Option Expr × Option Expr)
  | .clauses count offset _ => return (← lowerExpr? levels count, ← lowerExpr? levels offset)
  | .comma offset count => do
    let limit ← lowerExpr levels count
    return (some limit, some (← lowerExpr levels offset))

/-- The outline of the body of a query, behind the member before it. -/
def lowerSetExpr (levels : Nat) (prior : Option Select) : Sql.SetExpr → Lowered Select
  | .select select => return { ← lowerSelect levels select with prior }
  | .query query =>
    return { Select.blank with prior, sources := [.derived (← lowerQuery levels query)] }
  | .operation left _ _ right => do
    let first ← nested levels fun n => lowerSetExpr n prior left
    nested levels fun n => lowerSetExpr n (some first) right
  | .values _ _ rows => return { Select.blank with prior, projection := ← lowerRows levels rows }
  | .verbatim _ => return { Select.blank with prior }

/-- The outlines of the members of some rows. -/
def lowerRows (levels : Nat) : List (List Sql.Expr) → Lowered (List Expr)
  | [] => return []
  | row :: rest => return (← lowerExprs levels row) ++ (← lowerRows levels rest)

/-- The outline of a `SELECT`. -/
def lowerSelect (levels : Nat) : Sql.Select → Lowered Select
  | .mk _ _ projection _ sources _ selection groupBy _ having _ => do
    let items ← lowerItems levels projection
    let found ← lowerSources levels sources
    let filter ← lowerExpr? levels selection
    let keys ← lowerGroupBy levels groupBy
    let groupFilter ← lowerExpr? levels having
    return { Select.blank with
      projection := items, sources := found, selection := filter, groupBy := keys,
      having := groupFilter }

/-- The outlines of the items of a projection. -/
def lowerItems (levels : Nat) : List Sql.SelectItem → Lowered (List Expr)
  | [] => return []
  | .expr value _ :: rest => return (← lowerExpr levels value) :: (← lowerItems levels rest)
  | .wildcard _ :: rest => return .bare .wildcard :: (← lowerItems levels rest)

/-- The outlines of the keys of a grouping. -/
def lowerGroupBy (levels : Nat) : Sql.GroupBy → Lowered (List Expr)
  | .keys keys _ => lowerExprs levels keys
  | .all _ => return []

/-- The sources of a selection, with all their joins in one list. -/
def lowerSources (levels : Nat) : List Sql.TableJoins → Lowered (List Source)
  | [] => return []
  | t :: rest => return (← lowerTableJoins levels t) ++ (← lowerSources levels rest)

/-- A source and the sources joined to it, in one list. -/
def lowerTableJoins (levels : Nat) : Sql.TableJoins → Lowered (List Source)
  | .mk relation joins =>
    return (← lowerTableFactor levels relation) ++ (← lowerJoins levels joins)

/-- The sources of one table, derived table or join in parentheses. -/
def lowerTableFactor (levels : Nat) : Sql.TableFactor → Lowered (List Source)
  | .table name _ aliasName _ =>
    return [{ Source.table name.render with aliasName := aliasName.map fun a => a.name.value }]
  | .derived _ query aliasName =>
    return [{ Source.derived (← lowerQuery levels query) with
      aliasName := aliasName.map fun a => a.name.value }]
  | .nested inner _ => nested levels fun n => lowerTableJoins n inner
  | .verbatim _ _ _ => return [.blank]

/-- The sources of some joins. What a join matches rows by is attached to the first of its
sources. -/
def lowerJoins (levels : Nat) : List Sql.Join → Lowered (List Source)
  | [] => return []
  | .mk _ kind relation constraint :: rest => do
    let found ← lowerTableFactor levels relation
    let joined ← lowerConstraint levels (keepsConstraint kind) constraint found
    return joined ++ (← lowerJoins levels rest)

/-- The sources of a join with what they are matched by, if the outline keeps it. -/
def lowerConstraint (levels : Nat) (kept : Bool) (constraint : Sql.JoinConstraint)
    (found : List Source) : Lowered (List Source) :=
  match kept, constraint with
  | true, .on condition => return attach none (some (← lowerExpr levels condition)) found
  | true, .using columns => return attach (some (columns.map Sql.ObjectName.render)) none found
  | _, _ => return found

end

/-- The outlines of the queries among some statements, each at most so many levels deep. -/
def ofStatements (maxDepth : Nat) : List Sql.Statement → Lowered (List Select)
  | [] => return []
  | .query q :: rest => return (← lowerQuery maxDepth q) :: (← ofStatements maxDepth rest)
  | .verbatim _ :: rest => ofStatements maxDepth rest

end QueryLint.Outline
