import QueryLint.Sql.Ast

/-!
# Wrapped expressions

A syntax tree in which no expression stands in parentheses or has a collation, and everything else
is as it was. Two trees come to the same in this way if they differ only in where parentheses and
collations are put around expressions. Expressions may also stand in the texts that a tree keeps of
what nothing looks into; these texts are left out.
-/

namespace QueryLint.Sql

/-- The kind of a join without the text of its condition. -/
def JoinKind.unwrapped : JoinKind → JoinKind
  | .asOf _ => .asOf ""
  | kind => kind

mutual

/-- An expression without the parentheses and the collations around it and around what is inside. -/
def Expr.unwrapped : Expr → Expr
  | .ident name => .ident name
  | .compound parts => .compound parts
  | .value v => .value v
  | .nested inner => inner.unwrapped
  | .collate inner _ => inner.unwrapped
  | .binary left op right => .binary left.unwrapped op right.unwrapped
  | .unary op operand => .unary op operand.unwrapped
  | .pattern kind negated any operand pattern escape =>
    .pattern kind negated any operand.unwrapped pattern.unwrapped escape
  | .inList operand negated members => .inList operand.unwrapped negated (exprsUnwrapped members)
  | .inQuery operand negated query => .inQuery operand.unwrapped negated query.unwrapped
  | .isNull operand => .isNull operand.unwrapped
  | .isNotNull operand => .isNotNull operand.unwrapped
  | .isTruth operand negated truth => .isTruth operand.unwrapped negated truth
  | .distinct left same right => .distinct left.unwrapped same right.unwrapped
  | .between operand negated low high =>
    .between operand.unwrapped negated low.unwrapped high.unwrapped
  | .subquery query => .subquery query.unwrapped
  | .exists negated query => .exists negated query.unwrapped
  | .call braced name _ arguments _ => .call braced name "" arguments.unwrapped ""
  | .case operand branches otherwise =>
    .case (exprUnwrapped? operand) (branchesUnwrapped branches) (exprUnwrapped? otherwise)
  | .cast form operand type => .cast form operand.unwrapped type
  | .verbatim _ => .verbatim ""

/-- An expression that may be missing, unwrapped. -/
def exprUnwrapped? : Option Expr → Option Expr
  | none => none
  | some e => some e.unwrapped

/-- Some expressions, unwrapped. -/
def exprsUnwrapped : List Expr → List Expr
  | [] => []
  | e :: rest => e.unwrapped :: exprsUnwrapped rest

/-- Some rows of expressions, unwrapped. -/
def rowsUnwrapped : List (List Expr) → List (List Expr)
  | [] => []
  | row :: rest => exprsUnwrapped row :: rowsUnwrapped rest

/-- Some branches with nothing wrapped. -/
def branchesUnwrapped : List Branch → List Branch
  | [] => []
  | .mk condition result :: rest =>
    .mk condition.unwrapped result.unwrapped :: branchesUnwrapped rest

/-- The arguments of a call with nothing wrapped. -/
def Arguments.unwrapped : Arguments → Arguments
  | .absent => .absent
  | .query query => .query query.unwrapped
  | .list quantifier arguments _ => .list quantifier (argumentsUnwrapped arguments) ""

/-- Some arguments with nothing wrapped. -/
def argumentsUnwrapped : List Argument → List Argument
  | [] => []
  | .positional value :: rest => .positional value.unwrapped :: argumentsUnwrapped rest
  | .named name operator value :: rest =>
    .named name operator value.unwrapped :: argumentsUnwrapped rest
  | .verbatim _ :: rest => .verbatim "" :: argumentsUnwrapped rest

/-- A query with nothing wrapped. -/
def Query.unwrapped : Query → Query
  | .mk recursive ctes body orderBy limit _ =>
    .mk recursive (ctesUnwrapped ctes) body.unwrapped orderBy.unwrapped limit.unwrapped ""

/-- Some common table expressions with nothing wrapped. -/
def ctesUnwrapped : List Cte → List Cte
  | [] => []
  | .mk aliasName hint query source :: rest =>
    .mk aliasName hint query.unwrapped source :: ctesUnwrapped rest

/-- What rows are ordered by, with nothing wrapped. -/
def OrderBy.unwrapped : OrderBy → OrderBy
  | .keys keys _ => .keys (keysUnwrapped keys) ""

/-- Some keys of an order with nothing wrapped. -/
def keysUnwrapped : List OrderKey → List OrderKey
  | [] => []
  | .mk key _ :: rest => .mk key.unwrapped "" :: keysUnwrapped rest

/-- A limit with nothing wrapped. -/
def Limit.unwrapped : Limit → Limit
  | .clauses count offset _ => .clauses (exprUnwrapped? count) (exprUnwrapped? offset) ""
  | .comma offset count => .comma offset.unwrapped count.unwrapped

/-- The body of a query with nothing wrapped. -/
def SetExpr.unwrapped : SetExpr → SetExpr
  | .select select => .select select.unwrapped
  | .query query => .query query.unwrapped
  | .operation left op quantifier right => .operation left.unwrapped op quantifier right.unwrapped
  | .values keyword row rows => .values keyword row (rowsUnwrapped rows)
  | .verbatim _ => .verbatim ""

/-- A `SELECT` with nothing wrapped. -/
def Select.unwrapped : Select → Select
  | .mk form _ projection into sources _ selection groupBy _ having _ =>
    .mk form "" (itemsUnwrapped projection) into (sourcesUnwrapped sources) ""
      (exprUnwrapped? selection) groupBy.unwrapped "" (exprUnwrapped? having) ""

/-- What rows are grouped by, with nothing wrapped. -/
def GroupBy.unwrapped : GroupBy → GroupBy
  | .keys keys _ => .keys (exprsUnwrapped keys) ""
  | .all _ => .all ""

/-- Some items of a projection with nothing wrapped. -/
def itemsUnwrapped : List SelectItem → List SelectItem
  | [] => []
  | .expr value aliasName :: rest => .expr value.unwrapped aliasName :: itemsUnwrapped rest
  | .wildcard _ :: rest => .wildcard "" :: itemsUnwrapped rest

/-- Some sources with nothing wrapped. -/
def sourcesUnwrapped : List TableJoins → List TableJoins
  | [] => []
  | t :: rest => t.unwrapped :: sourcesUnwrapped rest

/-- A source and its joins with nothing wrapped. -/
def TableJoins.unwrapped : TableJoins → TableJoins
  | .mk relation joins => .mk relation.unwrapped (joinsUnwrapped joins)

/-- Some joins with nothing wrapped. -/
def joinsUnwrapped : List Join → List Join
  | [] => []
  | .mk isGlobal kind relation constraint :: rest =>
    .mk isGlobal kind.unwrapped relation.unwrapped constraint.unwrapped :: joinsUnwrapped rest

/-- A source of rows with nothing wrapped. -/
def TableFactor.unwrapped : TableFactor → TableFactor
  | .table name _ aliasName _ => .table name "" aliasName ""
  | .derived lateral query aliasName => .derived lateral query.unwrapped aliasName
  | .nested inner aliasName => .nested inner.unwrapped aliasName
  | .verbatim _ aliasName _ => .verbatim "" aliasName ""

/-- What a join matches rows by, with nothing wrapped. -/
def JoinConstraint.unwrapped : JoinConstraint → JoinConstraint
  | .on condition => .on condition.unwrapped
  | .using columns => .using columns
  | .natural => .natural
  | .none => .none

end

end QueryLint.Sql
