import QueryLint.Sql.Printer

/-!
# Other names for tables

A syntax tree in which the tables that `FROM` clauses name have other names, each told by the text
of the old one, and everything else is as it was: columns and their qualifiers, aliases, functions
and collations. Two trees that differ only in how they spell the names of tables are both made of
one tree in this way, in which every table has a name of its own.
-/

namespace QueryLint.Sql

mutual

/-- An expression with other names for tables. -/
def Expr.withTables (names : String → ObjectName) : Expr → Expr
  | .ident name => .ident name
  | .compound parts => .compound parts
  | .value v => .value v
  | .nested inner => .nested (inner.withTables names)
  | .collate inner collation => .collate (inner.withTables names) collation
  | .binary left op right => .binary (left.withTables names) op (right.withTables names)
  | .unary op operand => .unary op (operand.withTables names)
  | .pattern kind negated any operand pattern escape =>
    .pattern kind negated any (operand.withTables names) (pattern.withTables names) escape
  | .inList operand negated members =>
    .inList (operand.withTables names) negated (exprsWithTables names members)
  | .inQuery operand negated query =>
    .inQuery (operand.withTables names) negated (query.withTables names)
  | .isNull operand => .isNull (operand.withTables names)
  | .isNotNull operand => .isNotNull (operand.withTables names)
  | .isTruth operand negated truth => .isTruth (operand.withTables names) negated truth
  | .distinct left same right => .distinct (left.withTables names) same (right.withTables names)
  | .between operand negated low high =>
    .between (operand.withTables names) negated (low.withTables names) (high.withTables names)
  | .subquery query => .subquery (query.withTables names)
  | .exists negated query => .exists negated (query.withTables names)
  | .call braced name parameters arguments suffix =>
    .call braced name parameters (arguments.withTables names) suffix
  | .case operand branches otherwise =>
    .case (exprWithTables? names operand) (branchesWithTables names branches)
      (exprWithTables? names otherwise)
  | .cast form operand type => .cast form (operand.withTables names) type
  | .verbatim text => .verbatim text

/-- An expression that may be missing, with other names for tables. -/
def exprWithTables? (names : String → ObjectName) : Option Expr → Option Expr
  | none => none
  | some e => some (e.withTables names)

/-- Some expressions with other names for tables. -/
def exprsWithTables (names : String → ObjectName) : List Expr → List Expr
  | [] => []
  | e :: rest => e.withTables names :: exprsWithTables names rest

/-- Some rows of expressions with other names for tables. -/
def rowsWithTables (names : String → ObjectName) : List (List Expr) → List (List Expr)
  | [] => []
  | row :: rest => exprsWithTables names row :: rowsWithTables names rest

/-- Some branches with other names for tables. -/
def branchesWithTables (names : String → ObjectName) : List Branch → List Branch
  | [] => []
  | .mk condition result :: rest =>
    .mk (condition.withTables names) (result.withTables names) :: branchesWithTables names rest

/-- The arguments of a call with other names for tables. -/
def Arguments.withTables (names : String → ObjectName) : Arguments → Arguments
  | .absent => .absent
  | .query query => .query (query.withTables names)
  | .list quantifier arguments clauses =>
    .list quantifier (argumentsWithTables names arguments) clauses

/-- Some arguments with other names for tables. -/
def argumentsWithTables (names : String → ObjectName) : List Argument → List Argument
  | [] => []
  | .positional value :: rest =>
    .positional (value.withTables names) :: argumentsWithTables names rest
  | .named name operator value :: rest =>
    .named name operator (value.withTables names) :: argumentsWithTables names rest
  | .verbatim text :: rest => .verbatim text :: argumentsWithTables names rest

/-- A query with other names for tables. -/
def Query.withTables (names : String → ObjectName) : Query → Query
  | .mk recursive ctes body orderBy limit tail =>
    .mk recursive (ctesWithTables names ctes) (body.withTables names) (orderBy.withTables names)
      (limit.withTables names) tail

/-- Some common table expressions with other names for tables. -/
def ctesWithTables (names : String → ObjectName) : List Cte → List Cte
  | [] => []
  | .mk aliasName hint query source :: rest =>
    .mk aliasName hint (query.withTables names) source :: ctesWithTables names rest

/-- What rows are ordered by, with other names for tables. -/
def OrderBy.withTables (names : String → ObjectName) : OrderBy → OrderBy
  | .keys keys tail => .keys (keysWithTables names keys) tail

/-- Some keys of an order with other names for tables. -/
def keysWithTables (names : String → ObjectName) : List OrderKey → List OrderKey
  | [] => []
  | .mk key options :: rest => .mk (key.withTables names) options :: keysWithTables names rest

/-- A limit with other names for tables. -/
def Limit.withTables (names : String → ObjectName) : Limit → Limit
  | .clauses count offset tail =>
    .clauses (exprWithTables? names count) (exprWithTables? names offset) tail
  | .comma offset count => .comma (offset.withTables names) (count.withTables names)

/-- The body of a query with other names for tables. -/
def SetExpr.withTables (names : String → ObjectName) : SetExpr → SetExpr
  | .select select => .select (select.withTables names)
  | .query query => .query (query.withTables names)
  | .operation left op quantifier right =>
    .operation (left.withTables names) op quantifier (right.withTables names)
  | .values keyword row rows => .values keyword row (rowsWithTables names rows)
  | .verbatim text => .verbatim text

/-- A `SELECT` with other names for tables. -/
def Select.withTables (names : String → ObjectName) : Select → Select
  | .mk form head projection into sources beforeWhere selection groupBy beforeHaving having tail =>
    .mk form head (itemsWithTables names projection) into
      (sourcesWithTables names sources) beforeWhere
      (exprWithTables? names selection) (groupBy.withTables names) beforeHaving
        (exprWithTables? names having) tail

/-- What rows are grouped by, with other names for tables. -/
def GroupBy.withTables (names : String → ObjectName) : GroupBy → GroupBy
  | .keys keys modifiers => .keys (exprsWithTables names keys) modifiers
  | .all modifiers => .all modifiers

/-- Some items of a projection with other names for tables. -/
def itemsWithTables (names : String → ObjectName) : List SelectItem → List SelectItem
  | [] => []
  | .expr value aliasName :: rest =>
    .expr (value.withTables names) aliasName :: itemsWithTables names rest
  | .wildcard text :: rest => .wildcard text :: itemsWithTables names rest

/-- Some sources with other names for tables. -/
def sourcesWithTables (names : String → ObjectName) : List TableJoins → List TableJoins
  | [] => []
  | t :: rest => t.withTables names :: sourcesWithTables names rest

/-- A source and its joins with other names for tables. -/
def TableJoins.withTables (names : String → ObjectName) : TableJoins → TableJoins
  | .mk relation joins => .mk (relation.withTables names) (joinsWithTables names joins)

/-- Some joins with other names for tables. -/
def joinsWithTables (names : String → ObjectName) : List Join → List Join
  | [] => []
  | .mk isGlobal kind relation constraint :: rest =>
    .mk isGlobal kind (relation.withTables names) (constraint.withTables names) :: joinsWithTables
      names rest

/-- A source of rows with another name, if it is a table. -/
def TableFactor.withTables (names : String → ObjectName) : TableFactor → TableFactor
  | .table name beforeAlias aliasName behindAlias =>
    .table (names name.render) beforeAlias aliasName behindAlias
  | .derived lateral query aliasName => .derived lateral (query.withTables names) aliasName
  | .nested inner aliasName => .nested (inner.withTables names) aliasName
  | .verbatim beforeAlias aliasName behindAlias => .verbatim beforeAlias aliasName behindAlias

/-- What a join matches rows by, with other names for tables. -/
def JoinConstraint.withTables (names : String → ObjectName) : JoinConstraint → JoinConstraint
  | .on condition => .on (condition.withTables names)
  | .using columns => .using columns
  | .natural => .natural
  | .none => .none

end

end QueryLint.Sql
