/-!
# Syntax trees of SQL statements

The trees that the grammar builds and the linter reads. Queries, sources, joins and the expressions
that the linter gives a meaning to have a shape of their own. A clause of such a form that the
linter passes over (the window of a call, the sample of a table, `FETCH FIRST`, …) is a `Passage`:
its canonical text, and the expressions and queries written in it. Every other form (`EXTRACT`,
tuples, …) keeps its canonical text alone.
-/

namespace QueryLint.Sql

/-- A name, with the quote it was written in. -/
structure Ident where
  value : String
  quote : Option Char
  deriving DecidableEq, Repr, Inhabited

namespace Ident

/-- A name without quotes. -/
def plain (value : String) : Ident := ⟨value, none⟩

end Ident

/-- A dotted name. -/
structure ObjectName where
  parts : List Ident
  deriving DecidableEq, Repr, Inhabited

/-- A literal value, or a placeholder for one. -/
inductive Value where
  | number (digits : String) (long : Bool)
  | single (content : String)
  | double (content : String)
  | dollar (tag : Option String) (content : String)
  | escape (content : String)
  | unicode (content : String)
  | national (content : String)
  | hex (content : String)
  | byteSingle (content : String)
  | byteDouble (content : String)
  | rawSingle (content : String)
  | rawDouble (content : String)
  | longRawSingle (content : String)
  | longRawDouble (content : String)
  | boolean (value : Bool)
  | null
  | placeholder (name : String)
  deriving DecidableEq, Repr, Inhabited

/-- An operator between two operands. -/
inductive BinaryOp where
  | and
  | or
  | eq
  | ne
  | gt
  | ge
  | lt
  | le
  | bitAnd
  | bitOr
  | bitXor
  | shiftLeft
  | shiftRight
  | plus
  | minus
  | multiply
  | divide
  | modulo
  | concat
  /-- An operator that the linter gives no meaning to, by its spelling. -/
  | other (spelling : String)
  deriving DecidableEq, Repr, Inhabited

/-- An operator on one operand. -/
inductive UnaryOp where
  | not
  | bitNot
  | minus
  | plus
  /-- Another operator before its operand, by its spelling. -/
  | before (spelling : String)
  /-- Another operator behind its operand, by its spelling. -/
  | behind (spelling : String)
  deriving DecidableEq, Repr, Inhabited

/-- The ways to match a text against a pattern. -/
inductive PatternMatch where
  | like
  | ilike
  | similarTo
  | rlike
  | regexp
  deriving DecidableEq, Repr, Inhabited

/-- The truth values that `IS` can ask for. -/
inductive Truth where
  | true
  | false
  | unknown
  deriving DecidableEq, Repr, Inhabited

/-- The ways to write a type conversion. -/
inductive CastForm where
  | cast
  | tryCast
  | safeCast
  | doubleColon
  deriving DecidableEq, Repr, Inhabited

/-- The operators that combine two queries. -/
inductive SetOp where
  | union
  | except
  | intersect
  | minus
  deriving DecidableEq, Repr, Inhabited

/-- The ways to join a source to those before it. -/
inductive JoinKind where
  | join
  | inner
  | left
  | leftOuter
  | right
  | rightOuter
  | full
  | semi
  | leftSemi
  | rightSemi
  | anti
  | leftAnti
  | rightAnti
  | cross
  | straight
  /-- A join on the closest match, with the text of its condition. -/
  | asOf (condition : String)
  | crossApply
  | outerApply
  deriving DecidableEq, Repr, Inhabited

/-- Where the parts of a `SELECT` stand. -/
inductive SelectForm where
  | standard
  /-- `FROM … SELECT …` -/
  | fromFirst
  /-- `FROM …` alone -/
  | fromOnly
  deriving DecidableEq, Repr, Inhabited

mutual

/-- An expression. -/
inductive Expr where
  | ident (name : Ident)
  /-- A dotted name of two or more parts. -/
  | compound (parts : List Ident)
  | value (value : Value)
  /-- An expression in parentheses. -/
  | nested (inner : Expr)
  | collate (inner : Expr) (collation : ObjectName)
  | binary (left : Expr) (op : BinaryOp) (right : Expr)
  | unary (op : UnaryOp) (operand : Expr)
  | pattern (kind : PatternMatch) (negated any : Bool) (operand pattern : Expr)
      (escape : Option Value)
  | inList (operand : Expr) (negated : Bool) (members : List Expr)
  | inQuery (operand : Expr) (negated : Bool) (query : Query)
  | isNull (operand : Expr)
  | isNotNull (operand : Expr)
  | isTruth (operand : Expr) (negated : Bool) (truth : Truth)
  /-- `IS [NOT] DISTINCT FROM`; `same` asks for operands that are not distinct. -/
  | distinct (left : Expr) (same : Bool) (right : Expr)
  | between (operand : Expr) (negated : Bool) (low high : Expr)
  | subquery (query : Query)
  | exists (negated : Bool) (query : Query)
  /-- A call, with its parameters and what may follow its arguments; one in braces is written
  `{fn f(…)}`. -/
  | call (braced : Bool) (name : ObjectName) (parameters : Passage) (arguments : Arguments)
      (suffix : Passage)
  | case (operand : Option Expr) (branches : List Branch) (otherwise : Option Expr)
  /-- A conversion to a type. -/
  | cast (form : CastForm) (operand : Expr) (type : Passage)
  /-- Any other form, by its text. -/
  | verbatim (text : String)

/-- A clause that the linter passes over: its canonical text, and the expressions and queries
written in it. -/
structure Passage where
  text : String
  exprs : List Expr
  queries : List Query

/-- The alias of a source, with its columns. -/
structure TableAlias where
  /-- The alias was announced by `AS`. -/
  explicit : Bool
  name : Ident
  /-- The names of the columns, each with its type if it has one. -/
  columns : List Passage

/-- One `WHEN … THEN …` of a case expression. -/
inductive Branch where
  | mk (condition result : Expr)

/-- The arguments of a call. -/
inductive Arguments where
  /-- No parentheses at all. -/
  | absent
  | query (query : Query)
  /-- A list, with what stands before and behind it. -/
  | list (quantifier : String) (arguments : List Argument) (clauses : Passage)

/-- An argument of a call. -/
inductive Argument where
  | positional (value : Expr)
  | named (name : Ident) (operator : String) (value : Expr)
  /-- A wildcard, or an argument whose name is an expression. -/
  | verbatim (content : Passage)

/-- A query: common table expressions, a body, and what orders and limits its rows. -/
inductive Query where
  | mk (recursive : Bool) (ctes : List Cte) (body : SetExpr) (orderBy : OrderBy) (limit : Limit)
      (tail : Passage)

/-- A common table expression. The hint is the text between `AS` and the query. -/
inductive Cte where
  | mk (aliasName : TableAlias) (hint : String) (query : Query) (source : Option Ident)

/-- What rows are ordered by. -/
inductive OrderBy where
  /-- `ORDER BY` with its keys and what stands behind them; without keys, no clause at all. -/
  | keys (keys : List OrderKey) (tail : Passage)

/-- One key of an order, with its options. -/
inductive OrderKey where
  | mk (key : Expr) (options : Passage)

/-- How many rows are returned, and from which one on. -/
inductive Limit where
  /-- `LIMIT count OFFSET offset`, each part optional, with what stands behind them. -/
  | clauses (count offset : Option Expr) (tail : Passage)
  /-- `LIMIT offset, count`. -/
  | comma (offset count : Expr)

/-- The body of a query. -/
inductive SetExpr where
  | select (select : Select)
  | query (query : Query)
  | operation (left : SetExpr) (op : SetOp) (quantifier : String) (right : SetExpr)
  /-- Rows of values, with the keyword that opens them and the one before each row. -/
  | values (keyword row : String) (rows : List (List Expr))
  /-- A statement that changes data, by its text. -/
  | verbatim (text : String)

/-- A `SELECT`. The passages are the clauses before the projection, around the groups, and at the
end; the text is that of the table that is written into. -/
inductive Select where
  | mk (form : SelectForm) (head : Passage) (projection : List SelectItem) (into : String)
      (sources : List TableJoins) (beforeWhere : Passage) (selection : Option Expr)
      (groupBy : GroupBy) (beforeHaving : Passage) (having : Option Expr) (tail : Passage)

/-- What rows are grouped by. -/
inductive GroupBy where
  /-- `GROUP BY` with its keys and its modifiers; without keys, no clause at all. -/
  | keys (keys : List Expr) (modifiers : Passage)
  | all (modifiers : Passage)

/-- An item of a projection. -/
inductive SelectItem where
  | expr (value : Expr) (aliasName : Option Ident)
  /-- `*` or `t.*`, with its options. -/
  | wildcard (content : Passage)

/-- A source with the joins that follow it. -/
inductive TableJoins where
  | mk (relation : TableFactor) (joins : List Join)

/-- A source of rows. -/
inductive TableFactor where
  /-- A table or table function; the passages are what stands before and behind its alias, the
  arguments of the function among it. -/
  | table (name : ObjectName) (beforeAlias : Passage) (aliasName : Option TableAlias)
      (behindAlias : Passage)
  | derived (lateral : Bool) (query : Query) (aliasName : Option TableAlias)
  | nested (inner : TableJoins) (aliasName : Option TableAlias)
  /-- Any other source, by the texts before and behind its alias. -/
  | verbatim (beforeAlias : String) (aliasName : Option TableAlias) (behindAlias : String)

/-- A join. -/
inductive Join where
  | mk (global : Bool) (kind : JoinKind) (relation : TableFactor) (constraint : JoinConstraint)

/-- What a join matches rows by. -/
inductive JoinConstraint where
  | on (condition : Expr)
  | using (columns : List ObjectName)
  | natural
  | none

end

/-- A statement. Only queries are looked into. -/
inductive Statement where
  | query (query : Query)
  /-- Any other statement, by its text. -/
  | verbatim (text : String)

instance : Inhabited Expr := ⟨.verbatim ""⟩

namespace Passage

/-- A text in which no expression and no query is written. -/
instance : Coe String Passage := ⟨fun text => ⟨text, [], []⟩⟩

/-- One passage behind another. -/
instance : Append Passage :=
  ⟨fun a b => ⟨a.text ++ b.text, a.exprs ++ b.exprs, a.queries ++ b.queries⟩⟩

end Passage

end QueryLint.Sql
