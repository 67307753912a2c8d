/-!
# Outlines of queries

What the linter looks at: a tree of selections, sources and expressions in which every expression is
told by one operator tag. Compound queries are chained through `prior`, joins are flattened into one
list of sources, and parentheses disappear.
-/

namespace QueryLint.Outline

/-- The tag of an expression. -/
inductive Op where
  | and
  | or
  | not
  | eq
  | ne
  | gt
  | ge
  | lt
  | le
  | is
  | isNot
  | isNull
  | notNull
  | isIn
  | like
  | between
  | bitAnd
  | bitOr
  | bitXor
  | bitNot
  | shiftLeft
  | shiftRight
  | plus
  | minus
  | multiply
  | divide
  | modulo
  | concat
  | negate
  /-- A plain name. -/
  | id
  /-- A member, `left.right`. -/
  | dot
  | literal
  | function
  | case
  | cast
  | exists
  /-- A query in place of a value. -/
  | select
  /-- `*` or `t.*`. -/
  | wildcard
  | other
  deriving DecidableEq, Repr, Inhabited

namespace Op

/-- Operators on the bits of numbers. -/
def isBitwise : Op → Bool
  | bitAnd | bitOr | bitXor | bitNot | shiftLeft | shiftRight => true
  | _ => false

/-- Comparisons whose left operand an index can serve. -/
def isIndexComparison : Op → Bool
  | is | isIn | isNull | eq | gt | le | lt | ge => true
  | _ => false

end Op

mutual

/-- An expression. -/
structure Expr where
  op : Op
  left : Option Expr
  right : Option Expr
  /-- The query inside. -/
  select : Option Select
  /-- Arguments, members, bounds or branches. -/
  list : List Expr
  /-- The text of a name or a literal. -/
  token : Option String

/-- A selection, or one member of a compound query. -/
structure Select where
  /-- The bodies of the common table expressions. -/
  ctes : List Select
  /-- The member before this one in a compound query. -/
  prior : Option Select
  projection : List Expr
  sources : List Source
  selection : Option Expr
  groupBy : List Expr
  orderBy : List Expr
  having : Option Expr
  limit : Option Expr
  offset : Option Expr

/-- A source of rows. -/
structure Source where
  /-- The name of a table, absent for a derived one. -/
  name : Option String
  aliasName : Option String
  /-- The body of a derived table. -/
  select : Option Select
  /-- The columns of `USING`. -/
  columns : Option (List String)
  /-- The condition of `ON`. -/
  on : Option Expr

end

instance : Inhabited Expr := ⟨⟨.other, none, none, none, [], none⟩⟩

namespace Expr

/-- An expression that is only its tag. -/
def bare (op : Op) : Expr := ⟨op, none, none, none, [], none⟩

/-- A tag with a text. -/
def leaf (op : Op) (token : String) : Expr := { bare op with token := some token }

/-- A tag with one operand. -/
def unary (op : Op) (operand : Expr) : Expr := { bare op with left := some operand }

/-- A tag with two operands. -/
def binary (op : Op) (left right : Expr) : Expr :=
  { bare op with left := some left, right := some right }

/-- The dotted name that an expression is, or the empty text. -/
def identifier : Expr → String
  | ⟨.id, _, _, _, _, token⟩ => token.getD ""
  | ⟨.dot, left, right, _, _, _⟩ =>
    let before := match left with
      | some e => e.identifier
      | none => ""
    let behind := match right with
      | some e => e.identifier
      | none => ""
    before ++ "." ++ behind
  | _ => ""

end Expr

instance : Inhabited Select := ⟨⟨[], none, [], [], none, [], [], none, none, none⟩⟩

/-- The selection without any part. -/
def Select.blank : Select := default

instance : Inhabited Source := ⟨⟨none, none, none, none, none⟩⟩

namespace Source

/-- The source without any part. -/
def blank : Source := default

/-- A table. -/
def table (name : String) : Source := { blank with name := some name }

/-- A derived table. -/
def derived (select : Select) : Source := { blank with select := some select }

end Source

end QueryLint.Outline
