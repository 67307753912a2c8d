import QueryLint.Sql.Grammar.Basic

/-!
# How tightly operators bind

An operator takes its operands before every operator that binds less tightly. This module says which
class of operators the next token belongs to (`Reader.nextBinding`), and how tightly a class binds
in a dialect (`Dialect.power`). Power 0 belongs to what is no operator.
-/

namespace QueryLint.Sql

/-- The classes of operators that bind equally. -/
inductive Binding where
  | member
  | cast
  | bracket
  | collation
  | timeZone
  | product
  | sum
  | exclusive
  | bitAnd
  | shift
  | bitOr
  | range
  | comparison
  | pattern
  | test
  | custom
  | negation
  | conjunction
  | disjunction
  deriving DecidableEq, Repr, Inhabited

namespace Dialect

/-- How tightly a class of operators binds. -/
def power (d : Dialect) (b : Binding) : Nat :=
  if d == postgresql then
    match b with
    | .member => 200
    | .cast => 140
    | .bracket => 130
    | .collation => 120
    | .timeZone => 110
    | .shift => 100
    | .product => 90
    | .sum => 80
    | .exclusive => 75
    | .bitAnd | .bitOr | .custom => 70
    | .range | .pattern => 60
    | .comparison => 50
    | .test => 40
    | .negation => 30
    | .conjunction => 20
    | .disjunction => 10
  else
    match b with
    | .member => 100
    | .cast | .bracket => 50
    | .collation => 0
    | .timeZone => 41
    | .product => 40
    | .sum => 30
    | .exclusive => 24
    | .bitAnd => 23
    | .shift => 22
    | .bitOr => 21
    | .range | .comparison => 20
    | .pattern => 19
    | .test => 17
    | .custom => 16
    | .negation => 15
    | .conjunction => 10
    | .disjunction => 5

/-- Signs with the class they belong to in every dialect. -/
def signBindings : List (String × Binding) := [
  (".", .member), (":=", .comparison), ("=", .comparison), ("<", .comparison),
  ("<=", .comparison), ("<>", .comparison), (">", .comparison), (">=", .comparison),
  ("==", .comparison), ("~", .comparison), ("~*", .comparison), ("!~", .comparison),
  ("!~*", .comparison), ("~~", .comparison), ("~~*", .comparison), ("!~~", .comparison),
  ("!~~*", .comparison), ("<=>", .comparison), ("|", .bitOr), ("?-", .bitOr), ("##", .bitOr),
  ("&&", .bitOr), ("&<", .bitOr), ("&>", .bitOr), ("?-|", .bitOr), ("&<|", .bitOr),
  ("|&>", .bitOr), ("<->", .bitOr), ("<^", .bitOr), (">^", .bitOr), ("?#", .bitOr),
  ("?||", .bitOr), ("?|", .bitOr), ("~=", .bitOr), ("@", .bitOr), ("<<|", .bitOr),
  ("|>>", .bitOr), ("^", .shift), ("#", .shift), ("<<", .shift), (">>", .shift),
  ("&", .bitAnd), ("+", .sum), ("-", .sum), ("*", .product), ("/", .product), ("//", .product),
  ("%", .product), ("||", .product), ("::", .cast), ("!", .cast), ("[", .bracket),
  ("^@", .cast), ("->", .custom), ("->>", .custom), ("#>", .custom), ("#>>", .custom),
  ("@>", .custom), ("<@", .custom), ("#-", .custom), ("@?", .custom), ("@@", .custom),
  ("?", .custom), ("?&", .custom)]

/-- Signs that are custom operators where operators can be defined. -/
def definableSigns : List String := ["!", "&&", "^@", "||", "#", "<<", ">>"]

/-- The class of a sign. -/
def signBinding? (d : Dialect) (spelling : String) : Option Binding :=
  if d.customOperators && definableSigns.contains spelling then some .custom
  else signBindings.lookup spelling

end Dialect

namespace Reader

/-- Words that can follow `NOT` between two operands, with the class they give it. -/
def negatedBindings : List (String × Binding) := [
  ("IN", .range), ("BETWEEN", .range), ("LIKE", .pattern), ("ILIKE", .pattern),
  ("RLIKE", .pattern), ("REGEXP", .pattern), ("MATCH", .pattern), ("SIMILAR", .pattern),
  ("MEMBER", .pattern)]

/-- Words that are operators wherever they stand between two operands. -/
def wordBindings : List (String × Binding) := [
  ("OR", .disjunction), ("AND", .conjunction), ("XOR", .exclusive), ("IS", .test),
  ("OVERLAPS", .range), ("OPERATOR", .range), ("DIV", .product)] ++ negatedBindings

/-- The class of the operator that comes next, if it is one. -/
def nextBinding : Reader (Option Binding) := do
  let d := (← read).dialect
  let inColumn ← inContext .columnDefinition
  match ← peekToken with
  | some (.word w) =>
    if w.keyword == "AT" then
      let rest := [keywordOf (← peekNth 1), keywordOf (← peekNth 2)]
      return if rest == ["TIME", "ZONE"] then some .timeZone else none
    else if w.keyword == "NOT" then
      let next := keywordOf (← peekNth 1)
      if next == "NULL" && !inColumn then return some .test
      else return negatedBindings.lookup next
    else if w.keyword == "NOTNULL" then
      return if d.notNullWord then some .test else none
    else if w.keyword == "COLLATE" then
      return if d.customOperators && !inColumn then some .collation else none
    else return wordBindings.lookup w.keyword
  | some (.sign s) => return d.signBinding? s
  | some (.operator _) => return some .custom
  | _ => return none

/-- How tightly the next token binds as an operator. -/
def nextPower : Reader Nat := do
  let d := (← read).dialect
  return ((← nextBinding).map d.power).getD 0

end Reader

end QueryLint.Sql
