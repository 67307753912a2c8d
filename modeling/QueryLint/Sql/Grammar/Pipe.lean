import QueryLint.Sql.Grammar.Change

/-!
# Pipes

A query may hand its rows to operators, one behind the other. This module reads the operators with
the sign in front of each.
-/

namespace QueryLint.Sql

namespace Reader

/-! ### Parts of operators -/

/-- Every word up to the end of the statement or an equals sign. Whatever stands between them is
passed over. -/
def wordsToEnd : Reader (List String) := do
  let ends (l : Lexeme) : Bool := l.token == .sign ";" || l.token == .sign "="
  let rest ← left
  setLeft (rest.dropWhile fun l => !ends l)
  return (rest.takeWhile fun l => !ends l).filterMap fun l =>
    match l.token with
    | .word w => some (identOf w).render
    | _ => none

/-- How the rows of two queries are counted when they are combined. -/
def setQuantifier : Reader String := do
  if ← keywords ["DISTINCT", "BY", "NAME"] then return " DISTINCT BY NAME"
  else if ← keywords ["BY", "NAME"] then return " BY NAME"
  else if ← keyword "ALL" then
    if ← keywords ["BY", "NAME"] then return " ALL BY NAME" else return " ALL"
  else if ← keyword "DISTINCT" then return " DISTINCT"
  else return ""

/-- An expression that rows are gathered by, with its name and its direction. -/
def gatheredExpression (d : Deeper) : Reader String := do
  let e ← expressionText d
  let name ← match ← aliasWord (fun k => !(["ASC", "DESC", "GROUP"].contains k)) with
    | some (_, name) => pure (" AS " ++ name.render)
    | none => pure ""
  return e ++ name ++ (← optionalOneOf ["ASC", "DESC"])

/-- A name behind what it names, announced by `AS` or not. -/
def nameBehind : Reader String := do
  if ← keyword "AS" then return " AS " ++ (← ident).render
  else match ← attempt ident with
    | some name => return " AS " ++ name.render
    | none => return ""

/-- Queries in parentheses that a set operator takes, which may have to be told to keep no
duplicates. -/
def pipedQueries (d : Deeper) (word : String) (distinct : Bool) : Reader String := do
  let quantifier ← setQuantifier
  if distinct && !(["DISTINCT", "DISTINCT BY NAME"].contains (quantifier.drop 1).toString) then
    broken s!"{word} pipe operator requires DISTINCT modifier" Place.none
  else
    let queries ← commaList (parenthesized d.query)
    let list := commaSeparated (queries.map fun q => s!"({q.render})")
    return s!"{word}{quantifier} {list}"

/-- A turn of rows into columns. -/
def pipedPivot (d : Deeper) : Reader String := do
  let content ← parenthesized do
    let aggregates ← commaList (pivotAggregate d)
    expectKeyword "FOR"
    let column ← objectName
    expectKeyword "IN"
    let values ← parenthesized (pivotValues d)
    return s!"{commaSeparated aggregates} FOR {column.render} IN ({values})"
  return s!"PIVOT({content}){← nameBehind}"

/-- A turn of columns into rows. -/
def pipedUnpivot : Reader String := do
  let content ← parenthesized do
    let value ← ident
    expectKeyword "FOR"
    let name ← ident
    expectKeyword "IN"
    let columns ← parenthesized (commaList ident)
    return s!"{value.render} FOR {name.render} IN ({commaSeparated (columns.map Ident.render)})"
  return s!"UNPIVOT({content}){← nameBehind}"

/-- The one join that an operator may make. -/
def pipedJoin (d : Deeper) : Reader String := do
  let joins ← many (nextJoin d (do sourceFrom d ((← size) + 1)))
  if joins.length == 1 then return ((renderJoins joins).drop 1).toString
  else broken "Join pipe operator must have a single join" Place.none

/-! ### Operators -/

/-- The words that open an operator. -/
def pipeWords : List String := [
  "SELECT", "EXTEND", "SET", "DROP", "AS", "WHERE", "LIMIT", "AGGREGATE", "ORDER", "TABLESAMPLE",
  "RENAME", "UNION", "INTERSECT", "EXCEPT", "CALL", "PIVOT", "UNPIVOT", "JOIN", "INNER", "LEFT",
  "RIGHT", "FULL", "CROSS"]

/-- An operator that changes the columns of the rows, told by its word, from behind it. -/
def columnOperator (d : Deeper) (k : String) : Reader (Option String) := do
  match k with
  | "SELECT" | "EXTEND" =>
    return some s!"{k} {commaSeparated (renderItems (← commaList (selectItem d)))}"
  | "SET" => return some s!"SET {← assignments d}"
  | "DROP" => return some s!"DROP {commaSeparated (← wordsToEnd)}"
  | "RENAME" => return some s!"RENAME {commaSeparated (← commaList renamedColumn)}"
  | "AGGREGATE" =>
    let whole ←
      if (← peekKeyword) == "GROUP" then pure ""
      else pure (" " ++ commaSeparated (← commaList (gatheredExpression d)))
    let groups ← clause ["GROUP", "BY"] (commaSeparated <$> commaList (gatheredExpression d))
    return some s!"AGGREGATE{whole}{groups}"
  | "PIVOT" => some <$> pipedPivot d
  | "UNPIVOT" => some <$> pipedUnpivot
  | _ => return none

/-- An operator that chooses, orders or combines rows, told by its word, which has not been
taken. -/
def rowOperator (d : Deeper) (k : String) : Reader String := do
  let _ ← advance
  match k with
  | "AS" => return s!"AS {(← ident).render}"
  | "WHERE" => return s!"WHERE {← expressionText d}"
  | "LIMIT" =>
    let count ← expressionText d
    return s!"LIMIT {count}" ++ (← clause ["OFFSET"] (expressionText d))
  | "ORDER" =>
    let _ ← expectOneOf ["BY"]
    return s!"ORDER BY {← orderKeysText d}"
  | "UNION" => pipedQueries d k false
  | "INTERSECT" | "EXCEPT" => pipedQueries d k true
  | _ =>
    let call ← callOf d (← objectName)
    return s!"CALL {call.render}{← nameBehind}"

/-- An operator that the rows of a query are handed to. -/
def pipeOperator (d : Deeper) : Reader String := do
  let k ← peekKeyword
  if ["JOIN", "INNER", "LEFT", "RIGHT", "FULL", "CROSS"].contains k then pipedJoin d
  else if k == "TABLESAMPLE" then return ((← tableSample d).drop 1).toString
  else if ["AS", "WHERE", "LIMIT", "ORDER", "UNION", "INTERSECT", "EXCEPT", "CALL"].contains k then
    rowOperator d k
  else
    let word ← expectOneOf pipeWords
    match ← columnOperator d word with
    | some text => return text
    | none => expected "an operator"

/-- All operators that the rows of a query are handed to, each with its sign. -/
def pipeOperators (d : Deeper) : Reader String := do
  String.join <$> many do
    if ← sign "|>" then return some (" |> " ++ (← pipeOperator d)) else return none

end Reader

end QueryLint.Sql
