import QueryLint.Sql.Grammar.Source

/-!
# Selections

Readers for a `SELECT` and its clauses, in the order in which they must stand.
-/

namespace QueryLint.Sql

namespace Reader

/-! ### The projection -/

/-- Names, in parentheses or one alone. -/
def namesOrOne : Reader String := do
  if ← sign "(" then
    let names ← commaList ident
    expectSign ")"
    return s!"({commaSeparated (names.map Ident.render)})"
  else return (← ident).render

/-- A column that a wildcard replaces by an expression. -/
def replacedColumn (d : Deeper) : Reader String := do
  let value ← expressionText d
  let as := if ← keyword "AS" then " AS " else " "
  return value ++ as ++ (← ident).render

/-- A column under another name. -/
def renamedColumn : Reader String := do
  let name ← ident
  let _ ← keyword "AS"
  return s!"{name.render} AS {(← ident).render}"

/-- The columns that a wildcard leaves out or renames. -/
def wildcardChanges (d : Deeper) : Reader String := do
  let except ← clause ["EXCEPT"] do
    let names ← if ← peekSign "(" then columnList else pure [← ident]
    return s!"({commaSeparated (names.map Ident.render)})"
  let replace ← clause ["REPLACE"] do
    if ← sign "(" then
      let columns ← commaList (replacedColumn d)
      expectSign ")"
      return s!"({commaSeparated columns})"
    else expected "( after REPLACE but"
  let rename ← clause ["RENAME"] do
    if ← sign "(" then
      let columns ← commaList renamedColumn
      expectSign ")"
      return s!"({commaSeparated columns})"
    else renamedColumn
  return except ++ replace ++ rename

/-- The options behind a wildcard. -/
def wildcardOptions (d : Deeper) : Reader String := do
  if ← trait Dialect.wildcardOptions then
    let like ← clause ["ILIKE"] do
      match ← peekToken with
      | some (.text .single content) =>
        let _ ← advance
        return quoted '\'' content
      | _ => expected "ilike pattern"
    let exclude ← if like.isEmpty then clause ["EXCLUDE"] namesOrOne else pure ""
    return like ++ exclude ++ (← wildcardChanges d)
  else return ""

/-- Whether an expression is the bare word that opens the sources. -/
def isFromWord (e : Expr) : Bool :=
  match e with
  | .ident ⟨value, none⟩ => value.map Char.toLower == "from"
  | _ => false

/-- An item of a projection. -/
def selectItem (d : Deeper) : Reader SelectItem := do
  match ← wildcard with
  | some text => return .wildcard (← passage do return text ++ (← wildcardOptions d))
  | none =>
    let e ← expression d
    if isFromWord e then broken s!"Expected an expression, found: {e.render}" (← place)
    else
      match ← aliasWord Keyword.isColumnAlias with
      | some (_, name) => return .expr e (some name)
      | none => return .expr e none

/-- Whether a projection that ends in a comma is over. -/
def projectionOver : Reader Bool := do
  if ← trait Dialect.projectionTrailingComma then
    match ← peekToken with
    | none => return true
    | some (.word w) => return Keyword.reservedForColumnAlias.contains w.keyword
    | some (.sign s) => return [")", ";", "]", "\x7d"].contains s
    | _ => return false
  else return false

/-- The items of a projection, which may be missing where the dialect allows it. -/
def projection (d : Deeper) : Reader (List SelectItem) := do
  if (← trait Dialect.emptyProjection) && (← peekKeyword) == "FROM" then return []
  else commaListUntil (selectItem d) projectionOver

/-- What stands between `SELECT` and its projection. `ALL` is not kept. -/
def selectHead (d : Deeper) : Reader String := do
  let word ← quantifier
  let distinct ←
    if word == "DISTINCT" then
      if ← keyword "ON" then
        let keys ← parenthesized (commaListBefore (expression d) ")")
        pure s!" DISTINCT ON ({commaSeparated (renderExprs keys)})"
      else pure " DISTINCT"
    else pure ""
  let top ←
    if ← keyword "TOP" then
      let quantity ←
        if isSign "(" (← peekToken) then pure s!"({← parenthesized (expressionText d)})"
        else naturalNumber
      let percent ← optionalWord "PERCENT"
      let ties ← if ← keywords ["WITH", "TIES"] then pure " WITH TIES" else pure ""
      pure s!" TOP {quantity}{percent}{ties}"
    else pure ""
  return distinct ++ top

/-- The table that a selection is written into. -/
def intoClause : Reader String := do
  if ← keyword "INTO" then
    let temporary := match ← oneOf ["TEMP", "TEMPORARY"] with
      | some _ => " TEMPORARY"
      | none => ""
    let unlogged ← optionalWord "UNLOGGED"
    let table ← optionalWord "TABLE"
    return s!" INTO{temporary}{unlogged}{table} {(← objectName).render}"
  else return ""

/-! ### Grouping -/

/-- A set of keys: keys in parentheses, which may be none, or one key alone. -/
def keySet (d : Deeper) (mayBeBare : Bool) : Reader (List Expr) := do
  if mayBeBare && !isSign "(" (← peekToken) then return [← expression d]
  else parenthesized (commaListBefore (expression d) ")")

/-- The text of a set of keys in parentheses. -/
def keySetText (keys : List Expr) : String :=
  s!"({commaSeparated (renderExprs keys)})"

/-- The text of a set of keys, where one alone needs no parentheses. -/
def shortKeySetText (keys : List Expr) : String :=
  match keys with
  | [e] => e.render
  | es => keySetText es

/-- A key that rows are grouped by. -/
def groupKey (d : Deeper) : Reader Expr := do
  if ← trait Dialect.groupingForms then
    if ← keywords ["GROUPING", "SETS"] then
      let sets ← parenthesized (commaList (keySet d false))
      return .verbatim s!"GROUPING SETS ({commaSeparated (sets.map keySetText)})"
    else
      match ← oneOf ["CUBE", "ROLLUP"] with
      | some k =>
        let sets ← parenthesized (commaList (keySet d true))
        return .verbatim s!"{k} ({commaSeparated (sets.map shortKeySetText)})"
      | none =>
        if isSign "(" (← peekToken) && isSign ")" (← peekNth 1) then
          skip 2
          return .verbatim "()"
        else expression d
  else expression d

/-- What is added to a grouping behind its keys. -/
def groupModifiers (d : Deeper) : Reader String := do
  let withs ←
    if ← trait Dialect.groupByModifiers then
      String.join <$> many do
        if ← keyword "WITH" then
          return some (" WITH " ++ (← expectOneOf ["ROLLUP", "CUBE", "TOTALS"]))
        else return none
    else pure ""
  let sets ←
    if ← keywords ["GROUPING", "SETS"] then
      let found ← parenthesized (commaList (keySet d true))
      pure s!" GROUPING SETS ({commaSeparated (found.map keySetText)})"
    else pure ""
  return withs ++ sets

/-- What rows are grouped by. -/
def groupBy (d : Deeper) : Reader GroupBy := do
  if ← keywords ["GROUP", "BY"] then
    if ← keyword "ALL" then return .all (← passage (groupModifiers d))
    else
      let keys ← commaList (groupKey d)
      return .keys keys (← passage (groupModifiers d))
  else return .keys [] ""

/-! ### Further clauses -/

/-- A named window. -/
def namedWindow (d : Deeper) : Reader String := do
  let name ← ident
  expectKeyword "AS"
  if ← sign "(" then return s!"{name.render} AS {← window d}"
  else if ← trait Dialect.extraClauses then return s!"{name.render} AS {(← ident).render}"
  else expected "("

/-- The windows that a selection names. -/
def windowClause (d : Deeper) : Reader String :=
  clause ["WINDOW"] do return commaSeparated (← commaList (namedWindow d))

/-- Named windows and the condition on them, in either order. -/
def windowClauses (d : Deeper) : Reader String := do
  let windows ← windowClause d
  let condition ← clause ["QUALIFY"] (expressionText d)
  let later ← if windows.isEmpty && !condition.isEmpty then windowClause d else pure ""
  return windows ++ condition ++ later

/-- The steps of a walk through a hierarchy. -/
def hierarchySteps (d : Deeper) : Reader String := do
  return " CONNECT BY " ++ (← within .hierarchy (expressionsText d))

/-- A walk through a hierarchy, whose start may stand before or behind its steps. -/
def hierarchyClause (d : Deeper) : Reader String := do
  let start : Reader String := do
    expectKeywords ["START", "WITH"]
    return " START WITH " ++ (← expressionText d)
  let next ← peekKeyword
  if (← trait Dialect.extraClauses) && (next == "START" || next == "CONNECT") then
    if ← keywords ["CONNECT", "BY"] then
      let steps ← hierarchySteps d
      return (← start) ++ steps
    else
      let first ← start
      expectKeywords ["CONNECT", "BY"]
      return first ++ (← hierarchySteps d)
  else return ""

/-- Keywords that end the columns of a view of elements. -/
def viewEndings : List String := ["WHERE", "GROUP", "CLUSTER", "HAVING", "LATERAL"]

/-- A view of the elements of a column. -/
def lateralView (d : Deeper) : Reader (Option String) := do
  if ← keywords ["LATERAL", "VIEW"] then
    let outer ← optionalWord "OUTER"
    let call ← expressionText d
    let name ← objectName
    let names ← commaList (aliasWord fun k => !viewEndings.contains k)
    let columns := names.filterMap fun found => found.map fun (_, column) => column.render
    let list := if columns.isEmpty then "" else s!" AS {commaSeparated columns}"
    return some s!" LATERAL VIEW{outer} {call} {name.render}{list}"
  else return none

/-- What stands between the sources and the condition. -/
def beforeWhere (d : Deeper) : Reader String := do
  let views ← String.join <$> many (lateralView d)
  let early ←
    if ← trait Dialect.extraClauses then clause ["PREWHERE"] (expressionText d) else pure ""
  return views ++ early

/-- What stands between the grouping and its condition. -/
def beforeHaving (d : Deeper) : Reader String := do
  let cluster ← clause ["CLUSTER", "BY"] (expressionsText d)
  let distribute ← clause ["DISTRIBUTE", "BY"] (expressionsText d)
  let sort ← clause ["SORT", "BY"] (orderKeysText d)
  return cluster ++ distribute ++ sort

/-- The condition that a keyword opens, if it stands there. -/
def condition (d : Deeper) (word : String) : Reader (Option Expr) := do
  if ← keyword word then return some (← expression d) else return none

/-- A selection. -/
def select (d : Deeper) : Reader Select := do
  let first ←
    if (← trait Dialect.fromFirst) && (← peekKeyword) == "FROM" then
      let _ ← advance
      pure (some (← sources d))
    else pure none
  let selects := (← peekKeyword) == "SELECT"
  match first, selects with
  | some found, false =>
    return .mk .fromOnly "" [] "" found "" none (.keys [] "") "" none ""
  | _, _ =>
    expectKeyword "SELECT"
    let head ← passage (selectHead d)
    let items ← projection d
    let into ← intoClause
    let found ← match first with
      | some found => pure found
      | none => if ← keyword "FROM" then sources d else pure []
    let early ← passage (beforeWhere d)
    let filter ← condition d "WHERE"
    let group ← groupBy d
    let sorting ← passage (beforeHaving d)
    let having ← condition d "HAVING"
    let tail ← passage do
      let windows ← windowClauses d
      return windows ++ (← hierarchyClause d)
    let form := if first.isSome then SelectForm.fromFirst else .standard
    return .mk form head items into found early filter group sorting having tail

end Reader

end QueryLint.Sql
