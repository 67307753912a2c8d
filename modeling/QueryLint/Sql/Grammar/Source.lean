import QueryLint.Sql.Grammar.Document
import QueryLint.Sql.Grammar.Match

/-!
# Sources of rows

Readers for what stands behind `FROM`: tables, derived tables, tables made from documents, and
joins, with their aliases. A source in parentheses is read as a query first and as a join when it is
none.
-/

namespace QueryLint.Sql

namespace Reader

/-! ### Derived and nested sources -/

/-- A query in parentheses as a source, from behind the opening one. -/
def derivedSource (d : Deeper) (lateral : Bool) : Reader TableFactor := do
  let query ← d.query
  expectSign ")"
  return .derived lateral query (← tableAlias d)

/-- Whether a source has an alias of its own. -/
def ownAlias : TableFactor → Option TableAlias
  | .table _ _ named _ => named
  | .derived _ _ named => named
  | .nested _ named => named
  | .verbatim _ named _ => named

/-- A source under the alias that stands behind its parentheses. -/
def underAlias (source : TableFactor) (named : Option TableAlias) : TableFactor :=
  match named, source with
  | none, _ => source
  | some _, .table name before _ behind => .table name before named behind
  | some _, .derived lateral query _ => .derived lateral query named
  | some _, .nested inner _ => .nested inner named
  | some _, .verbatim before _ behind => .verbatim before named behind

/-- A join in parentheses, from behind the closing one. A lone source is allowed where the dialect
says so. -/
def nestedSource (d : Deeper) (inner : TableJoins) : Reader TableFactor := do
  match inner with
  | .mk relation [] =>
    match relation with
    | .nested _ _ =>
      expectSign ")"
      return .nested inner (← tableAlias d)
    | _ =>
      if ← trait Dialect.parenthesizedTable then
        expectSign ")"
        let named ← tableAlias d
        match named, ownAlias relation with
        | some _, some own => broken s!"duplicate alias {own.render}" Place.none
        | _, _ => return underAlias relation named
      else expected "joined table"
  | _ =>
    expectSign ")"
    return .nested inner (← tableAlias d)

/-- A row of values. -/
def valuesRow (d : Deeper) (mayBeEmpty : Bool) : Reader (Bool × List Expr) := do
  let explicit ← keyword "ROW"
  let row ← parenthesized do
    if mayBeEmpty then commaListBefore (expression d) ")" else commaList (expression d)
  return (explicit, row)

/-- Rows of values, from behind their keyword. -/
def valuesRows (d : Deeper) (word : String) : Reader SetExpr := do
  let mayBeEmpty ← trait Dialect.emptyRows
  let rows ← commaList (valuesRow d mayBeEmpty)
  let row := if rows.any Prod.fst then "ROW" else ""
  return .values word row (rows.map Prod.snd)

/-- `UNNEST` of arrays. `OFFSET` may be missing behind `WITH`. -/
def unnestSource (d : Deeper) : Reader TableFactor := do
  let arrays ← parenthesized (expressionsText d)
  let ordinality ←
    if ← keywords ["WITH", "ORDINALITY"] then pure " WITH ORDINALITY" else pure ""
  let named ← tableAlias d
  let offset ← do
    if ← keyword "WITH" then keyword "OFFSET" else pure false
  let position ←
    if offset then
      match ← aliasWord Keyword.isColumnAlias with
      | some (_, name) => pure (" WITH OFFSET AS " ++ name.render)
      | none => pure " WITH OFFSET"
    else pure ""
  return .verbatim s!"UNNEST({arrays}){ordinality}" named position

/-! ### Single sources -/

/-- A source that is no join in parentheses. -/
def plainSource (d : Deeper) : Reader TableFactor := do
  let k ← peekKeyword
  let openNext := isSign "(" (← peekNth 1)
  if ← keyword "LATERAL" then
    if ← sign "(" then derivedSource d true
    else
      let name ← objectName
      expectSign "("
      let items ← commaListBefore (argument d) ")"
      expectSign ")"
      let call := s!"LATERAL {name.render}({commaSeparated (renderArguments items)})"
      return .verbatim call (← tableAlias d) ""
  else if ← keyword "TABLE" then
    let call ← parenthesized (expressionText d)
    return .verbatim s!"TABLE({call})" (← tableAlias d) ""
  else if (← trait Dialect.valuesSource) && k == "VALUES" && openNext then
    let _ ← advance
    let body ← valuesRows d "VALUES"
    return .derived false (.mk false [] body (.keys [] "") (.clauses none none "") "")
      (← tableAlias d)
  else if (← trait Dialect.unnestSources) && k == "UNNEST" then
    let _ ← advance
    unnestSource d
  else if k == "JSON_TABLE" && openNext then
    let _ ← advance
    pathTable d
  else if k == "OPENJSON" && openNext then
    let _ ← advance
    openedTable d
  else if k == "XMLTABLE" && openNext then
    let _ ← advance
    elementTable d
  else matched d (← turned d (← tableSource d) (← size))

/-! ### Joins -/

/-- What a join matches rows by. -/
def joinConstraint (d : Deeper) (natural : Bool) : Reader JoinConstraint := do
  if natural then return .natural
  else if ← keyword "ON" then return .on (← expression d)
  else if ← keyword "USING" then return .using (← columnListOf objectName)
  else return .none

/-- The kind of a join to the left or the right, from behind that word. -/
def sidedJoin (word : String) (plain outer halfJoin antiJoin : JoinKind) : Reader JoinKind := do
  match ← oneOf ["OUTER", "SEMI", "ANTI", "JOIN"] with
  | some "OUTER" => do
    expectKeyword "JOIN"
    return outer
  | some "SEMI" => do
    expectKeyword "JOIN"
    return halfJoin
  | some "ANTI" => do
    expectKeyword "JOIN"
    return antiJoin
  | some _ => return plain
  | none => throw (.broken s!"expected OUTER, SEMI, ANTI or JOIN after {word}" Place.none)

/-- The kind of the next join, if one comes; the flag says that `NATURAL` stands before it. -/
def joinKind (natural : Bool) : Reader (Option JoinKind) := do
  let word (kind : JoinKind) : Reader (Option JoinKind) := do
    let _ ← advance
    expectKeyword "JOIN"
    return some kind
  match ← peekKeyword with
  | "JOIN" => do
    let _ ← advance
    return some .join
  | "INNER" => word .inner
  | "LEFT" => do
    let _ ← advance
    some <$> sidedJoin "LEFT" .left .leftOuter .leftSemi .leftAnti
  | "RIGHT" => do
    let _ ← advance
    some <$> sidedJoin "RIGHT" .right .rightOuter .rightSemi .rightAnti
  | "ANTI" => word .anti
  | "SEMI" => word .semi
  | "FULL" => do
    let _ ← advance
    let _ ← keyword "OUTER"
    expectKeyword "JOIN"
    return some .full
  | "OUTER" => expected "LEFT, RIGHT, or FULL"
  | "STRAIGHT_JOIN" => do
    let _ ← advance
    return some .straight
  | _ => if natural then expected "a join type after NATURAL" else return none

/-- The next join, if one comes. -/
def nextJoin (d : Deeper) (source : Reader TableFactor) : Reader (Option Join) := do
  let global ← keyword "GLOBAL"
  if ← keyword "CROSS" then
    if ← keyword "JOIN" then
      let relation ← source
      if ← trait Dialect.crossJoinConstraint then
        return some (.mk global .cross relation (← joinConstraint d false))
      else return some (.mk global .cross relation .none)
    else if ← keyword "APPLY" then return some (.mk global .crossApply (← source) .none)
    else expected "JOIN or APPLY after CROSS"
  else if ← keyword "OUTER" then
    expectKeyword "APPLY"
    return some (.mk global .outerApply (← source) .none)
  else if ← keyword "ASOF" then
    expectKeyword "JOIN"
    let relation ← source
    expectKeyword "MATCH_CONDITION"
    let condition ← parenthesized (expressionText d)
    return some (.mk global (.asOf condition) relation (← joinConstraint d false))
  else
    let natural ← keyword "NATURAL"
    match ← joinKind natural with
    | none => return none
    | some kind =>
      let relation ← source
      return some (.mk global kind relation (← joinConstraint d natural))

/-- A source; the fuel bounds the parentheses around joins. -/
def sourceFrom (d : Deeper) : Nat → Reader TableFactor
  | 0 => expected "identifier"
  | fuel + 1 => do
    if ← sign "(" then
      match ← attempt (derivedSource d false) with
      | some source => turned d source (← size)
      | none =>
        let relation ← sourceFrom d fuel
        nestedSource d (.mk relation (← many (nextJoin d (sourceFrom d fuel))))
    else plainSource d

/-- A source with the joins that follow it. -/
def tableJoins (d : Deeper) : Reader TableJoins := do
  let source : Reader TableFactor := do sourceFrom d ((← size) + 1)
  let relation ← source
  return .mk relation (← many (nextJoin d source))

/-- Sources separated by commas. -/
def sources (d : Deeper) : Reader (List TableJoins) :=
  commaList (tableJoins d)

end Reader

end QueryLint.Sql
