import QueryLint.Sql.Grammar.Pipe

/-!
# Queries

A query is a body with the common table expressions in front of it and what orders, limits and locks
its rows behind it. In a body `INTERSECT` binds tighter than the other set operators, and operators
that bind equally associate to the left.
-/

namespace QueryLint.Sql

namespace Reader

/-! ### Bodies -/

/-- A table in place of a selection: a name and the two lexemes behind it, or a dotted name. -/
def wholeTable : Reader String := do
  let name (what : String) : Reader String := do
    match ← peekToken with
    | some (.word w) =>
      let _ ← advance
      return w.value
    | _ => expected what
  if isSign "." (← peekNth 1) then
    let schema ← name "Schema name"
    let _ ← advance
    return s!"TABLE {schema}." ++ (← name "Table name")
  else
    let table ← name "Table name"
    skip 2
    return s!"TABLE {table}"

/-- A body without set operators. -/
def operand (d : Deeper) : Reader SetExpr := do
  let k ← peekKeyword
  if k == "SELECT" || (k == "FROM" && (← trait Dialect.fromFirst)) then
    return .select (← select d)
  else if isSign "(" (← peekToken) then return .query (← parenthesized d.query)
  else if k == "VALUES" || k == "VALUE" then
    let _ ← advance
    valuesRows d k
  else if k == "TABLE" then
    let _ ← advance
    return .verbatim (← wholeTable)
  else expected "SELECT, VALUES, or a subquery in the query body"

/-- The set operators that bind as loosely as `UNION`. -/
def unionOperators : List (String × SetOp) :=
  [("UNION", .union), ("EXCEPT", .except), ("MINUS", .minus)]

/-- Further operands of some set operators, from the left; the fuel bounds their number. -/
def combineFrom (operators : List (String × SetOp)) (side : Reader SetExpr) (left : SetExpr) :
    Nat → Reader SetExpr
  | 0 => return left
  | fuel + 1 => do
    match operators.lookup (← peekKeyword) with
    | none => return left
    | some op =>
      let _ ← advance
      let quantifier ← setQuantifier
      combineFrom operators side (.operation left op quantifier (← side)) fuel

/-- Operands combined by `INTERSECT`. -/
def intersection (d : Deeper) : Reader SetExpr := do
  combineFrom [("INTERSECT", .intersect)] (operand d) (← operand d) ((← size) + 1)

/-- A body with all its set operators. -/
def body (d : Deeper) : Reader SetExpr := do
  combineFrom unionOperators (intersection d) (← intersection d) ((← size) + 1)

/-! ### Around the body -/

/-- A common table expression. -/
def commonTable (d : Deeper) : Reader Cte := do
  let name ← ident
  let columns ← if (← peekKeyword) == "AS" then pure [] else aliasColumns d
  expectKeyword "AS"
  let hint ←
    if ← trait Dialect.materializedHints then
      if ← keyword "MATERIALIZED" then pure "MATERIALIZED "
      else if ← keywords ["NOT", "MATERIALIZED"] then pure "NOT MATERIALIZED "
      else pure ""
    else pure ""
  let query ← parenthesized d.query
  let source ← if ← keyword "FROM" then pure (some (← ident)) else pure none
  return .mk ⟨false, name, columns⟩ hint query source

/-- What the columns of rows that fill gaps are taken from. -/
def interpolation (d : Deeper) : Reader String := do
  if ← keywordsWhere Dialect.extraClauses ["INTERPOLATE"] then
    if ← sign "(" then
      let item : Reader String := do
        let name ← ident
        return name.render ++ (← clause ["AS"] (expressionText d))
      let items ← commaListBefore item ")"
      expectSign ")"
      return s!" INTERPOLATE ({commaSeparated items})"
    else return " INTERPOLATE"
  else return ""

/-- The keys that the rows of a query are ordered by. -/
def orderBy (d : Deeper) : Reader OrderBy := do
  if ← keywords ["ORDER", "BY"] then
    let keys ← commaList (orderKey d)
    return .keys keys (← passage (interpolation d))
  else return .keys [] ""

/-- The first row that is returned, and the word behind its number. -/
def offsetClause (d : Deeper) : Reader (Option (Expr × String)) := do
  if ← keyword "OFFSET" then
    let e ← expression d
    let rows := match ← oneOf ["ROW", "ROWS"] with
      | some k => " " ++ k
      | none => ""
    return some (e, rows)
  else return none

/-- How many rows are returned, and from which one on. -/
def limit (d : Deeper) : Reader Limit := do
  let early ← offsetClause d
  if ← keyword "LIMIT" then
    let count ← if ← keyword "ALL" then pure none else pure (some (← expression d))
    let comma ←
      if early.isNone && count.isSome && (← trait Dialect.limitComma) then sign ","
      else pure false
    match count, comma with
    | some offset, true => return .comma offset (← expression d)
    | _, _ =>
      let groups ← passage do
        if ← trait Dialect.extraClauses then clause ["BY"] (expressionsText d) else return ""
      let offset ← if early.isNone then offsetClause d else pure early
      let rows := (offset.map Prod.snd).getD ""
      return .clauses count (offset.map Prod.fst) { groups with text := rows ++ groups.text }
  else return .clauses none (early.map Prod.fst) ((early.map Prod.snd).getD "")

/-- The rows that are fetched. -/
def fetchClause : Reader String := do
  if ← keyword "FETCH" then
    let _ ← oneOf ["FIRST", "NEXT"]
    let quantity ←
      if (← oneOf ["ROW", "ROWS"]).isSome then pure ""
      else
        let n ← value
        let percent ← optionalWord "PERCENT"
        let _ ← oneOf ["ROW", "ROWS"]
        pure s!" {n.render}{percent}"
    let extent ←
      if ← keyword "ONLY" then pure "ONLY"
      else if ← keywords ["WITH", "TIES"] then pure "WITH TIES"
      else pure "ONLY"
    return s!" FETCH FIRST{quantity} ROWS {extent}"
  else return ""

/-- A name in parentheses for the elements of a document, if there is one. -/
def elementName : Reader String := do
  if ← sign "(" then
    let name ← plainString
    expectSign ")"
    return s!"({name})"
  else return ""

/-- The options of a document that rows are written as, each behind a comma; the fuel bounds their
number. -/
def documentOptions (read : Reader (List (String × String))) : Nat → Reader (List (String × String))
  | 0 => return []
  | fuel + 1 => do
    if ← sign "," then
      let found ← read
      return found ++ (← documentOptions read fuel)
    else return []

/-- The options that were found, each once, in a given order. -/
def orderedOptions (names : List String) (found : List (String × String)) : String :=
  String.join (names.map fun name => ((found.reverse.lookup name).map (", " ++ ·)).getD "")

/-- The name of the element around a document. -/
def rootOption : Reader (List (String × String)) := do
  expectSign "("
  let name ← plainString
  expectSign ")"
  return [("ROOT", s!"ROOT({name})")]

/-- The rows of a query as elements, from behind `XML`. -/
def elementsClause : Reader String := do
  let form ← match ← oneOf ["RAW", "AUTO", "EXPLICIT", "PATH"] with
    | some k =>
      let named := k == "RAW" || k == "PATH"
      let name ← if named then elementName else pure ""
      pure (k ++ name)
    | none => broken "Expected FOR XML [RAW | AUTO | EXPLICIT | PATH ]" Place.none
  let option : Reader (List (String × String)) := do
    match ← oneOf ["ELEMENTS", "BINARY", "ROOT", "TYPE"] with
    | some "ROOT" => rootOption
    | some "BINARY" =>
      expectKeyword "BASE64"
      return [("BINARY", "BINARY BASE64")]
    | some k => return [(k, k)]
    | none => return []
  let found ← documentOptions option ((← size) + 1)
  return s!" FOR XML {form}" ++ orderedOptions ["BINARY", "TYPE", "ROOT", "ELEMENTS"] found

/-- The rows of a query as objects, from behind `JSON`. -/
def objectsClause : Reader String := do
  let form ← match ← oneOf ["AUTO", "PATH"] with
    | some k => pure k
    | none => broken "Expected FOR JSON [AUTO | PATH ]" Place.none
  let option : Reader (List (String × String)) := do
    match ← oneOf ["ROOT", "INCLUDE_NULL_VALUES", "WITHOUT_ARRAY_WRAPPER"] with
    | some "ROOT" => rootOption
    | some k => return [(k, k)]
    | none => return []
  let found ← documentOptions option ((← size) + 1)
  let order := ["ROOT", "INCLUDE_NULL_VALUES", "WITHOUT_ARRAY_WRAPPER"]
  return s!" FOR JSON {form}{orderedOptions order found}"

/-- A lock on the rows that are read, from behind `FOR`. -/
def lock : Reader String := do
  let kind ← expectOneOf ["UPDATE", "SHARE"]
  let table ← clause ["OF"] do return (← objectName).render
  let waiting := ((← oneOfRuns [["NOWAIT"], ["SKIP", "LOCKED"]]).map (" " ++ ·)).getD ""
  return s!" FOR {kind}{table}{waiting}"

/-- What rows are read for: to lock them, or to write them as a document, which comes last. The fuel
bounds the number of locks. -/
def purposes : Nat → Reader String
  | 0 => return ""
  | fuel + 1 => do
    if ← keyword "FOR" then
      match ← oneOf ["XML", "JSON", "BROWSE"] with
      | some "XML" => elementsClause
      | some "JSON" => objectsClause
      | some _ => return " FOR BROWSE"
      | none =>
        let first ← lock
        return first ++ (← purposes fuel)
    else return ""

/-- The settings that a query is run with. -/
def settingsClause (d : Deeper) : Reader String := do
  if ← trait Dialect.extraClauses then
    clause ["SETTINGS"] (commaSeparated <$> commaList (settingItem d))
  else return ""

/-- The format that the rows of a query are written in. -/
def formatClause : Reader String := do
  if ← trait Dialect.extraClauses then
    clause ["FORMAT"] do
      if ← keyword "NULL" then return "NULL" else return (← ident).render
  else return ""

/-- The common table expressions of a query, and whether they are recursive. -/
def commonTables (d : Deeper) : Reader (Bool × List Cte) := do
  if ← keyword "WITH" then
    let recursive ← keyword "RECURSIVE"
    return (recursive, ← commaList (commonTable d))
  else return (false, [])

/-- A statement that changes rows in place of a body. -/
def changingBody (d : Deeper) : Reader (Option SetExpr) := do
  if ← keyword "INSERT" then return some (.verbatim (← insertion d "INSERT"))
  else if ← keyword "UPDATE" then return some (.verbatim (← update d))
  else if ← keyword "DELETE" then return some (.verbatim (← deletion d))
  else if ← keyword "MERGE" then return some (.verbatim (← merge d))
  else return none

/-- What stands behind the limit of a query. -/
def behindLimit (d : Deeper) : Reader String := do
  let settings ← settingsClause d
  let fetch ← fetchClause
  let purpose ← purposes ((← size) + 1)
  let format ← formatClause
  let pipes ← if ← trait Dialect.pipeOperators then pipeOperators d else pure ""
  return settings ++ fetch ++ purpose ++ format ++ pipes

/-- A query. -/
def query (d : Deeper) : Reader Query := do
  let (recursive, ctes) ← commonTables d
  match ← changingBody d with
  | some change => return .mk recursive ctes change (.keys [] "") (.clauses none none "") ""
  | none =>
    let content ← body d
    let order ← orderBy d
    let rows ← limit d
    return .mk recursive ctes content order rows (← passage (behindLimit d))

end Reader

end QueryLint.Sql
