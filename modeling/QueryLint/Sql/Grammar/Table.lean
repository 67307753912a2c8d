import QueryLint.Sql.Grammar.Expr

/-!
# Tables

Readers for a table or a table function with everything that may stand behind its name: partitions,
arguments, an alias, hints, a sample. A table can also be turned, its rows becoming columns or its
columns rows.
-/

namespace QueryLint.Sql

namespace Reader

/-! ### Aliases -/

/-- An alias, announced by `AS` or not; without it, the word must not be reserved. -/
def aliasWord (allowed : String → Bool) : Reader (Option (Bool × Ident)) := do
  let announced ← keyword "AS"
  match ← peekToken with
  | some (.word w) =>
    if announced || allowed w.keyword then
      let _ ← advance
      return some (announced, identOf w)
    else return none
  | some (.text .single content) =>
    let _ ← advance
    return some (announced, ⟨content, some '\''⟩)
  | some (.text .double content) =>
    let _ ← advance
    return some (announced, ⟨content, some '\x22'⟩)
  | _ => if announced then expected "an identifier after AS" else return none

/-- A column of an alias, with its type if one follows. -/
def aliasColumn (d : Deeper) : Reader Passage :=
  passage do
    let name ← ident
    match ← attempt (typeName d) with
    | some type => return s!"{name.render} {type.text}"
    | none => return name.render

/-- The columns of an alias, if they are listed. -/
def aliasColumns (d : Deeper) : Reader (List Passage) := do
  if ← peekSign "(" then parenthesized (commaList (aliasColumn d)) else return []

/-- The alias of a source, if there is one. -/
def tableAlias (d : Deeper) : Reader (Option TableAlias) := do
  match ← aliasWord (Keyword.isTableAlias (← read).dialect) with
  | some (announced, name) => return some ⟨announced, name, ← aliasColumns d⟩
  | none => return none

/-! ### Tables -/

/-- An index hint. -/
def indexHint : Reader (Option String) := do
  match ← oneOf ["USE", "IGNORE", "FORCE"] with
  | none => return none
  | some k =>
    let kind ← expectOneOf ["INDEX", "KEY"]
    let purpose ←
      if ← keyword "FOR" then
        if ← keyword "JOIN" then pure " FOR JOIN"
        else if ← keywords ["ORDER", "BY"] then pure " FOR ORDER BY"
        else if ← keywords ["GROUP", "BY"] then pure " FOR GROUP BY"
        else expected "one of JOIN, ORDER BY or GROUP BY"
      else pure ""
    let names ← parenthesized (commaListBefore ident ")")
    return some s!" {k} {kind}{purpose} ({commaSeparated (names.map Ident.render)})"

/-- The index hints behind a table, where tables take them. -/
def indexHints : Reader String := do
  if ← trait Dialect.tableHints then return String.join ((← attempt (many indexHint)).getD [])
  else return ""

/-- The hints in parentheses behind a table. -/
def tableHints (d : Deeper) : Reader String := do
  if (← peekKeyword) == "WITH" && isSign "(" (← peekNth 1) then
    let _ ← advance
    return s!" WITH ({← parenthesized (expressionsText d)})"
  else return ""

/-- How much of a table a sample takes, from behind the optional parenthesis. -/
def sampleQuantity (d : Deeper) : Reader String := do
  let quantity ← match ← attempt (expression d) with
    | some e => pure e.render
    | none =>
      match (← advance).map Lexeme.token with
      | some (.word w) => pure w.value
      | _ => broken "Expecting number or byte length e.g. 100M" (← place)
  return quantity ++ (← optionalOneOf ["ROWS", "PERCENT"])

/-- The buckets that a sample takes, from behind `BUCKET`. -/
def sampleBucket (d : Deeper) : Reader String := do
  let bucket ← numberValue
  expectKeywords ["OUT", "OF"]
  let total ← numberValue
  return s!"BUCKET {bucket} OUT OF {total}" ++ (← clause ["ON"] (expressionText d))

/-- The sample that is taken of a table. -/
def tableSample (d : Deeper) : Reader String := do
  match ← oneOf ["TABLESAMPLE", "SAMPLE"] with
  | none => return ""
  | some k =>
    let method ← optionalOneOf ["BERNOULLI", "ROW", "SYSTEM", "BLOCK"]
    let inParentheses ← sign "("
    let byBucket ← if inParentheses then keyword "BUCKET" else pure false
    let quantity ← if byBucket then sampleBucket d else sampleQuantity d
    if inParentheses then expectSign ")"
    let amount := if inParentheses then s!" ({quantity})" else " " ++ quantity
    let seed ← match ← oneOf ["REPEATABLE", "SEED"] with
      | some s => pure s!" {s} ({← parenthesized numberValue})"
      | none => pure ""
    let offset ← clause ["OFFSET"] (expressionText d)
    if byBucket then return s!" {k}{method}{seed}{amount}{offset}"
    else return s!" {k}{method}{amount}{seed}{offset}"

/-- A setting of a table function or a query. -/
def settingItem (d : Deeper) : Reader String := do
  let key ← ident
  expectSign "="
  return s!"{key.render} = {← expressionText d}"

/-- The arguments of a table function, the last of which may be its settings; the fuel bounds their
number. -/
def tableArgumentsFrom (d : Deeper) : Nat → Reader (List String)
  | 0 => expected ")"
  | fuel + 1 => do
    if ← keywordsWhere Dialect.extraClauses ["SETTINGS"] then
      return ["SETTINGS " ++ commaSeparated (← commaList (settingItem d))]
    else
      let a ← argument d
      if ← sign "," then return a.render :: (← tableArgumentsFrom d fuel) else return [a.render]

/-- The arguments of a table function, if the table is one. -/
def tableArguments (d : Deeper) : Reader String := do
  if ← sign "(" then
    if ← sign ")" then return "()"
    else
      let items ← tableArgumentsFrom d ((← size) + 1)
      expectSign ")"
      return s!"({commaSeparated items})"
  else return ""

/-- What stands between the name of a table and its alias. Partitions directly follow the name. -/
def beforeTableAlias (d : Deeper) : Reader String := do
  let partitions ←
    if ← trait Dialect.partitionedTables then
      if ← keyword "PARTITION" then
        let parts ← parenthesized (commaList ident)
        pure s!"PARTITION ({commaSeparated (parts.map Ident.render)})"
      else pure ""
    else pure ""
  let arguments ← tableArguments d
  let ordinality ←
    if ← keywords ["WITH", "ORDINALITY"] then pure " WITH ORDINALITY" else pure ""
  return partitions ++ arguments ++ ordinality

/-- What stands behind the alias of a table. -/
def behindTableAlias (d : Deeper) : Reader String := do
  let indexes ← indexHints
  let hints ← tableHints d
  return indexes ++ hints ++ (← tableSample d)

/-- A table or a call of a table function. -/
def tableSource (d : Deeper) : Reader TableFactor := do
  let name ← objectName
  let before ← passage (beforeTableAlias d)
  let named ← tableAlias d
  return .table name before named (← passage (behindTableAlias d))

/-! ### Turned tables -/

/-- An aggregate that fills the new columns of a turned table. -/
def pivotAggregate (d : Deeper) : Reader String := do
  match (← advance).map Lexeme.token with
  | some (.word w) =>
    let call ← callOf d ⟨[.plain w.value]⟩
    return call.render ++ (← clause ["AS"] do return (← ident).render)
  | _ => expected "a function identifier"

/-- An expression with the name it may be given. -/
def namedExpression (d : Deeper) : Reader String := do
  let e ← expressionText d
  return e ++ (← clause ["AS"] do return (← ident).render)

/-- The columns whose values become columns. -/
def pivotColumns (d : Deeper) : Reader String := do
  let operand : Reader Expr := do d.expr ((← read).dialect.power .range)
  if isSign "(" (← peekToken) then
    let columns ← parenthesized (commaList operand)
    match columns with
    | [column] => return column.render
    | _ => return s!"({commaSeparated (renderExprs columns)})"
  else return (← operand).render

/-- The values that become columns. -/
def pivotValues (d : Deeper) : Reader String := do
  if ← keyword "ANY" then return "ANY" ++ (← clause ["ORDER", "BY"] (orderKeysText d))
  else if ← peekQuery then return (← d.query).render
  else return commaSeparated (← commaList (namedExpression d))

/-- A table whose rows become columns, from behind `PIVOT`. -/
def pivot (d : Deeper) : Reader String := do
  let content ← parenthesized do
    let aggregates ← commaList (pivotAggregate d)
    expectKeyword "FOR"
    let columns ← pivotColumns d
    expectKeyword "IN"
    let values ← parenthesized (pivotValues d)
    let default ←
      if ← keywords ["DEFAULT", "ON", "NULL"] then
        pure s!" DEFAULT ON NULL ({← parenthesized (expressionText d)})"
      else pure ""
    return s!"{commaSeparated aggregates} FOR {columns} IN ({values}){default}"
  return s!" PIVOT({content})"

/-- A table whose columns become rows, from behind `UNPIVOT`. -/
def unpivot (d : Deeper) : Reader String := do
  let nulls ← match ← oneOf ["INCLUDE", "EXCLUDE"] with
    | some k =>
      expectKeyword "NULLS"
      pure s!" {k} NULLS "
    | none => pure ""
  let content ← parenthesized do
    let value ← expressionText d
    expectKeyword "FOR"
    let name ← ident
    expectKeyword "IN"
    let columns ← columnListOf (namedExpression d)
    return s!"{value} FOR {name.render} IN ({commaSeparated columns})"
  return s!" UNPIVOT{nulls}({content})"

/-- A source with all the turns behind it; the fuel bounds their number. -/
def turned (d : Deeper) (source : TableFactor) : Nat → Reader TableFactor
  | 0 => return source
  | fuel + 1 => do
    match ← oneOf ["PIVOT", "UNPIVOT"] with
    | none => return source
    | some k =>
      let turn ← if k == "PIVOT" then pivot d else unpivot d
      turned d (.verbatim (source.render ++ turn) (← tableAlias d) "") fuel

end Reader

end QueryLint.Sql
