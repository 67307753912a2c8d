import QueryLint.Sql.Grammar.Table

/-!
# Tables made from documents

Readers for the sources whose rows are taken from a document: `JSON_TABLE`, `OPENJSON` and
`XMLTABLE`, each from behind its keyword.
-/

namespace QueryLint.Sql

namespace Reader

/-! ### Columns of paths -/

/-- What a column is when its path leads nowhere or fails. -/
def pathFallback : Reader (Option (String × String)) := do
  let fallback? ←
    if ← keyword "NULL" then pure (some "NULL")
    else if ← keyword "ERROR" then pure (some "ERROR")
    else if ← keyword "DEFAULT" then pure (some ("DEFAULT " ++ (← valueText)))
    else pure none
  match fallback? with
  | none => return none
  | some fallback =>
    expectKeyword "ON"
    let event ← do
      if ← keyword "EMPTY" then pure "EMPTY"
      else
        expectKeyword "ERROR"
        pure "ERROR"
    return some (event, s!" {fallback} ON {event}")

/-- A column of a table made by paths; the fuel bounds nested columns. -/
def pathColumn (d : Deeper) : Nat → Reader String
  | 0 => expected "identifier"
  | fuel + 1 => do
    if ← keyword "NESTED" then
      let _ ← keyword "PATH"
      let path ← valueText
      expectKeyword "COLUMNS"
      let columns ← parenthesized (commaList (pathColumn d fuel))
      return s!"NESTED PATH {path} COLUMNS ({commaSeparated columns})"
    else
      let name ← ident
      if ← keyword "FOR" then
        expectKeyword "ORDINALITY"
        return s!"{name.render} FOR ORDINALITY"
      else
        let type ← typeText d
        let exists_ ← optionalWord "EXISTS"
        expectKeyword "PATH"
        let path ← valueText
        let fallbacks ← many pathFallback
        let on (event : String) : String := (fallbacks.reverse.lookup event).getD ""
        return s!"{name.render} {type}{exists_} PATH {path}" ++ on "EMPTY" ++ on "ERROR"

/-- A table of the places in a document that a path leads to. -/
def pathTable (d : Deeper) : Reader TableFactor := do
  let content ← parenthesized do
    let document ← expressionText d
    expectSign ","
    let path ← valueText
    expectKeyword "COLUMNS"
    let columns ← parenthesized (commaList (pathColumn d (← size)))
    return s!"{document}, {path} COLUMNS({commaSeparated columns})"
  return .verbatim s!"JSON_TABLE({content})" (← tableAlias d) ""

/-! ### Opened documents -/

/-- A column of an opened document. -/
def openedColumn (d : Deeper) : Reader String := do
  let name ← ident
  let type ← typeText d
  let path ← match ← peekToken with
    | some (.text .single content) =>
      let _ ← advance
      pure (" " ++ quoted '\'' content)
    | _ => pure ""
  let document ←
    if ← keyword "AS" then
      expectKeyword "JSON"
      pure " AS JSON"
    else pure ""
  return s!"{name.render} {type}{path}{document}"

/-- A document that is opened as a table. -/
def openedTable (d : Deeper) : Reader TableFactor := do
  let content ← parenthesized do
    let document ← expressionText d
    let path ← if ← sign "," then pure (", " ++ (← valueText)) else pure ""
    return document ++ path
  let columns ←
    if ← keyword "WITH" then
      pure s!" WITH ({commaSeparated (← parenthesized (commaList (openedColumn d)))})"
    else pure ""
  return .verbatim s!"OPENJSON({content}){columns}" (← tableAlias d) ""

/-! ### Documents with namespaces -/

/-- A namespace under its name. -/
def namespaceDefinition (d : Deeper) : Reader String := do
  let uri ← expressionText d
  expectKeyword "AS"
  return s!"{uri} AS {(← ident).render}"

/-- A document that is handed to a table. `VALUE` may be missing behind `BY`. -/
def passedDocument (d : Deeper) : Reader String := do
  let byValue ← do
    if ← keyword "BY" then keyword "VALUE" else pure false
  let document ← expressionText d
  let name ← clause ["AS"] do return (← ident).render
  return (if byValue then "BY VALUE " else "") ++ document ++ name

/-- A column of a table made from elements. -/
def elementColumn (d : Deeper) : Reader String := do
  let name ← ident
  if ← keyword "FOR" then
    expectKeyword "ORDINALITY"
    return s!"{name.render} FOR ORDINALITY"
  else
    let type ← typeText d
    let path ← clause ["PATH"] (expressionText d)
    let default ← clause ["DEFAULT"] (expressionText d)
    let notNull ← optionalWords ["NOT", "NULL"]
    if notNull.isEmpty then
      let _ ← keyword "NULL"
    return s!"{name.render} {type}{path}{default}{notNull}"

/-- A table of the elements of a document. -/
def elementTable (d : Deeper) : Reader TableFactor := do
  let content ← parenthesized do
    let namespaces ←
      if ← keyword "XMLNAMESPACES" then
        let found ← parenthesized (commaList (namespaceDefinition d))
        expectSign ","
        pure s!"XMLNAMESPACES({commaSeparated found}), "
      else pure ""
    let row ← expressionText d
    let passed ← clause ["PASSING"] (commaSeparated <$> commaList (passedDocument d))
    expectKeyword "COLUMNS"
    let columns ← commaList (elementColumn d)
    return s!"{namespaces}{row}{passed} COLUMNS {commaSeparated columns}"
  return .verbatim s!"XMLTABLE({content})" (← tableAlias d) ""

end Reader

end QueryLint.Sql
