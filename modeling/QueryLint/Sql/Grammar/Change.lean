import QueryLint.Sql.Grammar.Select

/-!
# Statements that change rows

Readers for `INSERT`, `UPDATE`, `DELETE` and `MERGE`, each from behind its keyword. The linter does
not look into them, so they yield their canonical text.
-/

namespace QueryLint.Sql

namespace Reader

/-! ### Parts of changes -/

/-- A value that a column is set to. -/
def assignment (d : Deeper) : Reader String := do
  let target ←
    if isSign "(" (← peekToken) then
      let names ← parenthesized (commaList objectName)
      pure s!"({commaSeparated (names.map ObjectName.render)})"
    else pure (← objectName).render
  expectSign "="
  return s!"{target} = {← expressionText d}"

/-- Values that columns are set to. -/
def assignments (d : Deeper) : Reader String := do
  return commaSeparated (← commaList (assignment d))

/-- The condition that chooses the rows to change. -/
def whereClause (d : Deeper) : Reader String :=
  clause ["WHERE"] (expressionText d)

/-- The rows that a change returns. -/
def returningClause (d : Deeper) : Reader String :=
  clause ["RETURNING"] do return commaSeparated (renderItems (← commaList (selectItem d)))

/-- Tables that a clause adds to those that are changed. -/
def tablesClause (d : Deeper) (word : String) : Reader String :=
  clause [word] do return commaSeparated (renderSources (← sources d))

/-- What is done on a conflict, in front of the table. -/
def conflictWord : Reader String := do
  if (← peekKeyword) == "OR" then
    match ← peekNth 1 with
    | some (.word w) =>
      if ["REPLACE", "ROLLBACK", "ABORT", "FAIL", "IGNORE"].contains w.keyword then
        skip 2
        return " OR " ++ w.keyword
      else return ""
    | _ => return ""
  else if ← keyword "REPLACE" then return " OR REPLACE"
  else return ""

/-- What is done with a row that is in conflict with another. -/
def conflictClause (d : Deeper) : Reader String := do
  if ← keyword "ON" then
    if ← keyword "CONFLICT" then
      let target ←
        if ← keywords ["ON", "CONSTRAINT"] then
          pure s!" ON CONSTRAINT {(← objectName).render}"
        else pure (listed "" (← optionalListOf ident false))
      expectKeyword "DO"
      if ← keyword "NOTHING" then return s!" ON CONFLICT{target} DO NOTHING"
      else
        expectKeywords ["UPDATE", "SET"]
        let values ← assignments d
        return s!" ON CONFLICT{target} DO UPDATE SET {values}{← whereClause d}"
    else
      expectKeywords ["DUPLICATE", "KEY", "UPDATE"]
      return s!" ON DUPLICATE KEY UPDATE {← assignments d}"
  else return ""

/-! ### Files -/

/-- The formats of files that rows are stored in. -/
def fileFormats : List String :=
  ["AVRO", "JSONFILE", "ORC", "PARQUET", "RCFILE", "SEQUENCEFILE", "TEXTFILE"]

/-- The format of a file. -/
def fileFormat : Reader String :=
  expectAmong fileFormats "fileformat"

/-- Rows that are written into a directory, from behind `DIRECTORY`. -/
def directoryContent (d : Deeper) (words : String) : Reader String := do
  let path ← plainString
  let format ← clause ["STORED", "AS"] fileFormat
  return s!"INSERT{words} DIRECTORY {path}{format} {(← d.query).render}"

/-! ### Insertions -/

/-- How urgent an insertion is, and whether it passes over faulty rows. -/
def insertionWords : Reader String := do
  if ← trait Dialect.replaceStatement then
    let priority ← optionalOneOf ["LOW_PRIORITY", "DELAYED", "HIGH_PRIORITY"]
    return priority ++ (← optionalWord "IGNORE")
  else return ""

/-- The rows that are inserted, with the columns they fill. -/
def insertedRows (d : Deeper) : Reader String := do
  if ← keywords ["DEFAULT", "VALUES"] then return "DEFAULT VALUES"
  else
    let query := isSign "(" (← peekToken) && keywordOf (← peekNth 1) == "SELECT"
    let columns ← if query then pure [] else optionalListOf ident (← trait Dialect.emptyRows)
    let parts ←
      if query then pure ""
      else if ← keyword "PARTITION" then
        pure s!"PARTITION ({← parenthesized (expressionsText d)}) "
      else pure ""
    let opening := (if columns.isEmpty then "" else listed "" columns ++ " ") ++ parts
    let next ← peekKeyword
    if next == "FORMAT" || next == "SETTINGS" then
      return if columns.isEmpty then opening ++ "DEFAULT VALUES" else opening
    else if ← keywordsWhere Dialect.insertSet ["SET"] then
      return s!"{opening}SET {← assignments d}"
    else return opening ++ (← d.query).render

/-- The name for the rows that are inserted. -/
def insertedName : Reader String := do
  if ← trait Dialect.replaceStatement then
    clause ["AS"] do
      let name ← objectName
      return name.render ++ listed " " (← optionalListOf ident false)
  else return ""

/-- Rows that are put into a table, behind the word for how. -/
def insertion (d : Deeper) (word : String) : Reader String := do
  let conflict ← conflictWord
  let urgency ← insertionWords
  let overwrite ← optionalWord "OVERWRITE"
  let into ← optionalWord "INTO"
  let isLocal ← optionalWord "LOCAL"
  if ← keyword "DIRECTORY" then directoryContent d (overwrite ++ isLocal)
  else
    let table ← optionalWord "TABLE"
    let target ← objectName
    let named ←
      if ← trait Dialect.insertAlias then clause ["AS"] do return (← ident).render else pure ""
    let opening :=
      if conflict.isEmpty then
        s!"{word}{urgency}{overwrite}{into}{table} {target.render}{named} "
      else s!"INSERT{conflict} INTO {target.render}{named} "
    let rows ← insertedRows d
    let name ← insertedName
    let resolution ← conflictClause d
    return opening ++ rows ++ name ++ resolution ++ (← returningClause d)

/-! ### Updates and deletions -/

/-- Rows that get other values. Further tables stand before or behind the values. -/
def update (d : Deeper) : Reader String := do
  let conflict ← conflictWord
  let table ← tableJoins d
  let early ← tablesClause d "FROM"
  expectKeyword "SET"
  let values ← assignments d
  let late ← if early.isEmpty then tablesClause d "FROM" else pure ""
  let filter ← whereClause d
  let returning ← returningClause d
  let limit ← clause ["LIMIT"] (expressionText d)
  return s!"UPDATE{conflict} {table.render}{early} SET {values}{late}{filter}{returning}{limit}"

/-- How many rows are taken at most. -/
def limitClause (d : Deeper) : Reader String := do
  if ← keywords ["LIMIT", "ALL"] then return "" else clause ["LIMIT"] (expressionText d)

/-- Rows that are taken out of a table. -/
def deletion (d : Deeper) : Reader String := do
  let opening ←
    if ← keyword "FROM" then pure " FROM"
    else if ← trait Dialect.deleteWithoutFrom then pure ""
    else
      let tables ← commaList objectName
      expectKeyword "FROM"
      pure s!" {commaSeparated (tables.map ObjectName.render)} FROM"
  let tables ← sources d
  let using_ ← tablesClause d "USING"
  let filter ← whereClause d
  let returning ← returningClause d
  let order ← clause ["ORDER", "BY"] (orderKeysText d)
  let limit ← limitClause d
  let from_ := commaSeparated (renderSources tables)
  return s!"DELETE{opening} {from_}{using_}{filter}{returning}{order}{limit}"

/-! ### Merges -/

/-- Which rows a clause of a merge is for. -/
inductive MergeRows where
  | matched
  | notMatched
  | notMatchedByTarget
  | notMatchedBySource
  deriving DecidableEq, Repr, Inhabited

namespace MergeRows

/-- The words for the rows. -/
def text : MergeRows → String
  | matched => "MATCHED"
  | notMatched => "NOT MATCHED"
  | notMatchedByTarget => "NOT MATCHED BY TARGET"
  | notMatchedBySource => "NOT MATCHED BY SOURCE"

/-- Whether the rows are in the target, so that they can be changed and not inserted. -/
def inTarget : MergeRows → Bool
  | matched | notMatchedBySource => true
  | notMatched | notMatchedByTarget => false

end MergeRows

/-- Which rows a clause of a merge is for, from behind `WHEN`. -/
def mergeRows : Reader MergeRows := do
  if ← keyword "NOT" then
    expectKeyword "MATCHED"
    if ← keywords ["BY", "SOURCE"] then return .notMatchedBySource
    else if ← keywords ["BY", "TARGET"] then return .notMatchedByTarget
    else return .notMatched
  else
    expectKeyword "MATCHED"
    return .matched

/-- What a merge does with rows, from behind `THEN`. -/
def mergeAction (d : Deeper) (rows : MergeRows) : Reader String := do
  let start ← place
  let refused (k : String) : Reader String :=
    broken s!"{k} is not allowed in a {rows.text} merge clause" start
  match ← oneOf ["UPDATE", "INSERT", "DELETE"] with
  | some "UPDATE" =>
    if rows.inTarget then
      expectKeyword "SET"
      return s!"UPDATE SET {← assignments d}"
    else refused "UPDATE"
  | some "INSERT" =>
    if rows.inTarget then refused "INSERT"
    else
      let columns ← optionalListOf ident (← trait Dialect.emptyRows)
      let opening := if columns.isEmpty then "" else listed "" columns ++ " "
      if ← keywordsWhere Dialect.insertWholeRow ["ROW"] then
        return s!"INSERT {opening}ROW"
      else
        expectKeyword "VALUES"
        let values ← valuesRows d "VALUES"
        return s!"INSERT {opening}{values.render}"
  | some _ => if rows.inTarget then return "DELETE" else refused "DELETE"
  | none => broken "expected UPDATE, DELETE or INSERT in merge clause" start

/-- One clause of a merge, from behind `WHEN`. -/
def mergeClause (d : Deeper) : Reader String := do
  let rows ← mergeRows
  let filter ← clause ["AND"] (expressionText d)
  expectKeyword "THEN"
  return s!"WHEN {rows.text}{filter} THEN {← mergeAction d rows}"

/-- The rows that a merge yields. -/
def mergeOutput (d : Deeper) : Reader String := do
  match ← oneOf ["OUTPUT", "RETURNING"] with
  | some k =>
    let items := commaSeparated (renderItems (← projection d))
    let into ← if k == "OUTPUT" then intoClause else pure ""
    return s!" {k} {items}{into}"
  | none => return ""

/-- Rows that are brought in line with those of another source. -/
def merge (d : Deeper) : Reader String := do
  let into ← optionalWord "INTO"
  let factor : Reader TableFactor := do sourceFrom d ((← size) + 1)
  let target ← factor
  expectKeyword "USING"
  let source ← factor
  expectKeyword "ON"
  let condition ← expressionText d
  let clauses ← many do
    if ← keyword "WHEN" then return some (← mergeClause d) else return none
  let changes := String.intercalate " " clauses
  let output ← mergeOutput d
  return s!"MERGE{into} {target.render} USING {source.render} ON {condition} {changes}{output}"

end Reader

end QueryLint.Sql
