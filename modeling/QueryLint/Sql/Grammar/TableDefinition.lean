import QueryLint.Sql.Grammar.Constraint

/-!
# Definitions of tables

A reader for `CREATE TABLE`. What may stand behind the columns is read in one order and written in
another, so the parts are collected first.
-/

namespace QueryLint.Sql

namespace Reader

/-! ### Columns and constraints -/

/-- The columns and the constraints of a new table, from behind the opening parenthesis; the fuel
bounds their number. -/
def tableElementsFrom (d : Deeper) : Nat → Reader (List String × List String)
  | 0 => expected "column name or constraint definition"
  | fuel + 1 => do
    let (columns, constraints) ← match ← tableConstraint d with
      | some text => pure ([], [text])
      | none =>
        match ← peekToken with
        | some (.word _) => pure ([← column d], [])
        | _ => expected "column name or constraint definition"
    if ← sign "," then
      let (otherColumns, otherConstraints) ← tableElementsFrom d fuel
      return (columns ++ otherColumns, constraints ++ otherConstraints)
    else if ← sign ")" then return (columns, constraints)
    else expected "',' or ')' after column definition"

/-- The columns and the constraints of a new table: the columns come first. -/
def tableElements (d : Deeper) : Reader (List String) := do
  if ← sign "(" then
    if ← sign ")" then return []
    else
      let (columns, constraints) ← tableElementsFrom d ((← size) + 1)
      return columns ++ constraints
  else return []

/-! ### Storage -/

/-- How the rows of a table are stored. -/
structure StoredRows where
  rowFormat : String
  /-- The format of the files, or the pair of formats to read and to write them. -/
  files : String
  /-- The files have one format for both directions. -/
  oneFormat : Bool
  properties : String
  location : String
  deriving Inhabited

namespace StoredRows

/-- Nothing is said. -/
def unsaid : StoredRows := ⟨"", "", false, "", ""⟩

/-- The text of what is said, in its canonical order. Of a table whose rows lie outside, the one
format of its files comes last. -/
def render (s : StoredRows) (outside : Bool) : String :=
  if outside && s.oneFormat then s.rowFormat ++ s.properties ++ s.files ++ s.location
  else s.rowFormat ++ s.files ++ s.properties ++ s.location

end StoredRows

/-- The sign that ends or escapes a part of a row, with the words for it. -/
def rowDelimiter : Reader (Option String) := do
  let opened ← oneOfRuns [
    ["FIELDS", "TERMINATED", "BY"], ["COLLECTION", "ITEMS", "TERMINATED", "BY"],
    ["MAP", "KEYS", "TERMINATED", "BY"], ["LINES", "TERMINATED", "BY"], ["NULL", "DEFINED", "AS"]]
  match opened with
  | some words =>
    let delimiter := s!" {words} {(← ident).render}"
    let escape ←
      if words == "FIELDS TERMINATED BY" then clause ["ESCAPED", "BY"] do return (← ident).render
      else pure ""
    return some (delimiter ++ escape)
  | none => return none

/-- How a row is written, from behind `ROW`. -/
def rowFormat : Reader String := do
  expectKeyword "FORMAT"
  match ← oneOf ["SERDE", "DELIMITED"] with
  | some "SERDE" => return s!" ROW FORMAT SERDE {← plainString}"
  | _ =>
    let delimiters ← many rowDelimiter
    let _ ← oneOf ["FIELDS", "COLLECTION", "MAP", "LINES", "NULL"]
    return " ROW FORMAT DELIMITED" ++ String.join delimiters

/-- In which files the rows lie, from behind `STORED`. -/
def storedFiles (d : Deeper) : Reader (String × Bool) := do
  expectKeyword "AS"
  if ← keyword "INPUTFORMAT" then
    let input ← expressionText d
    expectKeyword "OUTPUTFORMAT"
    let output ← expressionText d
    return (s!" STORED AS INPUTFORMAT {input} OUTPUTFORMAT {output}", false)
  else
    let format ← fileFormat
    return (s!" STORED AS {format}", true)

/-- How the rows of a table are stored, in any order; what is said again counts. The fuel bounds the
number of the parts. -/
def storedRowsFrom (d : Deeper) (found : StoredRows) : Nat → Reader StoredRows
  | 0 => return found
  | fuel + 1 => do
    if ← keyword "ROW" then
      let format ← rowFormat
      storedRowsFrom d { found with rowFormat := format } fuel
    else if ← keyword "STORED" then
      let (files, one) ← storedFiles d
      storedRowsFrom d { found with files := files, oneFormat := one } fuel
    else if ← keyword "LOCATION" then
      let path ← plainString
      storedRowsFrom d { found with location := s!" LOCATION {path}" } fuel
    else
      let properties ← requiredClause d ["WITH", "SERDEPROPERTIES"] " WITH SERDEPROPERTIES "
      if properties.isEmpty then return found
      else storedRowsFrom d { found with properties := properties } fuel

/-- How the rows of a table are stored. -/
def storedRows (d : Deeper) : Reader StoredRows := do
  storedRowsFrom d .unsaid ((← size) + 1)

/-- The columns by whose values the rows are kept apart. -/
def partitionColumns (d : Deeper) : Reader String :=
  parenthesizedClause ["PARTITIONED", "BY"] do return commaSeparated (← commaList (column d))

/-- The buckets that the rows are divided into. -/
def bucketsClause (d : Deeper) : Reader String := do
  if ← keywordsWhere Dialect.extraClauses ["CLUSTERED", "BY"] then
    let columns := listed "" (← columnList)
    let sorted ← parenthesizedClause ["SORTED", "BY"] (orderKeysText d)
    expectKeyword "INTO"
    let count ← numberValue
    expectKeyword "BUCKETS"
    return s!" CLUSTERED BY {columns}{sorted} INTO {count} BUCKETS"
  else return ""

/-! ### Options without parentheses -/

/-- Keys of options that stand without parentheses, as runs of keywords. -/
def plainKeys : List (List String) := [
  ["DEFAULT", "CHARSET"], ["CHARSET"], ["DEFAULT", "CHARACTER", "SET"], ["CHARACTER", "SET"],
  ["DEFAULT", "COLLATE"], ["COLLATE"], ["DATA", "DIRECTORY"], ["INDEX", "DIRECTORY"],
  ["KEY_BLOCK_SIZE"], ["ROW_FORMAT"], ["PACK_KEYS"], ["STATS_AUTO_RECALC"], ["STATS_PERSISTENT"],
  ["STATS_SAMPLE_PAGES"], ["DELAY_KEY_WRITE"], ["COMPRESSION"], ["ENCRYPTION"], ["MAX_ROWS"],
  ["MIN_ROWS"], ["AUTOEXTEND_SIZE"], ["AVG_ROW_LENGTH"], ["CHECKSUM"], ["CONNECTION"],
  ["ENGINE_ATTRIBUTE"], ["PASSWORD"], ["SECONDARY_ENGINE_ATTRIBUTE"], ["INSERT_METHOD"],
  ["AUTO_INCREMENT"]]

/-- The remark on a table, from behind `COMMENT`. -/
def tableRemark : Reader String := do
  let equals := if ← sign "=" then "= " else ""
  match ← peekToken with
  | some (.text .single content) =>
    let _ ← advance
    return s!"COMMENT {equals}'{content}'"
  | _ =>
    let text ← peekText
    broken s!"Expected: Token::SingleQuotedString, found: {text}" Place.none

/-- The engine of a table, from behind `ENGINE`. -/
def tableEngine : Reader String := do
  let _ ← sign "="
  match ← peekToken with
  | some (.word w) =>
    let _ ← advance
    let arguments ←
      if ← peekSign "(" then parenthesized (commaList ident) else pure []
    return s!"ENGINE = {w.value}" ++ listed "" arguments
  | _ => expected "Token::Word"

/-- Where a table space lies, from behind `STORAGE`. -/
def spaceStorage : Reader String := do
  let _ ← sign "="
  match ← peekToken with
  | some (.word w) =>
    let kind := w.value.map Char.toUpper
    if ["DISK", "MEMORY"].contains kind then
      let _ ← advance
      return s!" STORAGE {kind}"
    else expected "Storage type (DISK or MEMORY)"
  | _ => expected "Token::Word"

/-- The space of a table, from behind `TABLESPACE`. -/
def tableSpace : Reader String := do
  let _ ← sign "="
  let found (name : String) : Reader String := do
    let _ ← advance
    let storage ← if ← keyword "STORAGE" then spaceStorage else pure ""
    return s!"TABLESPACE {name}{storage}"
  match ← peekToken with
  | some (.word w) => found w.value
  | some (.text .single content) => found content
  | _ => expected "Token::Word"

/-- The tables that a table joins together, from behind `UNION`. -/
def unionTables : Reader String := do
  let _ ← sign "="
  if ← sign "(" then
    let tables ← commaListBefore ident ")"
    expectSign ")"
    return "UNION = " ++ listed "" tables
  else expected "Token::LParen"

/-- An option of a table without parentheses. -/
def plainOption : Reader (Option String) := do
  if ← keywords ["START", "TRANSACTION"] then return some "START TRANSACTION"
  else if ← keyword "COMMENT" then some <$> tableRemark
  else if ← keyword "ENGINE" then some <$> tableEngine
  else if ← keyword "TABLESPACE" then some <$> tableSpace
  else if ← keyword "UNION" then some <$> unionTables
  else
    match ← oneOfRuns plainKeys with
    | some key =>
      let _ ← sign "="
      match ← attempt valueText with
      | some text => return some s!"{key} = {text}"
      | none => return some s!"{key} = {(← ident).render}"
    | none => return none

/-- The options of a table without parentheses, between which commas may stand. -/
def plainOptions : Reader String := do
  let found ← many do
    match ← plainOption with
    | some text =>
      let _ ← sign ","
      return some (" " ++ text)
    | none => return none
  return String.join found

/-! ### Tables -/

/-- What is said of a new table behind its columns and its storage. -/
structure TableConfig where
  inherits_ : String
  partition : String
  cluster : String
  /-- Options behind `WITH` or `TBLPROPERTIES`, or without parentheses. -/
  options : String
  /-- Options behind `OPTIONS`. -/
  lateOptions : String
  deriving Inhabited

/-- What is said of a new table behind its columns and its storage. Of several kinds of options the
last one counts; options without parentheses are read only if there are no others. -/
def tableConfig (d : Deeper) : Reader TableConfig := do
  let inherits_ ← clause ["INHERITS"] do
    return s!"({commaSeparated ((← columnListOf objectName).map ObjectName.render)})"
  let with_ ← keyedClause d ["WITH"] " WITH "
  let properties ← keyedClause d ["TBLPROPERTIES"] " TBLPROPERTIES "
  let early := if properties.isEmpty then with_ else properties
  let partition ←
    if ← trait Dialect.indexParameters then clause ["PARTITION", "BY"] (expressionText d)
    else pure ""
  let extra ← trait Dialect.extraClauses
  let cluster ← if extra then clause ["CLUSTER", "BY"] (expressionsText d) else pure ""
  let late ← if extra then keyedOptions d ["OPTIONS"] else pure none
  match late with
  | some found =>
    return ⟨inherits_, partition, cluster, "", s!" OPTIONS({commaSeparated found})"⟩
  | none =>
    let options ← if early.isEmpty then plainOptions else pure early
    return ⟨inherits_, partition, cluster, options, ""⟩

/-- The order that the rows of a table are kept in. -/
def tableOrder (d : Deeper) : Reader String :=
  clause ["ORDER", "BY"] do
    if ← sign "(" then
      let keys ← commaListBefore (expression d) ")"
      expectSign ")"
      return s!"({commaSeparated (renderExprs keys)})"
    else expressionText d

/-- What becomes of the rows at the end of a transaction. -/
def commitClause : Reader String := do
  if ← keywords ["ON", "COMMIT"] then
    match ← oneOfRuns [["DELETE", "ROWS"], ["PRESERVE", "ROWS"], ["DROP"]] with
    | some action => return s!" ON COMMIT {action}"
    | none =>
      let text ← peekText
      broken s!"Expecting DELETE ROWS, PRESERVE ROWS or DROP{text}" Place.none
  else return ""

/-- The query whose rows a new table holds. -/
def tableContent (d : Deeper) : Reader String := do
  if ← keyword "AS" then return s!" AS {(← d.query).render}"
  else if (← peekKeyword) == "SELECT" && (← trait Dialect.bareTableContent) then
    return s!" AS {(← d.query).render}"
  else return ""

/-- The table that a new one is like. -/
def likeClause : Reader String := do
  match ← oneOf ["LIKE", "ILIKE"] with
  | some _ => return s!" LIKE {(← objectName).render}"
  | none => return ""

/-- The table that a new one is a copy of. Without a name there is none. -/
def cloneClause : Reader String := do
  if ← keyword "CLONE" then
    match ← tolerating objectName with
    | some name => return s!" CLONE {name.render}"
    | none => return ""
  else return ""

/-- A new table, from behind `TABLE`. -/
def createTable (d : Deeper) (words : String) : Reader String := do
  let guard ← ifNotExists
  let name ← objectName
  let onCluster ← clusterClause
  let like ← likeClause
  let clone ← cloneClause
  let elements ← tableElements d
  let rowid ← optionalWords ["WITHOUT", "ROWID"]
  let partitioned ← partitionColumns d
  let buckets ← bucketsClause d
  let stored ← storedRows d
  let config ← tableConfig d
  let key ←
    if ← trait Dialect.extraClauses then clause ["PRIMARY", "KEY"] (expressionText d) else pure ""
  let order ← tableOrder d
  let commit ← commitClause
  let strict ← optionalWord "STRICT"
  let content ← tableContent d
  let bare := content.isEmpty && like.isEmpty && clone.isEmpty
  let columns :=
    if !elements.isEmpty then s!" ({commaSeparated elements})" else if bare then " ()" else ""
  let opening :=
    s!"CREATE {words}TABLE {guard}{name.render}{onCluster}{columns}{rowid}{like}{clone}"
  let rows := partitioned ++ buckets ++ stored.render false ++ config.options ++ key ++ order
  let rest := config.inherits_ ++ config.partition ++ config.cluster ++ config.lateOptions
  return opening ++ rows ++ rest ++ commit ++ strict ++ content

/-- A new table whose rows lie outside the database, from behind `EXTERNAL`. -/
def createExternalTable (d : Deeper) (words : String) : Reader String := do
  expectKeyword "TABLE"
  let guard ← ifNotExists
  let name ← objectName
  let elements ← tableElements d
  let partitioned ← partitionColumns d
  let stored ← storedRows d
  let properties ← keyedClause d ["TBLPROPERTIES"] " TBLPROPERTIES "
  let columns := s!" ({commaSeparated elements})"
  let opening := s!"CREATE {words}EXTERNAL TABLE {guard}{name.render}{columns}{partitioned}"
  return opening ++ stored.render true ++ properties

end Reader

end QueryLint.Sql
