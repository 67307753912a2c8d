import QueryLint.Sql.Grammar.Removal

/-!
# Alterations

A reader for `ALTER`. A table is altered by any number of changes; a change adds, renames, drops or
redefines a column, a constraint or a partition, or sets options of the table.
-/

namespace QueryLint.Sql

namespace Reader

/-! ### Columns and partitions -/

/-- Where among the others a column goes. -/
def columnPosition : Reader String := do
  if ← trait Dialect.keyConstraints then
    if ← keyword "FIRST" then return " FIRST"
    else clause ["AFTER"] do return (← ident).render
  else return ""

/-- The values that tell a partition, in parentheses. -/
def partitionValues (d : Deeper) : Reader String := do
  return s!"({← parenthesized (expressionsText d)})"

/-- Partitions that a table gets in addition. -/
def addedPartitions (d : Deeper) : Reader (List String) :=
  many do
    if ← keyword "PARTITION" then return some s!" PARTITION {← partitionValues d}"
    else return none

/-- The selection of a projection that a table keeps. -/
def keptSelection (d : Deeper) : Reader String := do
  let content ← parenthesized do
    expectKeyword "SELECT"
    let items := commaSeparated (renderItems (← projection d))
    let groups := (← groupBy d).render
    return s!"SELECT {items}{groups}{(← orderBy d).render}"
  return s!"({content})"

/-- What a table gets in addition, from behind `ADD`. -/
def addition (d : Deeper) : Reader String := do
  match ← tableConstraint d with
  | some text => return s!"ADD {text}" ++ (← optionalWords ["NOT", "VALID"])
  | none =>
    if ← keywordsWhere Dialect.extraClauses ["PROJECTION"] then
      let guard ← ifNotExists
      let name ← ident
      return s!"ADD PROJECTION {guard}{name.render} {← keptSelection d}"
    else
      let early ← optionalWords ["IF", "NOT", "EXISTS"]
      let partitions ← addedPartitions d
      if !partitions.isEmpty then return s!"ADD{early}{String.join partitions}"
      else
        let word ← optionalWord "COLUMN"
        let guarded ← trait Dialect.indexParameters
        let late ← if guarded then optionalWords ["IF", "NOT", "EXISTS"] else pure ""
        let guard := if guarded && late.isEmpty then early else late
        return s!"ADD{word}{guard} {← column d}{← columnPosition}"

/-- What gets another name, from behind `RENAME`. -/
def nameChange : Reader String := do
  let successor : Reader String := do
    let old ← ident
    expectKeyword "TO"
    return s!"{old.render} TO {(← ident).render}"
  if ← keywordsWhere Dialect.roleProperties ["CONSTRAINT"] then
    return s!"RENAME CONSTRAINT {← successor}"
  else
    match ← oneOf ["TO", "AS"] with
    | some k => return s!"RENAME {k} {(← objectName).render}"
    | none =>
      let _ ← keyword "COLUMN"
      return s!"RENAME COLUMN {← successor}"

/-- What a table loses, from behind `DROP`. Where there are no projections, the word for one is
passed over. -/
def loss (d : Deeper) : Reader String := do
  let kinds := [
    ["IF", "EXISTS", "PARTITION"], ["PARTITION"], ["CONSTRAINT"], ["PRIMARY", "KEY"],
    ["FOREIGN", "KEY"], ["INDEX"]]
  match ← oneOfRuns kinds with
  | some "CONSTRAINT" =>
    let guard ← ifExists
    let name ← ident
    return s!"DROP CONSTRAINT {guard}{name.render}{← dropBehaviour}"
  | some "PRIMARY KEY" => return s!"DROP PRIMARY KEY{← dropBehaviour}"
  | some "FOREIGN KEY" =>
    let name ← ident
    return s!"DROP FOREIGN KEY {name.render}{← dropBehaviour}"
  | some "INDEX" => return s!"DROP INDEX {(← ident).render}"
  | some words => return s!"DROP {words} {← partitionValues d}"
  | none =>
    let projected ← keyword "PROJECTION"
    if projected && (← trait Dialect.extraClauses) then
      let guard ← ifExists
      return s!"DROP PROJECTION {guard}{(← ident).render}"
    else if ← keywords ["CLUSTERING", "KEY"] then return "DROP CLUSTERING KEY"
    else
      let word ← optionalWord "COLUMN"
      let guard ← ifExists
      let name ← ident
      return s!"DROP{word} {guard}{name.render}{← dropBehaviour}"

/-- The type that a column gets, with the words for it. -/
def typeChange (d : Deeper) (words : String) : Reader String := do
  let type ← typeText d
  let conversion ←
    if ← trait Dialect.indexParameters then clause ["USING"] (expressionText d) else pure ""
  return s!"{words} {type}{conversion}"

/-- The numbers that a column is filled with from now on, from behind `ADD GENERATED`. -/
def numberingChange : Reader String := do
  let order := ((← oneOfRuns [["ALWAYS"], ["BY", "DEFAULT"]]).map (" " ++ ·)).getD ""
  expectKeywords ["AS", "IDENTITY"]
  let options ←
    if ← peekSign "(" then pure s!" ({← parenthesized sequenceOptions} )" else pure ""
  return s!"ADD GENERATED{order} AS IDENTITY{options}"

/-- What a column becomes, from behind `ALTER`. -/
def columnChange (d : Deeper) : Reader String := do
  let _ ← keyword "COLUMN"
  let name ← ident
  let kinds := [
    ["SET", "NOT", "NULL"], ["DROP", "NOT", "NULL"], ["SET", "DEFAULT"], ["DROP", "DEFAULT"],
    ["SET", "DATA", "TYPE"], ["TYPE"], ["ADD", "GENERATED"]]
  let change ← match ← oneOfRuns kinds with
    | some "SET DEFAULT" => pure s!"SET DEFAULT {← expressionText d}"
    | some "SET DATA TYPE" => typeChange d "SET DATA TYPE"
    | some "TYPE" => typeChange d "TYPE"
    | some "ADD GENERATED" => numberingChange
    | some words => pure words
    | none =>
      if ← trait Dialect.roleProperties then
        expected <| "SET/DROP NOT NULL, SET DEFAULT, SET DATA TYPE, or ADD GENERATED "
          ++ "after ALTER COLUMN"
      else expected "SET/DROP NOT NULL, SET DEFAULT, or SET DATA TYPE after ALTER COLUMN"
  return s!"ALTER COLUMN {name.render} {change}"

/-! ### Rules, triggers and storage -/

/-- What is not in force any longer, from behind `DISABLE`. -/
def disabling : Reader String := do
  match ← oneOfRuns [["ROW", "LEVEL", "SECURITY"], ["RULE"], ["TRIGGER"]] with
  | some "ROW LEVEL SECURITY" => return "DISABLE ROW LEVEL SECURITY"
  | some words => return s!"DISABLE {words} {(← ident).render}"
  | none => expected "ROW LEVEL SECURITY, RULE, or TRIGGER after DISABLE"

/-- What is in force from now on, from behind `ENABLE`. -/
def enabling : Reader String := do
  let kinds := [
    ["ALWAYS", "RULE"], ["ALWAYS", "TRIGGER"], ["ROW", "LEVEL", "SECURITY"], ["REPLICA", "RULE"],
    ["REPLICA", "TRIGGER"], ["RULE"], ["TRIGGER"]]
  match ← oneOfRuns kinds with
  | some "ROW LEVEL SECURITY" => return "ENABLE ROW LEVEL SECURITY"
  | some words => return s!"ENABLE {words} {(← ident).render}"
  | none => expected "ALWAYS, REPLICA, ROW LEVEL SECURITY, RULE, or TRIGGER after ENABLE"

/-- A part or a partition. -/
def partOrPartition (d : Deeper) : Reader String := do
  let k ← expectOneOf ["PART", "PARTITION"]
  return s!"{k} {← expressionText d}"

/-- A projection that is cleared or filled, in all partitions or one, from behind the words for
it. -/
def projectionChange (words : String) : Reader String := do
  let guard ← ifExists
  let name ← ident
  let place ← clause ["IN", "PARTITION"] do return (← ident).render
  return s!"{words} {guard}{name.render}{place}"

/-- A change that only some dialects have, told by its words. -/
def storageChange (d : Deeper) (words : String) : Reader String := do
  let part ← partOrPartition d
  if words == "ATTACH" || words == "DETACH" then return s!"{words} {part}"
  else
    let name ←
      if ← keyword "WITH" then
        expectKeyword "NAME"
        pure s!" WITH NAME {(← ident).render}"
      else pure ""
    return s!"{words} {part}{name}"

/-- How the rows that change are told to replicas, from behind `REPLICA IDENTITY`. -/
def replicaIdentity : Reader String := do
  match ← oneOfRuns [["NONE"], ["FULL"], ["DEFAULT"], ["USING", "INDEX"]] with
  | some "USING INDEX" => return s!"REPLICA IDENTITY USING INDEX {(← ident).render}"
  | some words => return s!"REPLICA IDENTITY {words}"
  | none =>
    expected "NONE, FULL, DEFAULT, or USING INDEX index_name after REPLICA IDENTITY"

/-- Options that a table gets. -/
def tableOptions (d : Deeper) : Reader String := do
  let properties ← requiredClause d ["SET", "TBLPROPERTIES"] "SET TBLPROPERTIES"
  let options ← if properties.isEmpty then keyedClause d ["SET"] "SET " else pure properties
  if options.isEmpty then
    expected <| "ADD, RENAME, PARTITION, SWAP, DROP, REPLICA IDENTITY, SET, or SET TBLPROPERTIES "
      ++ "after ALTER TABLE"
  else return options

/-! ### Changes of tables -/

/-- A change of a column or a partition, told by its word, from behind it. -/
def elementChange (d : Deeper) (k : String) : Reader String := do
  match k with
  | "ADD" => addition d
  | "RENAME" => nameChange
  | "DISABLE" => disabling
  | "ENABLE" => enabling
  | "DROP" => loss d
  | "ALTER" => columnChange d
  | "PARTITION" =>
    let old ← partitionValues d
    expectKeywords ["RENAME", "TO", "PARTITION"]
    return s!"PARTITION {old} RENAME TO PARTITION {← partitionValues d}"
  | "MODIFY" =>
    let _ ← keyword "COLUMN"
    let name ← ident
    return s!"MODIFY COLUMN {name.render} {← columnContent d}{← columnPosition}"
  | _ =>
    let _ ← keyword "COLUMN"
    let old ← ident
    let name ← ident
    return s!"CHANGE COLUMN {old.render} {name.render} {← columnContent d}{← columnPosition}"

/-- The words that open a change of a table as a whole. -/
def wholeChangeWords : List (List String) := [
  ["SWAP"], ["CLUSTER", "BY"], ["SUSPEND", "RECLUSTER"], ["RESUME", "RECLUSTER"], ["LOCK"],
  ["ALGORITHM"], ["AUTO_INCREMENT"], ["REPLICA", "IDENTITY"], ["VALIDATE", "CONSTRAINT"]]

/-- A change of a table as a whole, told by its words, from behind them. -/
def wholeChange (d : Deeper) (words : String) : Reader String := do
  match words with
  | "SWAP" =>
    expectKeyword "WITH"
    return s!"SWAP WITH {(← objectName).render}"
  | "CLUSTER BY" => return s!"CLUSTER BY {← partitionValues d}"
  | "LOCK" => lockOption
  | "ALGORITHM" => algorithmOption
  | "AUTO_INCREMENT" =>
    let equals := if ← sign "=" then "= " else ""
    return s!"AUTO_INCREMENT {equals}{← numberValue}"
  | "REPLICA IDENTITY" => replicaIdentity
  | "VALIDATE CONSTRAINT" => return s!"VALIDATE CONSTRAINT {(← ident).render}"
  | _ => return words

/-- The words that open a change of the storage of a table. -/
def storageChangeWords : List (List String) :=
  [["ATTACH"], ["DETACH"], ["FREEZE"], ["UNFREEZE"]]

/-- A change of a table that is none of its columns. -/
def otherChange (d : Deeper) : Reader String := do
  match ← oneOfRuns wholeChangeWords with
  | some words => wholeChange d words
  | none =>
    let ownable ← trait Dialect.indexParameters
    let owned ← if ownable then keywords ["OWNER", "TO"] else pure false
    if owned then return s!"OWNER TO {← owner}"
    else
      let storable ← trait Dialect.extraClauses
      match ← oneOfRuns (if storable then storageChangeWords else []) with
      | some words => storageChange d words
      | none => tableOptions d

/-- One change of a table. Where there are no projections, the words that clear or fill one are
passed over, and only what is tried behind them may follow. -/
def tableChange (d : Deeper) : Reader String := do
  match ← oneOf ["ADD", "RENAME", "DISABLE", "ENABLE"] with
  | some k => elementChange d k
  | none =>
    let projects ← trait Dialect.extraClauses
    let cleared ← keywords ["CLEAR", "PROJECTION"]
    if cleared && projects then projectionChange "CLEAR PROJECTION"
    else
      let filled ← keywords ["MATERIALIZE", "PROJECTION"]
      if filled && projects then projectionChange "MATERIALIZE PROJECTION"
      else
        match ← oneOf ["DROP", "PARTITION", "CHANGE", "MODIFY", "ALTER"] with
        | some k => elementChange d k
        | none => otherChange d

/-- Where the files of a table lie from now on. -/
def newLocation : Reader String := do
  match ← oneOfRuns [["LOCATION"], ["SET", "LOCATION"]] with
  | some words => return s!" {words} {(← ident).render}"
  | none => return ""

/-- What becomes of a table, from behind `TABLE`. -/
def alterTable (d : Deeper) (words : String) : Reader String := do
  let guard ← ifExists
  let only ← if ← keyword "ONLY" then pure "ONLY " else pure ""
  let name ← objectName
  let onCluster ← clusterClause
  let changes ← commaList (tableChange d)
  let location ← newLocation
  let opening := s!"ALTER {words}TABLE {guard}{only}{name.render}{onCluster}"
  return s!"{opening} {commaSeparated changes}{location}"

/-! ### Changes of other objects -/

/-- What becomes of a view, from behind `VIEW`. -/
def alterView (d : Deeper) : Reader String := do
  let name ← objectName
  let columns := listed " " (← optionalListOf ident false)
  let options ← keyedClause d ["WITH"] " WITH "
  expectKeyword "AS"
  return s!"ALTER VIEW {name.render}{options}{columns} AS {(← d.query).render}"

/-- What becomes of an index, from behind `INDEX`. -/
def alterIndex : Reader String := do
  let name ← objectName
  if ← keyword "RENAME" then
    if ← keyword "TO" then return s!"ALTER INDEX {name.render} RENAME TO {(← objectName).render}"
    else expected "TO after RENAME"
  else expected "RENAME after ALTER INDEX"

/-- What becomes of a type, from behind `TYPE`. -/
def alterType : Reader String := do
  let name ← objectName
  let opening := s!"ALTER TYPE {name.render}"
  match ← oneOfRuns [["RENAME", "TO"], ["ADD", "VALUE"], ["RENAME", "VALUE"]] with
  | some "RENAME TO" => return s!"{opening} RENAME TO {(← ident).render}"
  | some "ADD VALUE" =>
    let guard ← ifNotExists
    let value ← ident
    let position ← match ← oneOf ["BEFORE", "AFTER"] with
      | some k => pure s!" {k} {(← ident).render}"
      | none => pure ""
    return s!"{opening} ADD VALUE {guard}{value.render}{position}"
  | some _ =>
    let old ← ident
    expectKeyword "TO"
    return s!"{opening} RENAME VALUE {old.render} TO {(← ident).render}"
  | none => expected "\x7bRENAME TO | \x7b RENAME | ADD \x7d VALUE\x7d"

/-- What becomes of a schema, from behind `SCHEMA`. -/
def alterSchema (d : Deeper) : Reader String := do
  let guard ← ifExists
  let name ← objectName
  let opening := s!"ALTER SCHEMA {guard}{name.render}"
  let kinds := [
    ["SET", "DEFAULT", "COLLATE"], ["ADD", "REPLICA"], ["DROP", "REPLICA"], ["RENAME", "TO"],
    ["OWNER", "TO"]]
  match ← keyedOptions d ["SET", "OPTIONS"] with
  | some found => return s!"{opening} SET OPTIONS ({commaSeparated found})"
  | none =>
    match ← oneOfRuns kinds with
    | some "SET DEFAULT COLLATE" => return s!"{opening} SET DEFAULT COLLATE {← expressionText d}"
    | some "ADD REPLICA" =>
      let replica ← ident
      return s!"{opening} ADD REPLICA {replica.render}"
        ++ (← writtenOptions d ["OPTIONS"] " OPTIONS ")
    | some "DROP REPLICA" => return s!"{opening} DROP REPLICA {(← ident).render}"
    | some "RENAME TO" => return s!"{opening} RENAME TO {(← objectName).render}"
    | some _ => return s!"{opening} OWNER TO {← owner}"
    | none => expected "ALTER SCHEMA operation"

/-- What becomes of a connector, from behind `CONNECTOR`. -/
def alterConnector (d : Deeper) : Reader String := do
  let name ← ident
  expectKeyword "SET"
  let properties ← requiredClause d ["DCPROPERTIES"] " SET DCPROPERTIES"
  let address ← if ← keyword "URL" then pure s!" SET URL {← plainString}" else pure ""
  let owned ← match ← oneOfRuns [["OWNER", "USER"], ["OWNER", "ROLE"]] with
    | some words => pure s!" SET {words} {(← ident).render}"
    | none => pure ""
  return s!"ALTER CONNECTOR {name.render}{properties}{address}{owned}"

/-- What is altered, from behind `ALTER`. -/
def alteration (d : Deeper) : Reader String := do
  let kind ← expectOneOf ["VIEW", "TYPE", "TABLE", "INDEX", "ROLE", "POLICY", "CONNECTOR",
    "ICEBERG", "SCHEMA", "USER"]
  match kind with
  | "TABLE" => alterTable d ""
  | "ICEBERG" =>
    expectKeyword "TABLE"
    alterTable d "ICEBERG "
  | "VIEW" => alterView d
  | "TYPE" => alterType
  | "INDEX" => alterIndex
  | "ROLE" => alterRole d
  | "POLICY" => alterPolicy d
  | "CONNECTOR" => alterConnector d
  | "SCHEMA" => alterSchema d
  | _ => alterUser

end Reader

end QueryLint.Sql
