import QueryLint.Sql.Grammar.Alteration

/-!
# Statements about stored data

Readers for statements that look after stored data: they empty, measure, check, cache and lock
tables, open and close databases, and remark on objects. Each starts behind its first keyword.
-/

namespace QueryLint.Sql

namespace Reader

/-! ### Tables -/

/-- Tables that are emptied, from behind `TRUNCATE`. -/
def truncation (d : Deeper) : Reader String := do
  let table ← if ← keyword "TABLE" then pure "TABLE " else pure ""
  let target : Reader String := do
    let only ← if ← keyword "ONLY" then pure "ONLY " else pure ""
    return only ++ (← objectName).render
  let names ← commaList target
  let partitions ← parenthesizedClause ["PARTITION"] (expressionsText d)
  let rules ←
    if ← trait Dialect.truncationOptions then
      let counters := ((← oneOfRuns [["RESTART", "IDENTITY"], ["CONTINUE", "IDENTITY"]]).map
        (" " ++ ·)).getD ""
      pure (counters ++ (← dropBehaviour))
    else pure ""
  let onCluster ← clusterClause
  return s!"TRUNCATE {table}{commaSeparated names}{rules}{partitions}{onCluster}"

/-- The parts of an analysis, in their canonical order. -/
structure AnalysisParts where
  partition : String
  statistics : String
  noScan : String
  cache : String
  columns : String
  deriving Inhabited

/-- What is analysed of a table, in any order; what is said again counts. The fuel bounds the number
of the parts. -/
def analysisParts (d : Deeper) (found : AnalysisParts) : Nat → Reader AnalysisParts
  | 0 => return found
  | fuel + 1 => do
    match ← oneOf ["PARTITION", "FOR", "CACHE", "NOSCAN", "COMPUTE"] with
    | some "PARTITION" =>
      let values ← partitionValues d
      analysisParts d { found with partition := s!" PARTITION {values}" } fuel
    | some "FOR" =>
      expectKeyword "COLUMNS"
      let names := ((← attempt nameList).map (" " ++ ·)).getD ""
      analysisParts d { found with columns := s!" FOR COLUMNS{names}" } fuel
    | some "CACHE" =>
      expectKeyword "METADATA"
      analysisParts d { found with cache := " CACHE METADATA" } fuel
    | some "NOSCAN" => analysisParts d { found with noScan := " NOSCAN" } fuel
    | some _ =>
      expectKeyword "STATISTICS"
      analysisParts d { found with statistics := " COMPUTE STATISTICS" } fuel
    | none => return found

/-- A table that is analysed, from behind `ANALYZE`. -/
def tableAnalysis (d : Deeper) : Reader String := do
  let word ← optionalWord "TABLE"
  let name ← objectName
  let p ← analysisParts d ⟨"", "", "", "", ""⟩ ((← size) + 1)
  return s!"ANALYZE{word} {name.render}{p.partition}{p.statistics}{p.noScan}{p.cache}{p.columns}"

/-- A table whose space is taken back, from behind `VACUUM`. -/
def vacuum : Reader String := do
  let full ← optionalWord "FULL"
  let sorted ← optionalWords ["SORT", "ONLY"]
  let deleted ← optionalWords ["DELETE", "ONLY"]
  let reindex ← optionalWord "REINDEX"
  let recluster ← optionalWord "RECLUSTER"
  let words := full ++ sorted ++ deleted ++ reindex ++ recluster
  match ← attempt objectName with
  | some name =>
    let threshold ←
      if ← keyword "TO" then
        let share ← valueText
        expectKeyword "PERCENT"
        pure s!" TO {share} PERCENT"
      else pure ""
    return s!"VACUUM{words} {name.render}{threshold}" ++ (← optionalWord "BOOST")
  | none => return "VACUUM" ++ words

/-- A table whose partitions are brought in line with its files, from behind `MSCK`. -/
def partitionRepair : Reader String := do
  let repair ← if ← keyword "REPAIR" then pure "REPAIR " else pure ""
  expectKeyword "TABLE"
  let name ← objectName
  let action ← attempt do
    let k ← oneOf ["ADD", "DROP", "SYNC"]
    expectKeyword "PARTITIONS"
    return (k.map fun k => s!" {k} PARTITIONS").getD ""
  return s!"MSCK {repair}TABLE {name.render}" ++ action.getD ""

/-- A table whose parts are merged, from behind `OPTIMIZE`. -/
def optimization (d : Deeper) : Reader String := do
  expectKeyword "TABLE"
  let name ← objectName
  let onCluster ← clusterClause
  let partition ←
    if ← keywords ["PARTITION", "ID"] then pure s!" PARTITION ID {(← ident).render}"
    else clause ["PARTITION"] (expressionText d)
  let final ← optionalWord "FINAL"
  let unique ←
    if ← keyword "DEDUPLICATE" then
      pure (" DEDUPLICATE" ++ (← clause ["BY"] (expressionText d)))
    else pure ""
  return s!"OPTIMIZE TABLE {name.render}{onCluster}{partition}{final}{unique}"

/-- A table with its new name. -/
def tableSuccessor : Reader String := do
  let old ← objectName
  expectKeyword "TO"
  return s!"{old.render} TO {(← objectName).render}"

/-- Tables that get other names, from behind `RENAME`. -/
def tableNames : Reader String := do
  if ← keyword "TABLE" then return s!"RENAME TABLE {commaSeparated (← commaList tableSuccessor)}"
  else expected "KEYWORD \x60TABLE\x60 after RENAME"

/-! ### Caches and locks -/

/-- A table that is cached, with the query for its rows. -/
def cachedTable (d : Deeper) (flag : String) : Reader String := do
  let name ← objectName
  let options ← keyedClause d ["OPTIONS"] " OPTIONS"
  let opening := s!"CACHE {flag}TABLE {name.render}{options}"
  match ← peekToken with
  | none => return opening
  | some (.word w) =>
    let as ← if w.keyword == "AS" then optionalWord "AS" else pure ""
    return s!"{opening}{as} {(← d.query).render}"
  | some _ => expected "a QUERY statement"

/-- A table that is cached, from behind `CACHE`. Where the text ends behind one name, that name is
what stands in the place of the keyword. -/
def caching (d : Deeper) : Reader String := do
  if ← keyword "TABLE" then cachedTable d ""
  else
    let start ← left
    let flag ← objectName
    if ← keyword "TABLE" then cachedTable d (flag.render ++ " ")
    else if (← peek).isNone then behindLast "a \x60TABLE\x60 keyword" start
    else expected "a \x60TABLE\x60 keyword"

/-- A table that is not cached any longer, from behind `UNCACHE`. -/
def uncaching : Reader String := do
  if ← keyword "TABLE" then
    let guard ← ifExists
    return s!"UNCACHE TABLE {guard}{(← objectName).render}"
  else expected "a \x60TABLE\x60 keyword"

/-- What a server can write out or read again. -/
def flushedKinds : List (List String) := [
  ["BINARY", "LOGS"], ["ENGINE", "LOGS"], ["ERROR", "LOGS"], ["GENERAL", "LOGS"], ["HOSTS"],
  ["PRIVILEGES"], ["OPTIMIZER_COSTS"], ["RELAY", "LOGS"], ["SLOW", "LOGS"], ["STATUS"],
  ["USER_RESOURCES"], ["LOGS"], ["TABLES"]]

/-- The tables that are flushed and how, up to the first token that is no word, which is taken as
well. The texts are those of the tables, the lock and the export; the fuel bounds the number of
words. -/
def flushedTables (tables lock export_ : String) : Nat → Reader String
  | 0 => return tables ++ lock ++ export_
  | fuel + 1 => do
    match ← peekToken with
    | some (.word w) =>
      if w.keyword == "WITH" then
        let _ ← advance
        flushedTables tables (if ← keywords ["READ", "LOCK"] then " WITH READ LOCK"
          else "") export_ fuel
      else if w.keyword == "FOR" then
        let _ ← advance
        flushedTables tables lock (if ← keyword "EXPORT" then " FOR EXPORT" else "") fuel
      else if Keyword.isWord w.keyword then
        let _ ← advance
        flushedTables tables lock export_ fuel
      else
        let names ← commaList objectName
        flushedTables s!" {commaSeparated (names.map ObjectName.render)}" lock export_ fuel
    | _ =>
      let _ ← advance
      return tables ++ lock ++ export_

/-- What a server writes out or reads again, from behind `FLUSH`. -/
def flushing : Reader String := do
  if ← trait Dialect.replaceStatement then
    let place ← optionalOneOf ["NO_WRITE_TO_BINLOG", "LOCAL"]
    match ← oneOfRuns flushedKinds with
    | some "TABLES" => return s!"FLUSH{place} TABLES" ++ (← flushedTables "" "" "" ((← size) + 1))
    | some "RELAY LOGS" =>
      let channel ← clause ["FOR", "CHANNEL"] do return (← objectName).render
      return s!"FLUSH{place} RELAY LOGS{channel}"
    | some words => return s!"FLUSH{place} {words}"
    | none =>
      expected <| "BINARY LOGS, ENGINE LOGS, ERROR LOGS, GENERAL LOGS, HOSTS, LOGS, PRIVILEGES, "
        ++ "OPTIMIZER_COSTS,RELAY LOGS [FOR CHANNEL channel], SLOW LOGS, STATUS, USER_RESOURCES"
  else broken "Unsupported statement FLUSH" (← place)

/-- How a table is locked. -/
def tableLock : Reader String := do
  match ← oneOfRuns [["READ", "LOCAL"], ["READ"], ["WRITE"], ["LOW_PRIORITY", "WRITE"]] with
  | some words => return words
  | none => expected "an lock type in LOCK TABLES"

/-- A table that is locked. -/
def lockedTable : Reader String := do
  let name ← ident
  let kept (k : String) : Bool := !(["READ", "WRITE", "LOW_PRIORITY"].contains k)
  let named := ((← aliasWord kept).map fun (_, n) => s!" AS {n.render}").getD ""
  return s!"{name.render}{named} {← tableLock}"

/-! ### Databases and remarks -/

/-- A database that is opened beside the current one, from behind `ATTACH`. -/
def attachment (d : Deeper) : Reader String := do
  let word ← if ← keyword "DATABASE" then pure "DATABASE " else pure ""
  let file ← expressionText d
  expectKeyword "AS"
  return s!"ATTACH {word}{file} AS {(← ident).render}"

/-- A database that is closed, from behind `DETACH`. -/
def detachment : Reader String := do
  let word ← optionalWord "DATABASE"
  let guard ← optionalWords ["IF", "EXISTS"]
  return s!"DETACH{word}{guard} {(← ident).render}"

/-- The kinds of objects that can be remarked on. -/
def remarkedKinds : List String :=
  ["COLUMN", "DATABASE", "EXTENSION", "ROLE", "SCHEMA", "TABLE", "USER"]

/-- A remark on an object, from behind `COMMENT`. -/
def remark : Reader String := do
  let guard ← ifExists
  expectKeyword "ON"
  let kind ← expectAmong remarkedKinds "comment object_type"
  let name ← objectName
  expectKeyword "IS"
  let text ← if ← keyword "NULL" then pure "NULL" else plainString
  return s!"COMMENT {guard}ON {kind} {name.render} IS {text}"

/-- A statement of another session that is ended, from behind `KILL`. -/
def killing : Reader String := do
  let kind := ((← oneOf ["CONNECTION", "QUERY", "MUTATION"]).map (· ++ " ")).getD ""
  let number ← naturalNumber
  if kind == "MUTATION " && !(← trait Dialect.extraClauses) then
    expected "Unsupported type for KILL, allowed: CONNECTION | QUERY"
  else return s!"KILL {kind}{number}"

/-! ### Messages -/

/-- What a fault that is raised does besides. -/
def faultOption : Reader String :=
  expectOneOf ["LOG", "NOWAIT", "SETERROR"]

/-- A fault that is raised with its severity and state, from behind the word for it. -/
def raisedFault (d : Deeper) : Reader String := do
  let content ← parenthesized do
    let message ← expressionText d
    expectSign ","
    let severity ← expressionText d
    expectSign ","
    let state ← expressionText d
    let arguments ← if ← sign "," then pure (", " ++ (← expressionsText d)) else pure ""
    return s!"{message}, {severity}, {state}{arguments}"
  let options ← clause ["WITH"] (commaSeparated <$> commaList faultOption)
  return s!"RAISERROR({content}){options}"

/-- A condition that must hold, from behind `ASSERT`. -/
def assertion (d : Deeper) : Reader String := do
  let condition ← expressionText d
  return s!"ASSERT {condition}" ++ (← clause ["AS"] (expressionText d))

/-- A channel that is listened to no longer, from behind `UNLISTEN`. -/
def unlistening : Reader String := do
  if ← sign "*" then return "UNLISTEN *"
  else match ← attempt ident with
    | some name => return s!"UNLISTEN {name.render}"
    | none => expected "wildcard or identifier"

/-- A message on a channel, from behind `NOTIFY`. -/
def notification : Reader String := do
  let channel ← ident
  let message ← if ← sign "," then pure s!", {← plainString}" else pure ""
  return s!"NOTIFY {channel.render}{message}"

end Reader

end QueryLint.Sql
