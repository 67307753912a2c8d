import QueryLint.Sql.Grammar.Role
import QueryLint.Sql.Grammar.TableDefinition
import QueryLint.Sql.Grammar.TypeDefinition

/-!
# Definitions

A reader for `CREATE`, which tells by the words behind it what is created. Objects with short
definitions of their own are read here.
-/

namespace QueryLint.Sql

namespace Reader

/-! ### Objects with short definitions -/

/-- A new domain of values, from behind `DOMAIN`. -/
def createDomain (d : Deeper) : Reader String := do
  let name ← objectName
  expectKeyword "AS"
  let type ← typeText d
  let collation ← clause ["COLLATE"] do return (← ident).render
  let default ← clause ["DEFAULT"] (expressionText d)
  let constraints ← many (tableConstraint d)
  let rules := String.join (constraints.map (" " ++ ·))
  return s!"CREATE DOMAIN {name.render} AS {type}{collation}{default}{rules}"

/-- A key with a value, both of which are names. -/
def namePair : Reader String := do
  let key ← ident
  return s!"{key.render} {(← ident).render}"

/-- Where a secret is kept, if that is told by a name. -/
def secretPlace : Reader String := do
  if ← keyword "IN" then
    return ((← tolerating ident).map fun name => s!"IN {name.render} ").getD ""
  else return ""

/-- A new secret, from behind `SECRET`. What stands in the place of a name is passed over. -/
def createSecret (words : String) : Reader String := do
  let guard ← ifNotExists
  let (name, storage) ←
    if ← peekSign "(" then pure ("", "")
    else if (← peekKeyword) == "IN" then
      let early ← secretPlace
      pure ("", ← if early.isEmpty then secretPlace else pure early)
    else
      let name := ((← tolerating ident).map fun name => name.render ++ " ").getD ""
      pure (name, ← secretPlace)
  let content ← parenthesized do
    expectKeyword "TYPE"
    let type ← ident
    let options ← if ← sign "," then commaList namePair else pure []
    return s!"TYPE {type.render}" ++ String.join (options.map (", " ++ ·))
  return s!"CREATE {words}SECRET {guard}{name}{storage}( {content} )"

/-- A new extension, from behind `EXTENSION`. -/
def createExtension : Reader String := do
  let guard ← ifNotExists
  let name ← ident
  let options ←
    if ← keyword "WITH" then
      let schema ← clause ["SCHEMA"] do return (← ident).render
      let version ← clause ["VERSION"] do return (← ident).render
      let cascade ← optionalWord "CASCADE"
      pure (schema ++ version ++ cascade)
    else pure ""
  let tail := if options.isEmpty then "" else " WITH" ++ options
  return s!"CREATE EXTENSION {guard}{name.render}{tail}"

/-- A new table whose rows a module makes, from behind `VIRTUAL`. -/
def createVirtualTable : Reader String := do
  expectKeyword "TABLE"
  let guard ← ifNotExists
  let name ← objectName
  expectKeyword "USING"
  let module_ ← ident
  let arguments := listed " " (← optionalListOf ident false)
  return s!"CREATE VIRTUAL TABLE {guard}{name.render} USING {module_.render}{arguments}"

/-- Options in parentheses, which are written even if there are none. -/
def writtenOptions (d : Deeper) (words : List String) (before : String) : Reader String := do
  match ← keyedOptions d words with
  | some found => return s!"{before}({commaSeparated found})"
  | none => return ""

/-- The name of a schema, or of the role that it is for. -/
def schemaName : Reader String := do
  if ← keyword "AUTHORIZATION" then return s!"AUTHORIZATION {(← ident).render}"
  else
    let name ← objectName
    return name.render ++ (← clause ["AUTHORIZATION"] do return (← ident).render)

/-- A new schema, from behind `SCHEMA`. -/
def createSchema (d : Deeper) : Reader String := do
  let guard ← ifNotExists
  let name ← schemaName
  let collation ← clause ["DEFAULT", "COLLATE"] (expressionText d)
  let with_ ← writtenOptions d ["WITH"] " WITH "
  let options ← writtenOptions d ["OPTIONS"] " OPTIONS"
  let clone ← clause ["CLONE"] do return (← objectName).render
  return s!"CREATE SCHEMA {guard}{name}{collation}{with_}{options}{clone}"

/-- Where a database lies, in its own files and in those that are managed for it; what is said again
counts. The fuel bounds the number of the parts. -/
def databasePlaces (location managed : String) : Nat → Reader String
  | 0 => return location ++ managed
  | fuel + 1 => do
    match ← oneOf ["LOCATION", "MANAGEDLOCATION"] with
    | some "LOCATION" =>
      let path ← plainString
      databasePlaces s!" LOCATION {path}" managed fuel
    | some _ =>
      let path ← plainString
      databasePlaces location s!" MANAGEDLOCATION {path}" fuel
    | none => return location ++ managed

/-- A new database, from behind `DATABASE`. -/
def createDatabase : Reader String := do
  let guard ← ifNotExists
  let name ← objectName
  let places ← databasePlaces "" "" ((← size) + 1)
  let clone ← clause ["CLONE"] do return (← objectName).render
  return s!"CREATE DATABASE {guard}{name.render}{places}{clone}"

/-- A new sequence, from behind `SEQUENCE`. -/
def createSequence (d : Deeper) (lifetime : String) : Reader String := do
  let guard ← ifNotExists
  let name ← objectName
  let type ← clause ["AS"] (typeText d)
  let options ← sequenceOptions
  let owned ← clause ["OWNED", "BY"] do
    if ← keyword "NONE" then return "NONE" else return (← objectName).render
  return s!"CREATE {lifetime}SEQUENCE {guard}{name.render}{type}{options}{owned}"

/-- A remark on an object, with or without a sign before it. Quotes in it are not doubled. -/
def inlineRemark : Reader String := do
  if ← keyword "COMMENT" then
    let _ ← sign "="
    return s!" COMMENT = '{← remarkContent}'"
  else return ""

/-- A new connector to another database, from behind `CONNECTOR`. -/
def createConnector (d : Deeper) : Reader String := do
  let guard ← ifNotExists
  let name ← ident
  let type ← clause ["TYPE"] plainString
  let address ← clause ["URL"] plainString
  let remark ← inlineRemark
  let properties ← requiredClause d ["WITH", "DCPROPERTIES"] " WITH DCPROPERTIES"
  return s!"CREATE CONNECTOR {guard}{name.render}{type}{address}{remark}{properties}"

/-- A new server, from behind `SERVER`. -/
def createServer : Reader String := do
  let guard ← ifNotExists
  let name ← objectName
  let type ← clause ["TYPE"] do return (← ident).render
  let version ← clause ["VERSION"] do return (← ident).render
  expectKeywords ["FOREIGN", "DATA", "WRAPPER"]
  let wrapper ← objectName
  let options ← parenthesizedClause ["OPTIONS"] do return commaSeparated (← commaList namePair)
  let opening := s!"CREATE SERVER {guard}{name.render}{type}{version}"
  return s!"{opening} FOREIGN DATA WRAPPER {wrapper.render}{options}"

/-! ### What is created -/

/-- The words in front of what is created. -/
structure CreationWords where
  replace : String
  alter : String
  reach : String
  transient : String
  lifetime : String
  /-- The parameters of a view. -/
  parameters : String
  deriving Inhabited

/-- The words in front of what is created, each with a blank behind it. -/
def creationWords : Reader CreationWords := do
  let blank (words : String) : String := if words.isEmpty then ""
    else (words.drop 1).toString ++ " "
  let replace := blank (← optionalWords ["OR", "REPLACE"])
  let alter := blank (← optionalWords ["OR", "ALTER"])
  let isLocal := blank (← optionalWord "LOCAL")
  let isGlobal := blank (← optionalWord "GLOBAL")
  let transient := blank (← optionalWord "TRANSIENT")
  let lifetime := if (← oneOf ["TEMP", "TEMPORARY"]).isSome then "TEMPORARY " else ""
  let reach := if isGlobal.isEmpty then isLocal else isGlobal
  return ⟨replace, alter, reach, transient, lifetime, ← viewParameters⟩

/-- Whether a view comes next. -/
def peekView : Reader Bool := do
  let k ← peekKeyword
  if k == "VIEW" || k == "MATERIALIZED" then return true
  else if ← peekKeywords ["SECURE", "VIEW"] then return true
  else peekKeywords ["SECURE", "MATERIALIZED", "VIEW"]

/-- The kinds of objects whose definition `OR REPLACE` does not keep from being read. -/
def replaceableKinds : List (List String) := [
  ["TABLE"], ["POLICY"], ["EXTERNAL"], ["FUNCTION"], ["DOMAIN"], ["TRIGGER"],
  ["CONSTRAINT", "TRIGGER"], ["MACRO"], ["SECRET"], ["USER"]]

/-- The other kinds of objects. -/
def plainKinds : List (List String) := [
  ["EXTENSION"], ["INDEX"], ["UNIQUE", "INDEX"], ["VIRTUAL"], ["SCHEMA"], ["DATABASE"], ["ROLE"],
  ["SEQUENCE"], ["TYPE"], ["PROCEDURE"], ["CONNECTOR"], ["OPERATOR"], ["SERVER"]]

/-- An object of a kind that can be replaced, from behind the words for it. -/
def replaceableObject (d : Deeper) (w : CreationWords) (kind : String) (start : Progress) :
    Reader String := do
  let unknown : Reader String := do
    set start
    expected "an object type after CREATE"
  match kind with
  | "TABLE" => createTable d (w.replace ++ w.reach ++ w.lifetime ++ w.transient)
  | "POLICY" => createPolicy d
  | "EXTERNAL" => createExternalTable d w.replace
  | "FUNCTION" =>
    if ← trait Dialect.indexParameters then createFunction d (w.replace ++ w.lifetime) else unknown
  | "DOMAIN" => createDomain d
  | "TRIGGER" => createTrigger d (w.lifetime ++ w.alter ++ w.replace)
  | "CONSTRAINT TRIGGER" => createTrigger d (w.lifetime ++ w.alter ++ w.replace ++ "CONSTRAINT ")
  | "MACRO" =>
    if ← trait Dialect.extraClauses then createMacro d (w.replace ++ w.lifetime) else unknown
  | "SECRET" => createSecret (w.replace ++ w.lifetime)
  | _ => createUser w.replace

/-- An object of a kind that cannot be replaced, from behind the words for it. -/
def plainObject (d : Deeper) (w : CreationWords) (kind : String) : Reader String := do
  match kind with
  | "EXTENSION" => createExtension
  | "INDEX" => createIndex d ""
  | "UNIQUE INDEX" => createIndex d "UNIQUE "
  | "VIRTUAL" => createVirtualTable
  | "SCHEMA" => createSchema d
  | "DATABASE" => createDatabase
  | "ROLE" => createRole
  | "SEQUENCE" => createSequence d w.lifetime
  | "TYPE" => createType d
  | "PROCEDURE" => createProcedure d w.alter
  | "CONNECTOR" => createConnector d
  | "OPERATOR" => createOperator d
  | _ => createServer

/-- What is created, from behind `CREATE`. -/
def creation (d : Deeper) : Reader String := do
  let w ← creationWords
  if ← peekView then createView d (w.alter ++ w.replace ++ w.parameters) w.lifetime
  else
    let start ← get
    match ← oneOfRuns replaceableKinds with
    | some kind => replaceableObject d w kind start
    | none =>
      if w.replace.isEmpty then
        match ← oneOfRuns plainKinds with
        | some kind => plainObject d w kind
        | none => expected "an object type after CREATE"
      else
        expected "[EXTERNAL] TABLE or [MATERIALIZED] VIEW or FUNCTION after CREATE OR REPLACE"

end Reader

end QueryLint.Sql
