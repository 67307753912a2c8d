import QueryLint.Sql.Grammar.View
import QueryLint.Sql.Grammar.Routine

/-!
# Roles and rights

Readers for the definitions of roles, users and policies, and for the statements that give rights
and take them away.
-/

namespace QueryLint.Sql

namespace Reader

/-! ### Roles -/

/-- A property of a role, in the canonical order. -/
inductive RoleProperty where
  | superuser
  | createdb
  | createrole
  | inherits
  | login
  | replication
  | bypassrls
  | connections
  | password
  | validity
  | inRole
  | inGroup
  | role
  | user
  | admin
  deriving DecidableEq, Repr, Inhabited

namespace RoleProperty

/-- All properties in their canonical order. -/
def all : List RoleProperty := [
  superuser, createdb, createrole, inherits, login, replication, bypassrls, connections, password,
  validity, inRole, inGroup, role, user, admin]

/-- The words for a property, as a fault names it. -/
def name : RoleProperty → String
  | superuser => "SUPERUSER or NOSUPERUSER"
  | createdb => "CREATEDB or NOCREATEDB"
  | createrole => "CREATEROLE or NOCREATEROLE"
  | inherits => "INHERIT or NOINHERIT"
  | login => "LOGIN or NOLOGIN"
  | replication => "REPLICATION or NOREPLICATION"
  | bypassrls => "BYPASSRLS or NOBYPASSRLS"
  | connections => "CONNECTION LIMIT"
  | password => "PASSWORD"
  | validity => "VALID UNTIL"
  | inRole => "IN ROLE"
  | inGroup => "IN GROUP"
  | role => "ROLE"
  | user => "USER"
  | admin => "ADMIN"

end RoleProperty

/-- Properties that a role has or has not. -/
def roleFlags : List (String × RoleProperty) := [
  ("SUPERUSER", .superuser), ("CREATEDB", .createdb), ("CREATEROLE", .createrole),
  ("INHERIT", .inherits), ("LOGIN", .login), ("REPLICATION", .replication),
  ("BYPASSRLS", .bypassrls)]

/-- A property that a role has or has not, with its word. -/
def roleFlag? (k : String) : Option (RoleProperty × String) :=
  let positive := if k.startsWith "NO" then (k.drop 2).toString else k
  (roleFlags.lookup positive).map fun p => (p, " " ++ k)

/-- Names separated by commas. -/
def nameList : Reader String := do
  return commaSeparated ((← commaList ident).map Ident.render)

/-- A password, which may be none. -/
def passwordText : Reader String := do
  if ← keyword "NULL" then return " PASSWORD NULL" else return s!" PASSWORD {← valueText}"

/-- The words behind the first word of a property, which make it. -/
def rolePropertyOf (k : String) : Reader RoleProperty := do
  match k with
  | "CONNECTION" =>
    expectKeyword "LIMIT"
    return .connections
  | "VALID" =>
    expectKeyword "UNTIL"
    return .validity
  | "PASSWORD" => return .password
  | "ROLE" => return .role
  | "USER" => return .user
  | "ADMIN" => return .admin
  | "IN" =>
    if ← keyword "ROLE" then return .inRole
    else if ← keyword "GROUP" then return .inGroup
    else expected "ROLE or GROUP after IN"
  | _ => return ((roleFlag? k).map Prod.fst).getD .login

/-- The text of a property of a role, from behind its words. -/
def rolePropertyText (property : RoleProperty) (k : String) : Reader String := do
  match property with
  | .connections => return s!" CONNECTION LIMIT {← numberValue}"
  | .password => passwordText
  | .validity => return s!" VALID UNTIL {← valueText}"
  | .inRole | .inGroup | .role | .user | .admin => return s!" {property.name} {← nameList}"
  | _ => return " " ++ k

/-- The words that open a property of a role. -/
def roleWords : List String :=
  roleFlags.map Prod.fst ++ roleFlags.map (fun (k, _) => "NO" ++ k)
    ++ ["PASSWORD", "CONNECTION", "VALID", "IN", "ROLE", "ADMIN", "USER"]

/-- The properties of a role in any order, each at most once; the fuel bounds their number. -/
def roleProperties (found : List (RoleProperty × String)) :
    Nat → Reader (List (RoleProperty × String))
  | 0 => return found
  | fuel + 1 => do
    let start ← place
    match ← oneOf roleWords with
    | none => return found
    | some k =>
      let property ← rolePropertyOf k
      if (found.lookup property).isSome then
        broken s!"Found multiple {property.name}" start
      else
        let text ← rolePropertyText property k
        roleProperties ((property, text) :: found) fuel

/-- A new role, from behind `ROLE`. -/
def createRole : Reader String := do
  let guard ← ifNotExists
  let names ← commaList objectName
  let _ ← keyword "WITH"
  let found ←
    if ← trait Dialect.roleProperties then roleProperties [] ((← size) + 1) else pure []
  let properties := RoleProperty.all.map fun p => (found.lookup p).getD ""
  return s!"CREATE ROLE {guard}{commaSeparated (names.map ObjectName.render)}"
    ++ String.join properties

/-- A property that a role gets. -/
def alteredProperty : Reader (Option String) := do
  attempt do
    match ← oneOf (roleFlags.map Prod.fst ++ roleFlags.map (fun (k, _) => "NO" ++ k)
        ++ ["PASSWORD", "CONNECTION", "VALID"]) with
    | some k => rolePropertyText (← rolePropertyOf k) k
    | none => expected "option"

/-- The value that a setting of a role gets. -/
def roleSetting (d : Deeper) (database : String) : Reader String := do
  let name ← objectName
  let opening := s!"{database}SET {name.render}"
  if ← keywords ["FROM", "CURRENT"] then return s!"{opening} FROM CURRENT"
  else
    let assigned ← do
      if ← sign "=" then pure true else keyword "TO"
    if assigned then
      if ← keyword "DEFAULT" then return s!"{opening} TO DEFAULT"
      else match ← tolerating (expressionText d) with
        | some text => return s!"{opening} TO {text}"
        | none => expected "config value"
    else expected "'TO' or '=' or 'FROM CURRENT'"

/-- What becomes of a role, from behind `ROLE`. -/
def alterRole (d : Deeper) : Reader String := do
  if ← trait Dialect.roleProperties then
    let name ← ident
    let database ←
      if ← keywords ["IN", "DATABASE"] then
        pure (((← tolerating objectName).map fun n => s!"IN DATABASE {n.render} ").getD "")
      else pure ""
    let opening := s!"ALTER ROLE {name.render} "
    match ← oneOf ["RENAME", "SET", "RESET"] with
    | some "RENAME" =>
      if ← keyword "TO" then return s!"{opening}RENAME TO {(← ident).render}"
      else expected "TO after RENAME"
    | some "SET" => return opening ++ (← roleSetting d database)
    | some _ =>
      let setting ← if ← keyword "ALL" then pure "ALL" else pure (← objectName).render
      return s!"{opening}{database}RESET {setting}"
    | none =>
      let _ ← keyword "WITH"
      let found ← many alteredProperty
      if found.isEmpty then expected "option"
      else return s!"{opening}WITH{String.join found}"
  else broken "ALTER ROLE is only support for PostgreSqlDialect, MsSqlDialect" Place.none

/-! ### Users -/

/-- Options that are keys with values, between which commas say nothing, up to a word that ends them
or to a closing parenthesis; the fuel bounds their number. -/
def keyValuesFrom (inside : Bool) (ends : List String) : Nat → Reader (List String)
  | 0 => expected "another option, EOF, SemiColon, Comma or ')'"
  | fuel + 1 => do
    match ← peekToken with
    | none | some (.sign ";") => return []
    | some (.sign ")") =>
      let _ ← advance
      if inside then return [] else expected " another option or EOF"
    | some (.sign ",") =>
      let _ ← advance
      keyValuesFrom inside ends fuel
    | some (.word w) =>
      if ends.contains w.keyword then return []
      else
        let _ ← advance
        expectSign "="
        let entry ← value w.value fuel
        return entry :: (← keyValuesFrom inside ends fuel)
    | some _ =>
      let _ ← advance
      expected "another option, EOF, SemiColon, Comma or ')'"
where
  /-- The value of an option, which may be a list of values or of options. -/
  value (key : String) (fuel : Nat) : Reader String := do
    match ← peekToken with
    | some (.text .single _) | some (.number _ _) => return s!"{key}={← valueText}"
    | some (.word w) =>
      if w.keyword == "TRUE" || w.keyword == "FALSE" then return s!"{key}={← valueText}"
      else
        let _ ← advance
        return s!"{key}={w.value}"
    | some (.sign "(") =>
      match ← attempt (parenthesized (commaListBefore valueText ")")) with
      | some values => return s!"{key}=({commaSeparated values})"
      | none =>
        let _ ← advance
        return s!"{key}=(" ++ String.intercalate " " (← keyValuesFrom true [] fuel) ++ ")"
    | _ => expected "expected option value"

/-- Options that are keys with values. -/
def keyValues (inside : Bool) (ends : List String) : Reader (List String) := do
  if inside then expectSign "("
  keyValuesFrom inside ends ((← size) + 1)

/-- A new user, from behind `USER`. -/
def createUser (words : String) : Reader String := do
  let guard ← ifNotExists
  let name ← ident
  let options ← keyValues false ["WITH", "TAG"]
  let with_ ← optionalWord "WITH"
  let tags ← if ← keyword "TAG" then keyValues true [] else pure []
  let text := String.join (options.map (" " ++ ·))
  let tail := if tags.isEmpty then "" else s!"{with_} TAG ({commaSeparated tags})"
  return s!"CREATE {words}USER {guard}{name.render}{text}{tail}"

/-- The roles that a user may or may not act in for another system. -/
def delegation : Reader String := do
  let added ← clause ["ADD", "DELEGATED", "AUTHORIZATION", "OF", "ROLE"] do
    let role ← ident
    expectKeywords ["TO", "SECURITY", "INTEGRATION"]
    return s!"{role.render} TO SECURITY INTEGRATION {(← ident).render}"
  let removed ← clause ["REMOVE", "DELEGATED"] do
    let roles ←
      if ← keywords ["AUTHORIZATION", "OF", "ROLE"] then
        pure s!"AUTHORIZATION OF ROLE {(← ident).render}"
      else if ← keyword "AUTHORIZATIONS" then pure "AUTHORIZATIONS"
      else expected "REMOVE DELEGATED AUTHORIZATION OF ROLE | REMOVE DELEGATED AUTHORIZATIONS"
    expectKeywords ["FROM", "SECURITY", "INTEGRATION"]
    return s!"{roles} FROM SECURITY INTEGRATION {(← ident).render}"
  return added ++ removed

/-- A means by which a user proves who it is besides its password. -/
def proofMethod : Reader String :=
  expectAmong ["PASSKEY", "TOTP", "DUO"] "PASSKEY, TOTP or DUO"

/-- The means by which a user proves who it is besides its password. -/
def proofMethods : Reader String := do
  let enrolled ← optionalWords ["ENROLL", "MFA"]
  let default ← clause ["SET", "DEFAULT_MFA_METHOD"] proofMethod
  let removed ← clause ["REMOVE", "MFA", "METHOD"] proofMethod
  let changed ← clause ["MODIFY", "MFA", "METHOD"] do
    let method ← proofMethod
    expectKeywords ["SET", "COMMENT"]
    return s!"{method} SET COMMENT {← quotedString}"
  let added ←
    if ← keywords ["ADD", "MFA", "METHOD", "OTP"] then
      let count ←
        if ← keyword "COUNT" then
          expectSign "="
          pure s!" COUNT = {← valueText}"
        else pure ""
      pure s!" ADD MFA METHOD OTP{count}"
    else pure ""
  return enrolled ++ default ++ removed ++ changed ++ added

/-- The policies that hold for a user, and one that does not hold any longer. -/
def userPolicies : Reader String := do
  let kinds (k : String) : List (List String) :=
    ["AUTHENTICATION", "PASSWORD", "SESSION"].map fun kind => [k, kind, "POLICY"]
  let set_ ← match ← oneOfRuns (kinds "SET") with
    | some words => pure s!" {words} {(← ident).render}"
    | none => pure ""
  return set_ ++ ((← oneOfRuns (kinds "UNSET")).map (" " ++ ·)).getD ""

/-- Options that a user gets or loses; those that it gets go on to the end. -/
def userOptions : Reader String := do
  let clauseOf (words : String) (items : List String) : String :=
    if items.isEmpty then "" else s!" {words} {commaSeparated items}"
  let tags ← if ← keywords ["SET", "TAG"] then keyValues false [] else pure []
  let untags ← clause ["UNSET", "TAG"] nameList
  let properties ← if ← keyword "SET" then keyValues false [] else pure []
  let unset ← clause ["UNSET"] nameList
  return clauseOf "SET TAG" tags ++ untags ++ clauseOf "SET" properties ++ unset

/-- What becomes of a user, from behind `USER`. -/
def alterUser : Reader String := do
  let guard ← ifExists
  let name ← ident
  let renamed ← clause ["RENAME", "TO"] do return (← ident).render
  let reset ← optionalWords ["RESET", "PASSWORD"]
  let abort ← optionalWords ["ABORT", "ALL", "QUERIES"]
  let delegated ← delegation
  let methods ← proofMethods
  let policies ← userPolicies
  let changes := renamed ++ reset ++ abort ++ delegated ++ methods ++ policies
  return s!"ALTER USER {guard}{name.render}{changes}" ++ (← userOptions)

/-! ### Policies -/

/-- For whom a policy is, and which rows it lets through. -/
def policyRules (d : Deeper) : Reader String := do
  let roles ← clause ["TO"] do return commaSeparated (← commaList owner)
  let using_ ← parenthesizedClause ["USING"] (expressionText d)
  let check ← parenthesizedClause ["WITH", "CHECK"] (expressionText d)
  return roles ++ using_ ++ check

/-- A new policy, from behind `POLICY`. -/
def createPolicy (d : Deeper) : Reader String := do
  let name ← ident
  expectKeyword "ON"
  let table ← objectName
  let kind ← clause ["AS"] (expectOneOf ["PERMISSIVE", "RESTRICTIVE"])
  let command ← clause ["FOR"] (expectOneOf ["ALL", "SELECT", "INSERT", "UPDATE", "DELETE"])
  let rules ← policyRules d
  return s!"CREATE POLICY {name.render} ON {table.render}{kind}{command}{rules}"

/-- What becomes of a policy, from behind `POLICY`. -/
def alterPolicy (d : Deeper) : Reader String := do
  let name ← ident
  expectKeyword "ON"
  let table ← objectName
  let change ←
    if ← keyword "RENAME" then
      expectKeyword "TO"
      pure s!" RENAME TO {(← ident).render}"
    else policyRules d
  return s!"ALTER POLICY {name.render} ON {table.render}{change}"

/-! ### Rights -/

/-- Rights that are no more than their words, as runs of keywords. -/
def plainRights : List (List String) := [
  ["IMPORTED", "PRIVILEGES"], ["ADD", "SEARCH", "OPTIMIZATION"], ["ATTACH", "LISTING"],
  ["ATTACH", "POLICY"], ["BIND", "SERVICE", "ENDPOINT"], ["EVOLVE", "SCHEMA"],
  ["IMPORT", "SHARE"], ["MANAGE", "VERSIONS"], ["MANAGE", "RELEASES"],
  ["OVERRIDE", "SHARE", "RESTRICTIONS"], ["PURCHASE", "DATA", "EXCHANGE", "LISTING"],
  ["READ", "SESSION"], ["RESOLVE", "ALL"], ["APPLYBUDGET"], ["AUDIT"], ["CONNECT"], ["DELETE"],
  ["FAILOVER"], ["OPERATE"], ["OWNERSHIP"], ["READ"], ["REPLICATE"], ["TEMPORARY"], ["TRIGGER"],
  ["TRUNCATE"], ["USAGE"], ["DROP"]]

/-- Rights that may be limited to a kind of object or of action, with these kinds. -/
def limitedRights : List (String × List (List String)) := [
  ("CREATE", [
    ["APPLICATION", "PACKAGE"], ["COMPUTE", "POOL"], ["DATA", "EXCHANGE", "LISTING"],
    ["EXTERNAL", "VOLUME"], ["FAILOVER", "GROUP"], ["NETWORK", "POLICY"],
    ["ORGANIZATION", "LISTING"], ["REPLICATION", "GROUP"], ["ACCOUNT"], ["APPLICATION"],
    ["DATABASE"], ["INTEGRATION"], ["ROLE"], ["SCHEMA"], ["SHARE"], ["USER"], ["WAREHOUSE"]]),
  ("EXEC", [
    ["DATA", "METRIC", "FUNCTION"], ["MANAGED", "ALERT"], ["MANAGED", "TASK"], ["ALERT"],
    ["TASK"]]),
  ("EXECUTE", [
    ["DATA", "METRIC", "FUNCTION"], ["MANAGED", "ALERT"], ["MANAGED", "TASK"], ["ALERT"],
    ["TASK"]]),
  ("MODIFY", [
    ["LOG", "LEVEL"], ["TRACE", "LEVEL"], ["SESSION", "LOG", "LEVEL"],
    ["SESSION", "TRACE", "LEVEL"]]),
  ("MONITOR", [["EXECUTION"], ["SECURITY"], ["USAGE"]])]

/-- Rights that must name what they are for, with the kinds of those things. -/
def directedRights : List (String × List (List String)) := [
  ("APPLY", [
    ["AGGREGATION", "POLICY"], ["AUTHENTICATION", "POLICY"], ["JOIN", "POLICY"],
    ["MASKING", "POLICY"], ["PACKAGES", "POLICY"], ["PASSWORD", "POLICY"],
    ["PROJECTION", "POLICY"], ["ROW", "ACCESS", "POLICY"], ["SESSION", "POLICY"], ["TAG"]]),
  ("MANAGE", [
    ["ACCOUNT", "SUPPORT", "CASES"], ["EVENT", "SHARING"], ["GRANTS"],
    ["LISTING", "AUTO", "FULFILLMENT"], ["ORGANIZATION", "SUPPORT", "CASES"],
    ["USER", "SUPPORT", "CASES"], ["WAREHOUSES"]])]

/-- A right that one keyword opens, on all of an object or on some columns, from behind the
keyword. -/
def rightOf (k : String) : Reader String := do
  match limitedRights.lookup k, directedRights.lookup k with
  | some kinds, _ => return k ++ ((← oneOfRuns kinds).map (" " ++ ·)).getD ""
  | none, some kinds =>
    match ← oneOfRuns kinds with
    | some words => return s!"{k} {words}"
    | none => expected s!"GRANT {k} type"
  | none, none =>
    if k == "ROLE" then return s!"ROLE {(← objectName).render}"
    else return k ++ listed " " (← optionalListOf ident false)

/-- A right, on all of an object or on some columns. -/
def right_ : Reader String := do
  if ← keywords ["DATABASE", "ROLE"] then return s!"DATABASE ROLE {(← objectName).render}"
  else
    match ← oneOfRuns plainRights with
    | some words => return words
    | none =>
      let opening := limitedRights.map Prod.fst ++ directedRights.map Prod.fst
        ++ ["ROLE", "INSERT", "REFERENCES", "SELECT", "UPDATE"]
      rightOf (← expectAmong opening "a privilege keyword")

/-- The rights that are given or taken away. -/
def rights : Reader String := do
  if ← keyword "ALL" then return "ALL" ++ (← optionalWord "PRIVILEGES")
  else return commaSeparated (← commaList right_)

/-- The parts of a name of objects, each of which may be a star. -/
def objectPatternFrom : Nat → Reader (List String)
  | 0 => expected "identifier"
  | fuel + 1 => do
    let part ← if ← sign "*" then pure "*" else pure (← ident).render
    if ← sign "." then return part :: (← objectPatternFrom fuel) else return [part]

/-- A name of objects, the parts of which may be stars. -/
def objectPattern : Reader String := do
  return String.intercalate "." (← objectPatternFrom ((← size) + 1))

/-- The kinds of objects of which all that are or will be in one place are meant. -/
def wholeKinds : List (List String) := [
  ["ALL", "TABLES", "IN", "SCHEMA"], ["ALL", "EXTERNAL", "TABLES", "IN", "SCHEMA"],
  ["ALL", "VIEWS", "IN", "SCHEMA"], ["ALL", "MATERIALIZED", "VIEWS", "IN", "SCHEMA"],
  ["ALL", "FUNCTIONS", "IN", "SCHEMA"], ["FUTURE", "SCHEMAS", "IN", "DATABASE"],
  ["FUTURE", "TABLES", "IN", "SCHEMA"], ["FUTURE", "EXTERNAL", "TABLES", "IN", "SCHEMA"],
  ["FUTURE", "VIEWS", "IN", "SCHEMA"], ["FUTURE", "MATERIALIZED", "VIEWS", "IN", "SCHEMA"],
  ["ALL", "SEQUENCES", "IN", "SCHEMA"], ["FUTURE", "SEQUENCES", "IN", "SCHEMA"],
  ["RESOURCE", "MONITOR"], ["COMPUTE", "POOL"], ["FAILOVER", "GROUP"], ["REPLICATION", "GROUP"],
  ["EXTERNAL", "VOLUME"]]

/-- The objects that rights are on, from behind `ON`. Tables are not named as such. -/
def rightObjects (d : Deeper) : Reader String := do
  match ← oneOfRuns wholeKinds with
  | some words =>
    let names ← commaList objectName
    return s!"{words} {commaSeparated (names.map ObjectName.render)}"
  | none =>
    let kind ← oneOf ["SEQUENCE", "DATABASE", "SCHEMA", "TABLE", "VIEW", "WAREHOUSE", "INTEGRATION",
      "USER", "CONNECTION", "PROCEDURE", "FUNCTION"]
    let names ← commaList objectPattern
    match kind with
    | none | some "TABLE" => return commaSeparated names
    | some k =>
      if k == "PROCEDURE" || k == "FUNCTION" then
        let types ←
          if ← peekSign "(" then parenthesized (commaListBefore (typeText d) ")") else pure []
        return s!"{k} " ++ names.head?.getD "" ++ s!"({commaSeparated types})"
      else return s!"{k} {commaSeparated names}"

/-- The kinds of those that rights are given to. -/
def granteeKinds : List (List String) := [
  ["ROLE"], ["USER"], ["SHARE"], ["GROUP"], ["PUBLIC"], ["DATABASE", "ROLE"],
  ["APPLICATION", "ROLE"], ["APPLICATION"]]

/-- Those that rights are given to. A kind holds for all that follow, until there is another one. A
name may stand in front of the name itself, but not of a user with a host; the fuel bounds their
number. -/
def granteesFrom (kind : String) : Nat → Reader (List String)
  | 0 => expected "identifier"
  | fuel + 1 => do
    let kind := ((← oneOfRuns granteeKinds).map (· ++ " ")).getD kind
    let name ←
      if kind == "PUBLIC " then pure ""
      else
        let (name, hosted) ← hostedName
        if ← sign ":" then
          let inner ← ident
          pure (if hosted then name else s!"{name}:{inner.render}")
        else pure name
    if ← sign "," then return (kind ++ name) :: (← granteesFrom kind fuel)
    else return [kind ++ name]

/-- Those that rights are given to. -/
def grantees : Reader String := do
  return commaSeparated (← granteesFrom "" ((← size) + 1))

/-- The rights and what they are on. -/
def rightsOn (d : Deeper) : Reader (String × String) := do
  let what ← rights
  return (what, ← clause ["ON"] (rightObjects d))

/-- Rights that are given, from behind `GRANT`. -/
def grant (d : Deeper) : Reader String := do
  let (what, objects) ← rightsOn d
  expectKeyword "TO"
  let whom ← grantees
  let option ← optionalWords ["WITH", "GRANT", "OPTION"]
  let current := ((← oneOfRuns [["COPY", "CURRENT", "GRANTS"], ["REVOKE", "CURRENT", "GRANTS"]]).map
    (" " ++ ·)).getD ""
  let as ← clause ["AS"] do return (← ident).render
  let by_ ← clause ["GRANTED", "BY"] do return (← ident).render
  return s!"GRANT {what}{objects} TO {whom}{option}{current}{as}{by_}"

/-- Rights that are taken away, from behind `REVOKE`. -/
def revocation (d : Deeper) : Reader String := do
  let (what, objects) ← rightsOn d
  expectKeyword "FROM"
  let whom ← grantees
  let by_ ← clause ["GRANTED", "BY"] do return (← ident).render
  return s!"REVOKE {what}{objects} FROM {whom}{by_}{← dropBehaviour}"

/-- Rights that are denied, from behind `DENY`. -/
def denial (d : Deeper) : Reader String := do
  let (what, objects) ← rightsOn d
  if objects.isEmpty then broken "DENY statements must specify an object" (← place)
  else
    expectKeyword "TO"
    let whom ← grantees
    let cascade ← dropBehaviour
    let as ← clause ["AS"] do return (← ident).render
    return s!"DENY {what}{objects} TO {whom}{cascade}{as}"

end Reader

end QueryLint.Sql
