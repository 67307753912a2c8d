import QueryLint.Sql.Grammar.Column

/-!
# Definitions of views

A reader for `CREATE VIEW`, with the parameters in front of the view and the options around its
query.
-/

namespace QueryLint.Sql

namespace Reader

/-- A name that rights are given to, and whether it is that of a user with a host, where the dialect
has such. -/
def hostedName : Reader (String × Bool) := do
  let name ← objectName
  match name.parts with
  | [user] =>
    let host ← do
      if ← trait Dialect.userHosts then sign "@" else pure false
    if host then return (s!"{user.render}@{(← ident).render}", true)
    else return (name.render, false)
  | _ => return (name.render, false)

/-- A name that rights are given to. -/
def granteeName : Reader String :=
  Prod.fst <$> hostedName

/-- How a view is made, who made it, and whose rights it has. -/
def viewParameters : Reader String := do
  let algorithm ←
    if ← keyword "ALGORITHM" then
      expectSign "="
      pure ("ALGORITHM = " ++ (← expectOneOf ["UNDEFINED", "MERGE", "TEMPTABLE"]) ++ " ")
    else pure ""
  let definer ←
    if ← keyword "DEFINER" then
      expectSign "="
      pure s!"DEFINER = {← granteeName} "
    else pure ""
  let security ←
    if ← keywords ["SQL", "SECURITY"] then
      pure ("SQL SECURITY " ++ (← expectOneOf ["DEFINER", "INVOKER"]) ++ " ")
    else pure ""
  return algorithm ++ definer ++ security

/-- A column of a view with its options. -/
def viewColumn (d : Deeper) : Reader String := do
  let name ← ident
  let options ← many (plainColumnOption d)
  if options.isEmpty then return name.render
  else return s!"{name.render} {commaSeparated options}"

/-- The columns of a view, if they are listed. -/
def viewColumns (d : Deeper) : Reader String := do
  let columns ← optionalListOf (viewColumn d) true
  return if columns.isEmpty then "" else s!" ({commaSeparated columns})"

/-- What stands between the columns of a view and its query; the first text is for the place behind
the name of the view. -/
def viewOptions (d : Deeper) : Reader (String × String) := do
  let with_ ← keyedClause d ["WITH"] " WITH "
  let cluster ←
    if ← keyword "CLUSTER" then
      expectKeyword "BY"
      pure (listed " CLUSTER BY " (← optionalListOf ident false))
    else pure ""
  if ← trait Dialect.extraClauses then
    let late ← keyedClause d ["OPTIONS"] " OPTIONS"
    let target ← clause ["TO"] do return (← objectName).render
    let remark ←
      if ← keyword "COMMENT" then
        expectSign "="
        pure s!" COMMENT = {← remarkText}"
      else pure ""
    let early := if late.isEmpty then with_ else ""
    return (target, early ++ remark ++ cluster ++ late)
  else return ("", with_ ++ cluster)

/-- A new view, given the words in front of it and the word for its lifetime. The guard may stand
before or behind the name. -/
def createView (d : Deeper) (words lifetime : String) : Reader String := do
  let secure ← if ← keyword "SECURE" then pure "SECURE " else pure ""
  let materialized ← if ← keyword "MATERIALIZED" then pure "MATERIALIZED " else pure ""
  expectKeyword "VIEW"
  let guard ← ifNotExists
  let name ← objectName
  let late ← if guard.isEmpty then optionalWords ["IF", "NOT", "EXISTS"] else pure ""
  let columns ← viewColumns d
  let (target, options) ← viewOptions d
  expectKeyword "AS"
  let query ← d.query
  let unbound ←
    if ← keywordsWhere Dialect.extraClauses ["WITH", "NO", "SCHEMA", "BINDING"] then
      pure " WITH NO SCHEMA BINDING"
    else pure ""
  let kind := s!"{secure}{materialized}{lifetime}VIEW"
  let opening := s!"CREATE {words}{kind} {guard}{name.render}{late}{target}{columns}{options}"
  return s!"{opening} AS {query.render}{unbound}"

end Reader

end QueryLint.Sql
