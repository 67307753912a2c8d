import QueryLint.Sql.Grammar.Definition

/-!
# Removals

A reader for `DROP`. Objects of most kinds are dropped in one way; some kinds have rules of their
own.
-/

namespace QueryLint.Sql

namespace Reader

/-- The kinds of objects that are dropped in one way. -/
def commonKinds : List (List String) := [
  ["TABLE"], ["VIEW"], ["MATERIALIZED", "VIEW"], ["INDEX"], ["ROLE"], ["SCHEMA"], ["DATABASE"],
  ["SEQUENCE"], ["STAGE"], ["TYPE"], ["USER"], ["STREAM"]]

/-- The kinds of objects with rules of their own. -/
def specialKinds : List String := [
  "FUNCTION", "POLICY", "CONNECTOR", "DOMAIN", "PROCEDURE", "SECRET", "TRIGGER", "EXTENSION",
  "OPERATOR"]

/-- The kinds of objects that can be dropped, as a fault names them. -/
def removableKinds : String :=
  "CONNECTOR, DATABASE, EXTENSION, FUNCTION, INDEX, OPERATOR, POLICY, PROCEDURE, ROLE, SCHEMA, "
    ++ "SECRET, SEQUENCE, STAGE, TABLE, TRIGGER, TYPE, VIEW, MATERIALIZED VIEW or USER after DROP"

/-- Objects that are dropped in the common way, from behind the word for their kind. -/
def commonRemoval (temporary kind : String) : Reader String := do
  let guard ← ifExists
  let names ← commaList objectName
  let behind ← place
  let cascade ← optionalWord "CASCADE"
  let restrict ← optionalWord "RESTRICT"
  let purge ← optionalWord "PURGE"
  let rules := cascade ++ restrict ++ purge
  if !cascade.isEmpty && !restrict.isEmpty then
    broken "Cannot specify both CASCADE and RESTRICT in DROP" behind
  else if kind == "ROLE" && !rules.isEmpty then
    broken "Cannot specify CASCADE, RESTRICT, or PURGE in DROP ROLE" behind
  else
    let table ← clause ["ON"] do return (← objectName).render
    let list := commaSeparated (names.map ObjectName.render)
    return s!"DROP {temporary}{kind} {guard}{list}{rules}{table}"

/-- A side of an operator, which may be missing. -/
def operandType (d : Deeper) : Reader String := do
  if ← keyword "NONE" then return "NONE" else typeText d

/-- An operator with the types of its sides. -/
def operatorSignature (d : Deeper) : Reader String := do
  let name ← operatorName
  let types ← parenthesized do
    let left ← operandType d
    expectSign ","
    return s!"{left}, {← typeText d}"
  return s!"{name} ({types})"

/-- Operators, families or classes that are dropped, from behind `OPERATOR`. -/
def operatorRemoval (d : Deeper) : Reader String := do
  match ← oneOf ["FAMILY", "CLASS"] with
  | some k =>
    let guard ← ifExists
    let names ← commaList objectName
    expectKeyword "USING"
    let method ← ident
    let list := commaSeparated (names.map ObjectName.render)
    return s!"DROP OPERATOR {k} {guard}{list} USING {method.render}{← dropBehaviour}"
  | none =>
    let guard ← ifExists
    let operators ← commaList (operatorSignature d)
    return s!"DROP OPERATOR {guard}{commaSeparated operators}{← dropBehaviour}"

/-- Objects of a kind with rules of its own, from behind the word for it. -/
def specialRemoval (d : Deeper) (temporary kind : String) : Reader String := do
  if kind == "OPERATOR" then operatorRemoval d
  else
    let guard ← ifExists
    match kind with
    | "FUNCTION" | "PROCEDURE" =>
      let found ← commaList (functionSignature d)
      return s!"DROP {kind} {guard}{commaSeparated found}{← dropBehaviour}"
    | "POLICY" =>
      let name ← ident
      expectKeyword "ON"
      let table ← objectName
      return s!"DROP POLICY {guard}{name.render} ON {table.render}{← dropBehaviour}"
    | "CONNECTOR" => return s!"DROP CONNECTOR {guard}{(← ident).render}"
    | "SECRET" =>
      let name ← ident
      let storage ←
        if ← keyword "FROM" then
          pure (((← tolerating ident).map fun name => " FROM " ++ name.render).getD "")
        else pure ""
      return s!"DROP {temporary}SECRET {guard}{name.render}{storage}"
    | "TRIGGER" =>
      let name ← objectName
      let table ← clause ["ON"] do return (← objectName).render
      return s!"DROP TRIGGER {guard}{name.render}{table}{← dropBehaviour}"
    | "EXTENSION" =>
      let names ← nameList
      return s!"DROP EXTENSION {guard}{names}{← dropBehaviour}"
    | _ =>
      let name ← objectName
      return s!"DROP DOMAIN {guard}{name.render}{← dropBehaviour}"

/-- What is dropped, from behind `DROP`. -/
def removal (d : Deeper) : Reader String := do
  let temporary :=
    if ← keywordsWhere Dialect.replaceStatement ["TEMPORARY"] then "TEMPORARY " else ""
  match ← oneOfRuns commonKinds with
  | some kind => commonRemoval temporary kind
  | none =>
    match ← oneOf specialKinds with
    | some kind => specialRemoval d temporary kind
    | none => expected removableKinds

end Reader

end QueryLint.Sql
