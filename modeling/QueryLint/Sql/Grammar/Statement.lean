import QueryLint.Sql.Grammar.Copy
import QueryLint.Sql.Grammar.Session
import QueryLint.Sql.Grammar.Showing
import QueryLint.Sql.Grammar.Upkeep

/-!
# Statements

A reader for one statement of any kind. Queries keep their tree; every other statement is kept as
its canonical text.
-/

namespace QueryLint.Sql

namespace Reader

/-! ### Explanations -/

/-- Words that open a statement about another one. -/
def explainWords : List String := ["EXPLAIN", "DESCRIBE", "DESC"]

/-- An option of an explanation, with its value if it has one. -/
def explanationOption (d : Deeper) : Reader String := do
  let name ← ident
  if (← peekSign ",") || (← peekSign ")") then return name.render
  else return s!"{name.render} {← expressionText d}"

/-- The format of an explanation. -/
def explanationFormat : Reader String := do
  if ← keyword "FORMAT" then
    let mark := if ← sign "=" then "=" else " "
    let formats := ["TEXT", "GRAPHVIZ", "JSON", "TREE"]
    return s!"FORMAT{mark}" ++ (← expectAmong formats "fileformat") ++ " "
  else return ""

/-- How something is explained, with a blank behind it. -/
def explanationWords (d : Deeper) (word : String) : Reader String := do
  let listed := word == "EXPLAIN" && (← peekSign "(")
  if listed && (← trait Dialect.explanationOptions) then
    return s!"({commaSeparated (← parenthesized (commaList (explanationOption d)))}) "
  else if ← keywords ["QUERY", "PLAN"] then return "QUERY PLAN "
  else if ← keyword "ESTIMATE" then return "ESTIMATE "
  else
    let analyze ← if ← keyword "ANALYZE" then pure "ANALYZE " else pure ""
    let verbose ← if ← keyword "VERBOSE" then pure "VERBOSE " else pure ""
    return analyze ++ verbose ++ (← explanationFormat)

/-- A statement or a table that is explained, from behind the word for it. -/
def explanation (d : Deeper) (word : String) : Reader String := do
  let words ← explanationWords d word
  let nested := explainWords.contains (← peekKeyword)
  match ← attempt d.statement with
  | some statement =>
    if nested then broken "Explain must be root of the plan" Place.none
    else return s!"{word} {words}{statement.render}"
  | none =>
    let form := ((← oneOf ["EXTENDED", "FORMATTED"]).map (· ++ " ")).getD ""
    return s!"{word} {form}{(← objectName).render}"

/-! ### Statements by their first word -/

/-- The table of some statements: the word that opens them, and their reader from behind the
word. -/
abbrev StatementTable := List (String × (Deeper → Reader String))

/-- Statements that change rows or define objects. -/
def dataStatements : StatementTable := [
  ("INSERT", fun d => insertion d "INSERT"), ("UPDATE", update), ("DELETE", deletion),
  ("MERGE", merge), ("CREATE", creation), ("ALTER", alteration), ("DROP", removal),
  ("GRANT", grant), ("REVOKE", revocation), ("DENY", denial), ("COPY", copying),
  ("UNLOAD", unloading), ("EXPORT", exporting), ("CACHE", caching), ("UNCACHE", fun _ => uncaching),
  ("TRUNCATE", truncation), ("ANALYZE", tableAnalysis), ("VACUUM", fun _ => vacuum),
  ("MSCK", fun _ => partitionRepair), ("RENAME", fun _ => tableNames), ("ATTACH", attachment),
  ("FLUSH", fun _ => flushing), ("KILL", fun _ => killing)]

/-- Statements that steer the session. -/
def sessionStatements : StatementTable := [
  ("PRAGMA", fun _ => pragma), ("SET", setting), ("SHOW", showing),
  ("USE", fun _ => do return s!"USE {(← objectName).render}"), ("CALL", procedureCall),
  ("PREPARE", preparation), ("EXECUTE", execution), ("EXEC", execution),
  ("DEALLOCATE", fun _ => do
    let word ← optionalWord "PREPARE"
    return s!"DEALLOCATE{word} {(← ident).render}"),
  ("DECLARE", cursor), ("FETCH", fun _ => fetching), ("CLOSE", fun _ => closing),
  ("OPEN", fun _ => do return s!"OPEN {(← ident).render}"),
  ("DISCARD", fun _ => do
    let kinds := ["ALL", "PLANS", "SEQUENCES", "TEMP", "TEMPORARY"]
    let k ← expectAmong kinds "ALL, PLANS, SEQUENCES, TEMP or TEMPORARY after DISCARD"
    return if k == "TEMPORARY" then "DISCARD TEMP" else s!"DISCARD {k}"),
  ("RESET", fun _ => do
    if ← keyword "ALL" then return "RESET ALL" else return s!"RESET {(← objectName).render}"),
  ("ASSERT", assertion), ("RAISE", raiseStatement), ("RAISERROR", raisedFault),
  ("PRINT", fun d => do return s!"PRINT {← expressionText d}"),
  ("RETURN", fun d => do
    return "RETURN" ++ ((← attempt (expressionText d)).map (" " ++ ·)).getD "")]

/-- Statements that only some dialects have, with the trait of those. -/
def dialectStatements : List (String × (Dialect → Bool) × (Deeper → Reader String)) := [
  ("COMMENT", Dialect.remarkStatements, fun _ => remark),
  ("DETACH", Dialect.extensionStatements, fun _ => detachment),
  ("OPTIMIZE", Dialect.extensionStatements, optimization),
  ("INSTALL", Dialect.extensionStatements, fun _ => do return s!"INSTALL {(← ident).render}"),
  ("LISTEN", Dialect.channels, fun _ => do return s!"LISTEN {(← ident).render}"),
  ("UNLISTEN", Dialect.channels, fun _ => unlistening),
  ("NOTIFY", Dialect.channels, fun _ => notification)]

/-- A statement whose meaning depends on the dialect, from behind its first word. -/
def dialectStatement (d : Deeper) (k : String) : Reader (Option String) := do
  match k with
  | "REPLACE" =>
    if ← trait Dialect.replaceStatement then some <$> insertion d "REPLACE"
    else broken "Unsupported statement REPLACE" (← place)
  | "LOAD" =>
    if ← trait Dialect.loadedExtensions then return some s!"LOAD {(← ident).render}"
    else
      let _ ← keyword "DATA"
      expected "\x60DATA\x60 or an extension name after \x60LOAD\x60"
  | "LOCK" =>
    if ← keywordsWhere Dialect.tableLocks ["TABLES"] then
      return some s!"LOCK TABLES {commaSeparated (← commaList lockedTable)}"
    else return none
  | "UNLOCK" =>
    if ← keywordsWhere Dialect.tableLocks ["TABLES"] then return some "UNLOCK TABLES"
    else return none
  | _ =>
    match dialectStatements.lookup k with
    | some (known, read) => if ← trait known then some <$> read d else return none
    | none => return none

/-- A statement with the word that opens it as it was written, from behind that word. -/
def controlStatement (d : Deeper) (k word : String) : Reader (Option String) := do
  match k with
  | "CASE" => some <$> caseStatement d
  | "IF" => some <$> ifStatement d word
  | "WHILE" => some <$> whileStatement d word
  | _ => return none

/-- A statement other than a query, told by its first word, from behind that word. -/
def otherStatement (d : Deeper) (k word : String) : Reader (Option String) := do
  match dataStatements.lookup k, sessionStatements.lookup k with
  | some read, _ => some <$> read d
  | none, some read => some <$> read d
  | none, none =>
    if explainWords.contains k then some <$> explanation d k
    else if transactionWords.contains k then some <$> transaction k
    else
      match ← controlStatement d k word with
      | some text => return some text
      | none => dialectStatement d k

/-! ### Statements -/

/-- Words that open a query. -/
def queryWords : List String := ["SELECT", "WITH", "VALUES", "FROM"]

/-- A statement. -/
def statement (d : Deeper) : Reader Statement := do
  let start ← get
  let k ← peekKeyword
  let word ← peekText
  if queryWords.contains k || (← peekSign "(") then return .query (← d.query)
  else if k == "REPLACE" && (← trait Dialect.replaceIsInsert) then
    return .verbatim (← insertion d "INSERT")
  else
    let _ ← advance
    match ← otherStatement d k word with
    | some text => return .verbatim text
    | none =>
      set start
      expected "an SQL statement"

end Reader

end QueryLint.Sql
