import QueryLint.Sql.Grammar.Block

/-!
# Statements about a session

Readers for statements that steer a session and its transactions, set its options, and run what is
prepared, each from behind its first keyword. They yield their canonical text.
-/

namespace QueryLint.Sql

namespace Reader

/-! ### Transactions -/

/-- The optional word for a transaction. -/
def transactionWord : Reader String :=
  optionalOneOf ["TRANSACTION", "WORK"]

/-- How much a transaction sees of others. -/
def isolationLevels : List (List String) := [
  ["READ", "UNCOMMITTED"], ["READ", "COMMITTED"], ["REPEATABLE", "READ"], ["SERIALIZABLE"],
  ["SNAPSHOT"]]

/-- What a transaction may do, and what it sees of others. -/
def transactionMode : Reader (Option String) := do
  match ← oneOfRuns [["ISOLATION", "LEVEL"], ["READ", "ONLY"], ["READ", "WRITE"]] with
  | some "ISOLATION LEVEL" =>
    match ← oneOfRuns isolationLevels with
    | some level => return some s!"ISOLATION LEVEL {level}"
    | none => expected "isolation level"
  | found => return found

/-- The modes of a transaction, between which commas may stand; the fuel bounds their number. -/
def transactionModesFrom (required : Bool) : Nat → Reader (List String)
  | 0 => return []
  | fuel + 1 => do
    match ← transactionMode with
    | some mode => return mode :: (← transactionModesFrom (← sign ",") fuel)
    | none => if required then expected "transaction mode" else return []

/-- The modes of a transaction, with a blank before them. -/
def transactionModes : Reader String := do
  let modes ← transactionModesFrom false ((← size) + 1)
  return if modes.isEmpty then "" else " " ++ commaSeparated modes

/-- Whether another transaction follows. -/
def chainClause : Reader String := do
  let _ ← transactionWord
  if ← keyword "AND" then
    let negated ← keyword "NO"
    expectKeyword "CHAIN"
    return if negated then "" else " AND CHAIN"
  else return ""

/-- The savepoint that a transaction goes back to. -/
def savepointClause : Reader String := do
  if ← keyword "TO" then
    let _ ← keyword "SAVEPOINT"
    return s!" TO SAVEPOINT {(← ident).render}"
  else return ""

/-- A statement about a transaction, told by its first word. -/
def transaction (k : String) : Reader String := do
  match k with
  | "BEGIN" =>
    let mode ←
      if ← trait Dialect.transactionModifiers then
        optionalOneOf ["DEFERRED", "IMMEDIATE", "EXCLUSIVE", "TRY", "CATCH"]
      else pure ""
    let word ← transactionWord
    return s!"BEGIN{mode}{word}{← transactionModes}"
  | "START" =>
    expectKeyword "TRANSACTION"
    return s!"START TRANSACTION{← transactionModes}"
  | "ROLLBACK" =>
    let chain ← chainClause
    return s!"ROLLBACK{chain}{← savepointClause}"
  | "SAVEPOINT" => return s!"SAVEPOINT {(← ident).render}"
  | "RELEASE" =>
    let _ ← keyword "SAVEPOINT"
    return s!"RELEASE SAVEPOINT {(← ident).render}"
  | "END" =>
    let mode ←
      if ← trait Dialect.transactionModifiers then optionalOneOf ["TRY", "CATCH"] else pure ""
    return s!"END{mode}{← chainClause}"
  | _ => return s!"COMMIT{← chainClause}"

/-- Words that open a statement about a transaction. -/
def transactionWords : List String :=
  ["BEGIN", "START", "COMMIT", "END", "ROLLBACK", "SAVEPOINT", "RELEASE"]

/-! ### Options -/

/-- A value that a pragma is set to. -/
def pragmaValue : Reader String := do
  let start ← get
  match ← value with
  | .number digits long => return (Value.number digits long).render
  | .single content => return (Value.single content).render
  | .double content => return (Value.double content).render
  | .placeholder name => return name
  | _ =>
    set start
    expected "number or string or ? placeholder"

/-- The setting of an option, from behind `PRAGMA`. -/
def pragma : Reader String := do
  let name ← objectName
  if ← peekSign "(" then return s!"PRAGMA {name.render}({← parenthesized pragmaValue})"
  else if ← sign "=" then return s!"PRAGMA {name.render} = {← pragmaValue}"
  else return s!"PRAGMA {name.render}"

/-- A value that an option is set to: a query or an expression. -/
def optionValue (d : Deeper) : Reader String := do
  if ← peekQuery then return s!"({(← d.query).render})"
  else
    match ← tolerating (expressionText d) with
    | some text => return text
    | none => expected "variable value"

/-- The words that say for what an option is set. -/
def scopeWords : List String := ["SESSION", "LOCAL", "GLOBAL"]

/-- For what an option is set, with a blank behind it. -/
def optionScope : Reader String := do
  match ← oneOf scopeWords with
  | some k => return k ++ " "
  | none => return ""

/-- The sign between an option and its value. -/
def assignmentSign : Reader Bool := do
  if ← sign "=" then return true else keyword "TO"

/-- One of several options that are set at once. -/
def optionAssignment (d : Deeper) : Reader String := do
  let scope ← optionScope
  let name ← objectName
  if ← assignmentSign then return s!"{scope}{name.render} = {← expressionText d}"
  else expected "assignment operator"

/-- An option that is set to values, from its name on. -/
def optionSetting (d : Deeper) (words : String) : Reader String := do
  let many_ ← do
    if ← trait Dialect.parenthesizedAssignments then sign "(" else pure false
  if many_ then
    let names ← commaList ident
    expectSign ")"
    if ← assignmentSign then
      let values ← parenthesized (commaList (optionValue d))
      return "SET " ++ listed "" names ++ s!" = ({commaSeparated values})"
    else expected "equals sign or TO"
  else
    let name ← objectName
    if ← assignmentSign then
      return s!"SET {words}{name.render} = {commaSeparated (← commaList (optionValue d))}"
    else expected "equals sign or TO"

/-- The role that a session takes on, from behind `ROLE`. -/
def roleName : Reader String := do
  expectKeyword "ROLE"
  if ← keyword "NONE" then return "NONE" else return (← ident).render

/-- The time zone of a session, from behind the words for it. -/
def timeZone (d : Deeper) (scope words : String) : Reader String := do
  if ← assignmentSign then
    return s!"SET {words}TIMEZONE = {commaSeparated (← commaList (optionValue d))}"
  else
    let reach := if scope == "LOCAL " then scope else ""
    return s!"SET {reach}TIME ZONE {← expressionText d}"

/-- The character set of a session, from behind `NAMES`. -/
def characterSet : Reader String := do
  if ← keyword "DEFAULT" then return "SET NAMES DEFAULT"
  else
    let charset ← ident
    return s!"SET NAMES {charset.render}" ++ (← clause ["COLLATE"] literalString)

/-- What a transaction is, from behind the words for it. -/
def transactionSetting (words : String) : Reader String := do
  if ← keyword "SNAPSHOT" then return s!"{words} SNAPSHOT {← valueText}"
  else return words ++ (← transactionModes)

/-- The user that a session runs for, from behind `AUTHORIZATION`. Whatever its scope, it holds for
the session. -/
def authorization : Reader String := do
  let user ← if ← keyword "DEFAULT" then pure "DEFAULT" else pure (← ident).render
  return s!"SET SESSION AUTHORIZATION {user}"

/-- Options that are set at once, each with its own scope, from the scope of the first one on. If
they are none, the scope of the first one is read as the name of an option. -/
def optionSettings (d : Deeper) (mark scope : String) (fromScope : Progress) : Reader String := do
  if ← trait Dialect.listedAssignments then
    set fromScope
    match ← attempt (commaList (optionAssignment d)) with
    | some [found] => return s!"SET {mark}{found}"
    | some found => return s!"SET {commaSeparated found}"
    | none => optionSetting d (scope ++ mark)
  else optionSetting d (scope ++ mark)

/-- The words that set something special. -/
def specialSettings : List (List String) :=
  [["TIME", "ZONE"], ["TIMEZONE"], ["CHARACTERISTICS"], ["TRANSACTION"], ["AUTHORIZATION"]]

/-- Something special that is set, told by its words, from behind them. -/
def specialSetting (d : Deeper) (words mark scope : String) : Reader String := do
  match words with
  | "NAMES" => characterSet
  | "CHARACTERISTICS" =>
    expectKeywords ["AS", "TRANSACTION"]
    return "SET SESSION CHARACTERISTICS AS TRANSACTION" ++ (← transactionModes)
  | "TRANSACTION" => transactionSetting "SET TRANSACTION"
  | "AUTHORIZATION" => authorization
  | _ => timeZone d scope (scope ++ mark)

/-- What is set, from behind `SET`. -/
def setting (d : Deeper) : Reader String := do
  let mark ← if ← keyword "HIVEVAR" then pure "HIVEVAR:" else pure ""
  unless mark.isEmpty do expectSign ":"
  let fromScope ← get
  let scope ← if mark.isEmpty then optionScope else pure ""
  match ← attempt roleName with
  | some name => return s!"SET {scope}ROLE {name}"
  | none =>
    let named ← keywordsWhere Dialect.namedCharacterSets ["NAMES"]
    match ← if named then pure (some "NAMES") else oneOfRuns specialSettings with
    | some words => specialSetting d words mark scope
    | none => optionSettings d mark scope fromScope

/-! ### Prepared statements -/

/-- A statement that is prepared, from behind `PREPARE`. -/
def preparation (d : Deeper) : Reader String := do
  let name ← ident
  let types ←
    if ← peekSign "(" then
      let names ← parenthesized (commaList (typeText d))
      pure s!"({commaSeparated names}) "
    else pure ""
  expectKeyword "AS"
  return s!"PREPARE {name.render} {types}AS {(← d.statement).render}"

/-- The arguments of a prepared statement. -/
def executionArguments (d : Deeper) : Reader String := do
  if ← sign "(" then
    let arguments ← commaListBefore (expression d) ")"
    expectSign ")"
    return s!"({commaSeparated (renderExprs arguments)})"
  else
    match ← peekToken with
    | none | some (.sign ";") => return ""
    | some _ =>
      if ["USING", "OUTPUT", "DEFAULT"].contains (← peekKeyword) then return ""
      else return " " ++ (← expressionsText d)

/-- A prepared statement that is run, from behind `EXECUTE`. -/
def execution (d : Deeper) : Reader String := do
  let name ← objectName
  let arguments ← executionArguments d
  let into ← clause ["INTO"] do return commaSeparated ((← commaList ident).map Ident.render)
  let using_ ← clause ["USING"] (commaSeparated <$> commaList (namedExpression d))
  let output ← optionalWord "OUTPUT"
  let default ← optionalWord "DEFAULT"
  return s!"EXECUTE {name.render}{arguments}{into}{using_}{output}{default}"

/-- A procedure that is called, from behind `CALL`. -/
def procedureCall (d : Deeper) : Reader String := do
  let name ← objectName
  if ← peekSign "(" then return s!"CALL {(← callOf d name).render}"
  else return s!"CALL {name.render}"

/-! ### Cursors -/

/-- A new cursor, from behind `DECLARE`. -/
def cursor (d : Deeper) : Reader String := do
  let name ← ident
  let binary ← optionalWord "BINARY"
  let sensitive ← optionalOneOf ["INSENSITIVE", "ASENSITIVE"]
  let scroll := ((← oneOfRuns [["SCROLL"], ["NO", "SCROLL"]]).map (" " ++ ·)).getD ""
  expectKeyword "CURSOR"
  let hold ← match ← oneOf ["WITH", "WITHOUT"] with
    | some k =>
      expectKeyword "HOLD"
      pure s!" {k} HOLD"
    | none => pure ""
  expectKeyword "FOR"
  let query ← d.query
  return s!"DECLARE {name.render}{binary}{sensitive}{scroll} CURSOR{hold} FOR {query.render}"

/-- Which rows a cursor goes to. -/
def cursorDirection : Reader String := do
  match ← oneOf ["NEXT", "PRIOR", "FIRST", "LAST", "ALL", "ABSOLUTE", "RELATIVE", "FORWARD",
      "BACKWARD"] with
  | none => numberValue
  | some k =>
    if k == "FORWARD" || k == "BACKWARD" then
      if ← keyword "ALL" then return s!"{k} ALL" else return s!"{k} {← numberValue}"
    else if k == "ABSOLUTE" || k == "RELATIVE" then return s!"{k} {← numberValue}"
    else return k

/-- Rows that are taken from a cursor, from behind `FETCH`. -/
def fetching : Reader String := do
  let direction ← cursorDirection
  match ← oneOf ["FROM", "IN"] with
  | some k =>
    let name ← ident
    let into ← clause ["INTO"] do return (← objectName).render
    return s!"FETCH {direction} {k} {name.render}{into}"
  | none => broken "Expected FROM or IN" (← place)

/-- A cursor that is closed, from behind `CLOSE`. -/
def closing : Reader String := do
  if ← keyword "ALL" then return "CLOSE ALL" else return s!"CLOSE {(← ident).render}"

end Reader

end QueryLint.Sql
