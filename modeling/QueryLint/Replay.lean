import QueryLint.IssueLog
import QueryLint.Registry
import QueryLint.Replay.Request

/-!
# Replaying statements

A file of statements is replayed on a database that nobody else uses, as if every statement had just
been executed. `Replay.planCheck` says for the text of a file what is reported and which batches are
published, and `Replay.check` also reads the file and writes the batches to the issue log. A log
that cannot be written changes nothing else.
-/

namespace QueryLint

/-- How a command ends: with which exit code, and what it prints. -/
structure Outcome where
  exitCode : Nat
  output : String
  deriving DecidableEq, Repr, Inhabited

namespace Replay

/-- Rejects the first name that is neither known nor stands for all checkers. -/
def requireKnown (known names : List String) : Except Error Unit :=
  match names.find? fun name =>
      name != Whitelist.allCheckers && !known.any (Text.sameLetters · name) with
  | some name => throw (.unknownChecker name known)
  | none => return ()

/-- The statements in a text, each as it is written out. -/
def statements (dialect : Sql.Dialect) (text : String) : Except Error (List String) := do
  return (← (Sql.parse dialect text).mapError Error.ofFault).map Sql.Statement.render

/-! ### Looking for issues -/

/-- The registry with a database that is just installed under a policy. -/
def prepare (engine : Engine) (time : Nat) (dbPath : String) (enable : List String)
    (whitelist : Whitelist) : Registry :=
  let installed := (Registry.new engine time).install dbPath ⟨dbPath, false⟩
  (enable.foldl (fun r checker => r.enableChecker dbPath checker) installed).setWhitelist
    dbPath whitelist

/-- The registry in which statements were executed one after the other. -/
def execute (r : Registry) (dbPath : String) (statements : List String) : Registry :=
  statements.foldl (fun r sql =>
    (r.notifyNow dbPath ⟨sql, r.engine.settings.minElapsedMs, ""⟩).2) r

/-- What a check comes to: how it ends, what it published, and what it told. -/
structure Checked where
  outcome : Outcome
  deliveries : List Delivery
  notices : List Notice

/-- What the check of a text comes to. -/
def planCheck (config : Config) (request : CheckRequest) (colored : Bool) (time : Nat)
    (text : String) :
    Except Error Checked := do
  let settings := { config.lint with dialect := request.dialect.getD config.lint.dialect }
  let found ← statements settings.dialect text
  let whitelist ← Whitelist.parse request.whitelist
  let engine := Engine.ofConfig { config with lint := settings }
  let known := engine.checkers.names
  requireKnown known request.enable
  requireKnown known whitelist.names
  let prepared := prepare engine time request.dbPath request.enable whitelist
  let replayed := (execute prepared request.dbPath found).shutdown
  let issues := replayed.deliveries.flatMap Delivery.issues
  let report : IssueReport := ⟨request.dbPath, found.length, issues⟩
  return {
    outcome := ⟨Issue.exitCode issues, report.render request.format colored⟩
    deliveries := replayed.deliveries
    notices := replayed.notices }

variable {m : Type → Type} [Monad m]

/-- The text of a file, or of the standard input for `-`. -/
def readQueries (host : Host m) (path : String) : m (Except Error String) := do
  if path == "-" then return (← host.input).mapError (.unreadable "stdin")
  else return (← host.read path).mapError (.unreadable path)

/-- Writes all batches to a log, in their order. -/
def writeLog (host : Host m) (log : Option IssueLog) (deliveries : List Delivery) :
    m (List Notice) := do
  match log with
  | none => return []
  | some log => return (← deliveries.mapM fun d => log.publish host d.dbPath d.issues).flatten

/-- Looks for issues in a file, and yields what was told besides. -/
def check (host : Host m) (config : Config) (request : CheckRequest) (colors : Bool) :
    m (Except Error (Outcome × List Notice)) := do
  match ← readQueries host request.queries with
  | .error e => return .error e
  | .ok text =>
    match planCheck config request (colors && !request.noColor) (← host.time) text with
    | .error e => return .error e
    | .ok checked =>
      let log := (request.log.orElse fun _ => config.logPath).map IssueLog.mk
      let warned ← writeLog host log checked.deliveries
      return .ok (checked.outcome, checked.notices ++ warned)

/-! ### Showing signals -/

/-- The signals of the queries in a statement. -/
def statementSignals (dialect : Sql.Dialect) (maxDepth : Nat) (sql : String) :
    Except Error SignalsReport := do
  return (← Engine.outlines dialect maxDepth sql).map fun select =>
    ⟨sql, (Analysis.ofSelect maxDepth select).signals⟩

/-- What showing the signals of a text comes to. -/
def planSignals (config : Config) (request : SignalsRequest) (colored : Bool) (text : String) :
    Except Error Outcome := do
  let dialect := request.dialect.getD config.lint.dialect
  let found ← (← statements dialect text).mapM (statementSignals dialect config.lint.maxDepth)
  return ⟨0, SignalsReport.render found.flatten request.format colored⟩

/-- Shows the signals of the queries in a file. -/
def signals (host : Host m) (config : Config) (request : SignalsRequest) (colors : Bool) :
    m (Except Error Outcome) := do
  return (← readQueries host request.queries).bind
    (planSignals config request (colors && !request.noColor))

end Replay

end QueryLint
