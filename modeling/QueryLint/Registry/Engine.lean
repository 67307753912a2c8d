import QueryLint.Analysis
import QueryLint.Config
import QueryLint.Error
import QueryLint.Fingerprint
import QueryLint.Issue
import QueryLint.Outline.Lowering
import QueryLint.Policy
import QueryLint.Sql.Script

/-!
# Engines

What all databases share: the settings, and the checkers. An engine turns the text of a statement
into findings (`Engine.findings`). A text that cannot be read, or that is nested too deeply, has
none; a query that was not walked to its end has none either, but does not affect the other queries
of its statement.
-/

namespace QueryLint

/-- An execution of a statement. -/
structure Execution where
  sql : String
  elapsedMs : Nat
  /-- What the caller passes along. -/
  extInfo : String
  deriving DecidableEq, Repr, Inhabited

/-- What all databases share. -/
structure Engine where
  settings : LintSettings
  checkers : CheckerSet

namespace Engine

/-- The engine of a configuration. -/
def ofConfig (config : Config) : Engine where
  settings := config.lint
  checkers := .ofSettings config.checkers

/-- The outlines of the queries in a text. -/
def outlines (dialect : Sql.Dialect) (maxDepth : Nat) (sql : String) :
    Except Error (List Outline.Select) := do
  let statements ← (Sql.parse dialect sql).mapError Error.ofFault
  (Outline.ofStatements maxDepth statements).mapError fun _ => .tooDeep maxDepth

/-- The analyses of the queries in a text, none of a text that cannot be read. -/
def analyses (e : Engine) (sql : String) : List Analysis :=
  match outlines e.settings.dialect e.settings.maxDepth sql with
  | .ok selects => selects.map (Analysis.ofSelect e.settings.maxDepth)
  | .error _ => []

/-- The findings of one query under a policy. -/
def findingsOf (e : Engine) (policy : Policy) (sql : String) (a : Analysis) : List Finding :=
  if a.truncated then []
  else (e.checkers.run sql a.signals policy.isEnabled).filter fun f => !policy.suppresses f

/-- The findings of all queries in a text under a policy. -/
def findings (e : Engine) (policy : Policy) (sql : String) : List Finding :=
  (e.analyses sql).flatMap (e.findingsOf policy sql)

/-- How many queries of a text were not walked to their end. -/
def abandoned (e : Engine) (sql : String) : Nat :=
  (e.analyses sql).countP Analysis.truncated

/-- The issues of an execution on a database under a policy, numbered from zero on. -/
def issues (e : Engine) (policy : Policy) (dbPath : String) (time : Nat) (x : Execution) :
    List Issue :=
  (e.findings policy x.sql).mapIdx fun ordinal f =>
    Issue.ofFinding dbPath x.sql (Fingerprint.ofSql x.sql) ordinal.toUInt64 x.extInfo time f

end Engine

end QueryLint
