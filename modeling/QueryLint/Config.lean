import QueryLint.Checker.Set
import QueryLint.Sql.Dialect

/-!
# Configurations

The settings of the linter: how statements are read and how deep, which executions count, which
checkers run, and where issues are logged.
-/

namespace QueryLint

/-- How executions of statements are looked at. -/
structure LintSettings where
  dialect : Sql.Dialect
  /-- How deep a query may be nested. -/
  maxDepth : Nat
  /-- How many different statements are remembered. -/
  maxSeenStatements : Nat
  /-- How long an execution has to take before it counts. -/
  minElapsedMs : Nat
  deriving DecidableEq, Repr, Inhabited

namespace LintSettings

/-- The settings where nothing else is said. -/
def default : LintSettings := ⟨.sqlite, 256, 10000, 0⟩

end LintSettings

/-- The settings of the linter. -/
structure Config where
  lint : LintSettings
  checkers : CheckerSettings
  /-- The path of the issue log. -/
  logPath : Option String
  deriving DecidableEq, Repr, Inhabited

namespace Config

/-- The settings where nothing else is said. -/
def default : Config := ⟨.default, .default, none⟩

end Config

end QueryLint
