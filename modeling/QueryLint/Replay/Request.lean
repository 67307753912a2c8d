import QueryLint.Report
import QueryLint.Sql.Dialect

/-!
# Requests

What can be asked about a file of statements: to look for issues in it, or to show the signals of
its queries.
-/

namespace QueryLint

/-- A request to look for issues. -/
structure CheckRequest where
  /-- The path of the statements, or `-` for the standard input. -/
  queries : String
  /-- The database that the statements count for. -/
  dbPath : String
  /-- The dialect, if not the configured one. -/
  dialect : Option Sql.Dialect
  format : Format
  /-- The checkers to enable. -/
  enable : List String
  /-- The entries of the whitelist. -/
  whitelist : List String
  /-- The path of the issue log, if not the configured one. -/
  log : Option String
  /-- Whether the report has no colours. -/
  noColor : Bool
  deriving DecidableEq, Repr, Inhabited

/-- A request to show signals. -/
structure SignalsRequest where
  queries : String
  dialect : Option Sql.Dialect
  format : Format
  noColor : Bool
  deriving DecidableEq, Repr, Inhabited

end QueryLint
