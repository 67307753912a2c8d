import QueryLint.Analysis.Signals
import QueryLint.Text.LowerCase

/-!
# Checkers

A checker turns the signals of one query into findings. This module holds the vocabulary: how severe
a finding is, what it says, and what a checker is. The built-in checkers are in `Checker.BuiltIn`,
and a set of checkers that run together is in `Checker.Set`.
-/

namespace QueryLint

/-! ### Severity -/

/-- How severe a finding is. -/
inductive Severity where
  | info
  | warning
  | error
  deriving DecidableEq, Repr, Inhabited

namespace Severity

/-- The configuration name of a severity. -/
def name : Severity → String
  | info => "info"
  | warning => "warning"
  | error => "error"

/-- A severity as reports show it. -/
def label : Severity → String
  | info => "INFO"
  | warning => "WARN"
  | error => "ERROR"

/-- The severity of a name, in whatever letter case. -/
def ofName? (text : String) : Option Severity :=
  match Text.toLowerCase text with
  | "error" => some error
  | "warning" => some warning
  | "warn" => some warning
  | "info" => some info
  | _ => none

end Severity

/-! ### Findings -/

/-- What a checker found in a query. -/
structure Finding where
  /-- The name of the checker. -/
  checker : String
  /-- The tables it is about. -/
  tables : List String
  desc : String
  detail : String
  advice : String
  level : Severity
  deriving DecidableEq, Repr, Inhabited

namespace Finding

/-- The tables of a finding, as reports show them. -/
def tableLabel (f : Finding) : String :=
  String.intercalate ", " f.tables

end Finding

/-! ### Checkers -/

/-- A rule that finds something in the signals of a query. -/
structure Checker where
  name : String
  severity : Severity
  /-- The findings, given the text of the statement and the signals. -/
  check : String → Signals → List Finding

namespace Checker

/-- A finding about every table of a query. -/
def statementFinding (name : String) (severity : Severity) (s : Signals)
    (desc detail advice : String) : Finding where
  checker := name
  tables := s.tables
  desc
  detail
  advice
  level := severity

/-- A checker that finds one thing wherever a signal is set. -/
def ofFlag (name : String) (severity : Severity) (flag : Signals → Bool)
    (desc detail advice : String) : Checker where
  name
  severity
  check := fun _ s =>
    if flag s then [statementFinding name severity s desc detail advice] else []

/-- A checker that reports statements which read more than so many tables. -/
def tableLimit (name : String) (severity : Severity) (most : Nat) (advice : String) : Checker where
  name
  severity
  check := fun sql s =>
    if s.tables.length > most then [statementFinding name severity s sql "" advice] else []

end Checker

end QueryLint
