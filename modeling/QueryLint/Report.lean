import QueryLint.Analysis.Signals
import QueryLint.Document.Json
import QueryLint.Document.Yaml
import QueryLint.Issue.Document
import QueryLint.Report.Ink

/-!
# Reports

What the linter prints: the issues of a database (`IssueReport`), or the signals of each query
(`SignalsReport`). A report is a text for people, or a document in JSON or YAML.
-/

namespace QueryLint

/-- The form of a report. -/
inductive Format where
  | text
  | json
  | yaml
  deriving DecidableEq, Repr, Inhabited

namespace Format

/-- The form of a name. -/
def ofName? : String → Option Format
  | "text" => some text
  | "json" => some json
  | "yaml" => some yaml
  | _ => none

end Format

/-- A document in JSON or YAML, or else a text. -/
def Format.render (format : Format) (text : String) (document : Document) : String :=
  match format with
  | .text => text
  | .json => document.pretty
  | .yaml => document.yaml

/-! ### Issues -/

/-- The issues of a database after so many statements. -/
structure IssueReport where
  dbPath : String
  statements : Nat
  issues : List Issue

namespace IssueReport

/-- The document of a report. -/
def toDocument (r : IssueReport) : Document :=
  .record [("db_path", .text r.dbPath), ("statements", .number r.statements),
    ("issues", .list (r.issues.map Issue.toDocument))]

/-- The label of a severity in its colour. -/
def inkedLabel (level : Severity) : String :=
  match level with
  | .error => Ink.boldRed.apply level.label
  | .warning => Ink.boldYellow.apply level.label
  | .info => Ink.blue.apply level.label

/-- The lines about an issue. -/
def issueText (colored : Bool) (i : Issue) : String :=
  let level := if colored then inkedLabel i.level else i.level.label
  let detail := if i.detail.isEmpty then "" else s!"  detail: {i.detail}\n"
  s!"[{level}] {i.type} on {i.table}: {i.desc}\n  sql: {i.sql}\n{detail}  advice: {i.advice}\n\n"

/-- How many issues have a severity. -/
def count (r : IssueReport) (level : Severity) : Nat :=
  r.issues.countP fun i => i.level == level

/-- The first line of a report for people. -/
def header (r : IssueReport) : String :=
  s!"=== Lint: {r.dbPath} ({r.statements} statements) ==="

/-- A report for people. -/
def toText (r : IssueReport) (colored : Bool) : String :=
  let header := if colored then Ink.bold.apply r.header else r.header
  let (errors, warnings, infos) := (r.count .error, r.count .warning, r.count .info)
  let body := if r.issues.isEmpty then "No issues found.\n"
    else String.join (r.issues.map (issueText colored))
      ++ s!"Summary: {errors} errors, {warnings} warnings, {infos} info\n"
  header ++ "\n\n" ++ body

/-- A report in some form. -/
def render (r : IssueReport) (format : Format) (colored : Bool) : String :=
  format.render (r.toText colored) r.toDocument

end IssueReport

/-! ### Signals -/

namespace Signals

/-- The document of some signals. -/
def toDocument (s : Signals) : Document :=
  .record [
    ("has_using_or_on", .flag s.hasUsingOrOn), ("has_bit_operation", .flag s.hasBitOperation),
    ("has_fuzzy_matching", .flag s.hasFuzzyMatching), ("has_and", .flag s.hasAnd),
    ("has_or", .flag s.hasOr), ("has_in", .flag s.hasIn),
    ("and_column_groups", .list (s.columnGroups.map .texts)), ("tables", .texts s.tables),
    ("aliases", .record (s.aliases.entries.map fun (aliasName, table) => (aliasName, .text table))),
    ("truncated", .flag s.truncated)]

/-- The names of the flags that are set. -/
def flagNames (s : Signals) : List String :=
  [(s.hasUsingOrOn, "using/on"), (s.hasBitOperation, "bit operation"),
    (s.hasFuzzyMatching, "fuzzy matching"), (s.hasAnd, "and"), (s.hasOr, "or"),
    (s.hasIn, "in")].filterMap fun (set, name) => if set then some name else Option.none

/-- The lines about some signals. -/
def lines (s : Signals) : List String :=
  let listed := String.intercalate ", "
  ["Tables: " ++ listed s.tables]
    ++ (if s.flagNames.isEmpty then [] else ["Signals: " ++ listed s.flagNames])
    ++ s.columnGroups.map (fun columns => "AND columns: " ++ listed columns)
    ++ (if s.truncated then ["Truncated: nesting too deep"] else [])

end Signals

/-- The signals of a query in a statement. -/
structure StatementSignals where
  sql : String
  signals : Signals

/-- The signals of each query. -/
abbrev SignalsReport := List StatementSignals

namespace SignalsReport

/-- The document of a report. -/
def toDocument (r : SignalsReport) : Document :=
  .list (r.map fun q => .record [("sql", .text q.sql), ("signals", q.signals.toDocument)])

/-- The lines about the query with some number. -/
def queryText (colored : Bool) (number : Nat) (q : StatementSignals) : String :=
  let header := s!"Statement #{number}:"
  let shown := if colored then Ink.boldCyan.apply header else header
  let lines := String.join ((q.sql :: q.signals.lines).map (· ++ "\n"))
  s!"{shown}\n{lines}\n"

/-- A report for people. -/
def toText (r : SignalsReport) (colored : Bool) : String :=
  "Select trees:\n\n"
    ++ String.join ((r.zipIdx 1).map fun (q, number) => queryText colored number q)

/-- A report in some form. -/
def render (r : SignalsReport) (format : Format) (colored : Bool) : String :=
  format.render (r.toText colored) r.toDocument

end SignalsReport

end QueryLint
