import QueryLint.Sql.Fault
import QueryLint.Text.Search

/-!
# Errors

What can go wrong outside the linted statements themselves, by its cause, and how it is worded. An
error is the fault of the request or of the surroundings (`ErrorKind`).
-/

namespace QueryLint

/-- Whose fault an error is. -/
inductive ErrorKind where
  | badRequest
  | internal
  deriving DecidableEq, Repr, Inhabited

namespace ErrorKind

/-- The general wording of a kind of errors. -/
def text : ErrorKind → String
  | badRequest => "Bad request"
  | internal => "Internal server error"

end ErrorKind

/-- What went wrong. -/
inductive Error where
  /-- A statement cannot be read, as the report says. -/
  | unparsable (report : String)
  /-- A statement is nested more deeply than the limit allows. -/
  | tooDeep (limit : Nat)
  /-- A setting is not acceptable. -/
  | config (problem : String)
  /-- The configuration file is not what it should be, as the report says. -/
  | malformedConfig (report : String)
  | unreadableConfig (reason : String)
  /-- The environment names a dialect that there is not. -/
  | unknownDialect (name : String)
  /-- An entry of a whitelist does not name a table and its checkers. -/
  | malformedEntry (entry : String)
  | entryWithoutTable (entry : String)
  | unknownChecker (name : String) (available : List String)
  /-- There is nothing to run on. -/
  | runtime (problem : String)
  | unreadable (path reason : String)
  | unwritable (path reason : String)
  deriving DecidableEq, Repr, Inhabited

namespace Error

/-! ### The place in a report -/

/-- The line and the column that a report names. They stand behind the first `Line: ` and the next
`, Column `. -/
def placeIn (report : List Char) : Option (Nat × Nat) := do
  let (_, behindLine) ← Text.splitFirst "Line: ".toList report
  let (line, behindColumn) ← Text.splitFirst ", Column ".toList behindLine
  let lineNumber ← Text.number64? line
  let columnNumber ← Text.number64? (behindColumn.takeWhile Char.isDigit)
  return (lineNumber, columnNumber)

/-- The words that repeat the place which a report names, in front of the report. -/
def placeWords (report : String) : String :=
  match placeIn report.toList with
  | some (line, column) => s!" at line {line}, column {column}"
  | none => ""

/-! ### Wording -/

/-- Whose fault an error is. -/
def kind : Error → ErrorKind
  | runtime _ | unreadable _ _ | unwritable _ _ => .internal
  | _ => .badRequest

/-- The wording of an error. -/
def message : Error → String
  | unparsable report => s!"Statement parse error{placeWords report}:\n  {report}"
  | tooDeep limit => s!"Statement nesting exceeds the maximum depth of {limit}"
  | config problem => problem
  | malformedConfig report => s!"Invalid config file: {report}"
  | unreadableConfig reason => s!"Failed to read config file: {reason}"
  | unknownDialect name => s!"Unknown SQLITE_LINT_DIALECT value: {name}"
  | malformedEntry entry => s!"Invalid whitelist entry '{entry}': expected table=checker[,checker]"
  | entryWithoutTable entry => s!"Invalid whitelist entry '{entry}': missing table name"
  | unknownChecker name available =>
    let listed := String.intercalate ", " available
    s!"Unknown checker '{name}'. Available: {listed}"
  | runtime problem => problem
  | unreadable path reason => s!"Failed to read file '{path}': {reason}"
  | unwritable path reason => s!"Failed to write file '{path}': {reason}"

/-- The error for a text that is not SQL. -/
def ofFault (fault : Sql.Fault) : Error :=
  .unparsable fault.message

end Error

end QueryLint
