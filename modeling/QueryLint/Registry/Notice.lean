/-!
# Notices

What the linter tells about its own work, by its cause, and how it is written: the level, the
message, and the details by their names.
-/

namespace QueryLint

/-- How grave a notice is. -/
inductive NoticeLevel where
  | info
  | warning
  deriving DecidableEq, Repr

/-- Something that the linter tells about its own work. -/
inductive Notice where
  | installed (dbPath : String)
  | uninstalled (dbPath : String)
  | shutDown
  /-- A checker was enabled that nobody registered. -/
  | enabling (dbPath checker : String)
  /-- An enabled checker is not registered. -/
  | unknownEnabled (dbPath checker : String)
  /-- A whitelisted checker is not registered. -/
  | unknownWhitelisted (dbPath table checker : String)
  /-- The names were checked, and so many of them are unknown. -/
  | checked (dbPath : String) (checkers unknown : Nat)
  /-- A query is nested too deeply. -/
  | abandoned (dbPath : String) (maxDepth : Nat)
  /-- The issue log cannot be written. -/
  | unwritable (dbPath error : String)
  deriving DecidableEq, Repr

namespace Notice

/-- How grave a notice is. -/
def level : Notice → NoticeLevel
  | installed _ | uninstalled _ | shutDown | checked _ _ _ => .info
  | _ => .warning

/-- The message of a notice. -/
def message : Notice → String
  | installed _ => "lint installed"
  | uninstalled _ => "lint uninstalled"
  | shutDown => "lint registry shut down"
  | enabling _ _ => "enabling unregistered checker"
  | unknownEnabled _ _ => "enabled checker is not registered"
  | unknownWhitelisted _ _ _ => "whitelisted checker is not registered"
  | checked _ _ _ => "initial check complete"
  | abandoned _ _ => "statement nesting too deep, analysis abandoned"
  | unwritable _ _ => "failed to write issue log"

/-- The details of a notice, sorted by their names. -/
def details : Notice → List (String × String)
  | installed db => [("db", db)]
  | uninstalled db => [("db", db)]
  | shutDown => []
  | enabling db checker => [("checker", checker), ("db", db)]
  | unknownEnabled db checker => [("checker", checker), ("db", db)]
  | unknownWhitelisted db table checker => [("checker", checker), ("db", db), ("table", table)]
  | checked db checkers unknown =>
    [("checkers", toString checkers), ("db", db), ("unknown", toString unknown)]
  | abandoned db maxDepth => [("db", db), ("max_depth", toString maxDepth)]
  | unwritable db error => [("db", db), ("error", error)]

/-- A notice on one line. -/
def render (n : Notice) : String :=
  let mark := match n.level with
    | .info => "INFO"
    | .warning => "WARN"
  String.intercalate " "
    (mark :: n.message :: n.details.map fun (name, value) => s!"{name}={value}")

end Notice

end QueryLint
