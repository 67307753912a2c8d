import QueryLint.Error
import QueryLint.Host
import QueryLint.Issue
import QueryLint.Registry.Notice

/-!
# Issue logs

A file at the end of which every batch of issues is written as it is published. Each issue is a
block of lines, with an empty line behind it.
-/

namespace QueryLint

/-- A file to which issues are written. -/
structure IssueLog where
  path : String
  deriving DecidableEq, Repr, Inhabited

namespace IssueLog

/-- The lines about an issue that a database published. -/
def issueLines (dbPath : String) (i : Issue) : List (String × String) :=
  [("issue_id", i.id), ("db_path", dbPath), ("table", i.table), ("sql statement", i.sql),
    ("issue_type", i.type), ("level", i.level.label), ("create_time", toString i.createTime),
    ("desc", i.desc), ("detail", i.detail), ("advice", i.advice)]
    ++ (if i.extInfo.isEmpty then [] else [("ext_info", i.extInfo)])

/-- The block of an issue. -/
def renderIssue (dbPath : String) (i : Issue) : String :=
  String.join ((issueLines dbPath i).map fun (name, value) => s!"{name} : {value}\n") ++ "\n"

/-- The blocks of a batch. -/
def renderBatch (dbPath : String) (issues : List Issue) : String :=
  String.join (issues.map (renderIssue dbPath))

variable {m : Type → Type} [Monad m]

/-- Writes a batch to a log. For a batch without issues nothing is done. -/
def append (host : Host m) (log : IssueLog) (dbPath : String) (issues : List Issue) :
    m (Except Error Unit) := do
  if issues.isEmpty then return .ok ()
  return (← host.append log.path (renderBatch dbPath issues)).mapError (.unwritable log.path)

/-- Writes a batch that is published to a log. If that fails, there is a notice about it and nothing
else happens. -/
def publish (host : Host m) (log : IssueLog) (dbPath : String) (issues : List Issue) :
    m (List Notice) := do
  match ← log.append host dbPath issues with
  | .ok _ => return []
  | .error e => return [.unwritable dbPath e.kind.text]

end IssueLog

end QueryLint
