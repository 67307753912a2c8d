import QueryLint.Config.Reading
import QueryLint.Host

/-!
# Loading configurations

A configuration comes from the file in the working directory or, if there is none, from the one in
the home directory. The file that is taken is taken as a whole. Variables of the environment have
the last word.
-/

namespace QueryLint.Config

/-- The path of the file in the working directory. -/
def localPath : String := ".sqlite-lint.toml"

/-- The path of the file in a home directory. -/
def homePath (home : String) : String :=
  let below := ".config/sqlite-lint/config.toml"
  if home.isEmpty || home.endsWith "/" then home ++ below else home ++ "/" ++ below

/-- The variable that names the dialect. -/
def dialectVariable : String := "SQLITE_LINT_DIALECT"

/-- The variable that names the issue log. -/
def logVariable : String := "SQLITE_LINT_LOG"

/-- The configuration that follows from the files that there are and the values of the variables. -/
def combine (home here : Option Config) (dialect log : Option String) : Except Error Config := do
  let found := (here.orElse fun _ => home).getD .default
  let found ← match dialect with
    | none => pure found
    | some name =>
      match Sql.Dialect.ofName? name with
      | some d => pure { found with lint := { found.lint with dialect := d } }
      | none => throw (.unknownDialect name)
  return match log with
    | some path => { found with logPath := some path }
    | none => found

variable {m : Type → Type} [Monad m]

/-- The configuration in a file, if there is one. -/
def fromFile (host : Host m) (path : String) : ExceptT Error m (Option Config) := do
  if !(← host.hasPath path) then return none
  match ← host.read path with
  | .ok text => return some (← ofToml text)
  | .error reason => throw (.unreadableConfig reason)

/-- The configuration of a system. -/
def load (host : Host m) : ExceptT Error m Config := do
  let home ← match ← host.lookupEnv "HOME" with
    | some home => fromFile host (homePath home)
    | none => pure none
  let here ← fromFile host localPath
  combine home here (← host.lookupEnv dialectVariable) (← host.lookupEnv logVariable)

end QueryLint.Config
