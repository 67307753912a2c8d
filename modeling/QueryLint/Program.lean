import QueryLint.CommandLine
import QueryLint.Config.Loading
import QueryLint.Replay

/-!
# The program

`Program.run` is all that the program does with its arguments on a host: it reads a command, loads
the configuration and runs the command. What it prints, and how it exits, is a value
(`Program.Ending`).
-/

namespace QueryLint.Program

/-- How the program ends: its exit code, what it prints, and what it tells besides. -/
structure Ending where
  code : Nat
  output : String
  /-- The kind of error that ended it. -/
  fatal : Option String
  notices : List Notice

/-- What the program prints for its version. -/
def versionText : String := "sqlite-lint 0.1.0\n"

/-- What the program prints for help. -/
def helpText : String := String.intercalate "\n" [
  "Usage: sqlite-lint <COMMAND>",
  "",
  "Commands:",
  "  check    Lint statements as if a database had executed them",
  "  signals  Print the signals extracted from each SELECT",
  "",
  "Options:",
  "  -q, --queries <PATH>     File of statements, or - for the standard input",
  "      --dialect <NAME>     generic, mysql, postgresql or sqlite",
  "  -f, --format <NAME>      text, json or yaml",
  "      --no-color           Print without colours",
  "      --db <PATH>          Database of the statements (check)",
  "  -e, --enable <CHECKER>   Enable only this checker, repeatable (check)",
  "  -w, --whitelist <ENTRY>  table=checker[,checker] or table=*, repeatable (check)",
  "      --log <PATH>         Also write the issues to this file (check)",
  ""]

/-- How the program ends without a command. -/
def refused (refusal : CommandLine.Refusal) : Ending :=
  match refusal with
  | .help => ⟨0, helpText, none, []⟩
  | .version => ⟨0, versionText, none, []⟩
  | _ => ⟨2, "", none, []⟩

/-- How the program ends with an error. -/
def failed (e : Error) : Ending := ⟨1, "", some e.kind.text, []⟩

/-- How the program ends with the outcome of a command. -/
def ended (outcome : Outcome) (notices : List Notice) : Ending :=
  ⟨outcome.exitCode, outcome.output ++ "\n", none, notices⟩

variable {m : Type → Type} [Monad m]

/-- Whether colours are shown. `CLICOLOR_FORCE` asks for them, `NO_COLOR` forbids them, and else
they are shown on a terminal unless `CLICOLOR` forbids them. The value `0` takes back what a
variable says. -/
def showsColors (host : Host m) (onTerminal : Bool) : m Bool := do
  let isOn (value : Option String) : Bool := (value.map (· != "0")).getD false
  if isOn (← host.lookupEnv "CLICOLOR_FORCE") then return true
  if (← host.lookupEnv "NO_COLOR").isSome then return false
  return onTerminal && (← host.lookupEnv "CLICOLOR") != some "0"

/-- Runs a command under a configuration. -/
def runCommand (host : Host m) (config : Config) (colors : Bool) : Command → m Ending
  | .check request => do
    match ← Replay.check host config request colors with
    | .ok (outcome, notices) => return ended outcome notices
    | .error e => return failed e
  | .signals request => do
    match ← Replay.signals host config request colors with
    | .ok outcome => return ended outcome []
    | .error e => return failed e

/-- Runs the program with some arguments. -/
def run (host : Host m) (onTerminal : Bool) (arguments : List String) : m Ending := do
  match CommandLine.parse arguments with
  | .error refusal => return refused refusal
  | .ok command =>
    match ← (Config.load host).run with
    | .error e => return failed e
    | .ok config => runCommand host config (← showsColors host onTerminal) command

end QueryLint.Program
