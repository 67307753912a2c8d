import QueryLint.Checker
import QueryLint.Whitelist

/-!
# Policies

Which checkers run for a database, and which findings are suppressed because a table is whitelisted.
While no checker is enabled by name, all of them are.
-/

namespace QueryLint

/-- Which checkers run, and which findings are suppressed. -/
structure Policy where
  /-- The enabled checkers, in lower case, in the order in which they were enabled. -/
  enabled : List String
  whitelist : Whitelist
  deriving DecidableEq, Repr, Inhabited

namespace Policy

/-- All checkers run, and nothing is suppressed. -/
def default : Policy := ⟨[], .empty⟩

/-- The policy that also enables a checker, and whether that is new. -/
def enable (p : Policy) (checker : String) : Bool × Policy :=
  let name := Text.asciiLower checker
  if p.enabled.contains name then (false, p)
  else (true, { p with enabled := p.enabled ++ [name] })

/-- The policy with another whitelist. -/
def setWhitelist (p : Policy) (whitelist : Whitelist) : Policy :=
  { p with whitelist }

/-- Whether a checker runs. -/
def isEnabled (p : Policy) (checker : String) : Bool :=
  p.enabled.isEmpty || p.enabled.contains (Text.asciiLower checker)

/-- A table name without its schema. -/
def bareTable (table : String) : Option String :=
  (Text.splitLast '.' table.toList).map fun (_, bare) => String.ofList bare

/-- Whether an entry of a whitelist is about a table, by its whole name or without its schema. -/
def isAbout (key table : String) : Bool :=
  Text.sameLetters key table
    || (match bareTable table with
      | some bare => Text.sameLetters key bare
      | none => false)

/-- Whether an entry of a whitelist suppresses a checker. An entry without checkers is about all. -/
def covers (checkers : List String) (checker : String) : Bool :=
  checkers.isEmpty || checkers.any fun c => c == Whitelist.allCheckers || Text.sameLetters c checker

/-- Whether a checker is suppressed for a table. -/
def isWhitelisted (p : Policy) (table checker : String) : Bool :=
  p.whitelist.entries.any fun (key, checkers) => isAbout key table && covers checkers checker

/-- Whether a finding is suppressed because of one of its tables. -/
def suppresses (p : Policy) (f : Finding) : Bool :=
  f.tables.any fun table => p.isWhitelisted table f.checker

end Policy

end QueryLint
