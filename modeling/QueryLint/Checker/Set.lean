import QueryLint.Checker.BuiltIn

/-!
# Sets of checkers

The checkers that run over each query, with the severities that the configuration gives some of
them.
-/

namespace QueryLint

/-- Which built-in checkers are left out, and which get another severity. -/
structure CheckerSettings where
  disabled : List String
  /-- The name of a severity for some checkers. A name that is none has no effect. -/
  severity : OrderedMap String
  deriving DecidableEq, Repr, Inhabited

namespace CheckerSettings

/-- All built-in checkers run as they are. -/
def default : CheckerSettings := ⟨[], .empty⟩

/-- Whether a checker is left out. -/
def disables (settings : CheckerSettings) (name : String) : Bool :=
  settings.disabled.any (Text.sameLetters · name)

/-- The severity that is set for a checker. -/
def severityOf (settings : CheckerSettings) (name : String) : Option Severity := do
  Severity.ofName? (← settings.severity.find? name)

end CheckerSettings

/-- The checkers that run together. -/
structure CheckerSet where
  checkers : List Checker
  /-- The severity of all findings of some checkers. -/
  severities : List (String × Severity)

namespace CheckerSet

/-- The built-in checkers as the settings have them. -/
def ofSettings (settings : CheckerSettings) : CheckerSet :=
  let checkers := Checker.builtIn.filter fun c => !settings.disables c.name
  { checkers
    severities := checkers.filterMap fun c => (settings.severityOf c.name).map (c.name, ·) }

/-- The settings only choose among the built-in checkers. -/
theorem mem_builtIn_of_mem_ofSettings {settings : CheckerSettings} {c : Checker}
    (hc : c ∈ (ofSettings settings).checkers) : c ∈ Checker.builtIn :=
  (List.mem_filter.mp hc).1

/-- All built-in checkers as they are. -/
def default : CheckerSet := ofSettings .default

/-- The set with another checker behind the others. -/
def register (set : CheckerSet) (checker : Checker) : CheckerSet :=
  { set with checkers := set.checkers ++ [checker] }

/-- The names of the checkers, in the order in which they run. -/
def names (set : CheckerSet) : List String :=
  set.checkers.map Checker.name

/-- Whether there is a checker of a name, in whatever letter case. -/
def contains (set : CheckerSet) (name : String) : Bool :=
  set.checkers.any fun c => Text.sameLetters c.name name

/-- A finding with the severity that is set for its checker. -/
def withSeverity (set : CheckerSet) (f : Finding) : Finding :=
  match set.severities.lookup f.checker with
  | some level => { f with level }
  | none => f

/-- Overriding its level leaves a finding with its checker. -/
theorem withSeverity_checker (set : CheckerSet) (f : Finding) :
    (set.withSeverity f).checker = f.checker := by
  unfold withSeverity
  split <;> rfl

/-- Overriding its level leaves a finding with its tables. -/
theorem withSeverity_tables (set : CheckerSet) (f : Finding) :
    (set.withSeverity f).tables = f.tables := by
  unfold withSeverity
  split <;> rfl

/-- The findings of the active checkers, in the order in which the checkers run. -/
def run (set : CheckerSet) (sql : String) (s : Signals) (isActive : String → Bool) :
    List Finding :=
  ((set.checkers.filter fun c => isActive c.name).flatMap fun c => c.check sql s).map
    set.withSeverity

end CheckerSet

end QueryLint
