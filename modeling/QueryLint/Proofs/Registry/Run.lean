import QueryLint.Registry

/-!
# Runs of a registry

A registry is used by several callers at once while its queued work is done in the background. A run
is a list of steps that may come in any order: the calls, the work of one queue item, the delivery
of issues that were found before, and the end of one installation.

Looking at an execution and delivering its issues are two steps, so anything may happen between
them: the policy and the subscriber may change, and the database may be uninstalled and installed
again. What a subscriber does while it gets issues is part of the step: it may uninstall any
databases. Which statements a full memory forgets is part of the step, too.

A `Situation` is the registry together with the issues that wait to be delivered. It also keeps the
history of the run, which no step reads: the calls that concern the lives of databases, the
installations that were over, and the executions that were looked at.
-/

namespace QueryLint.Run

open Fingerprint (Seen)

/-- Something that happened in a run. -/
inductive Event where
  /-- A database was installed, and from then on has the installation of that number. -/
  | install (dbPath : String) (installation : Nat)
  /-- A database was uninstalled, which began to end the installation of that number, if any. -/
  | uninstall (dbPath : String) (installation : Option Nat)
  /-- An installation was over. -/
  | ended (installation : Nat)
  /-- An execution was looked at on an installation. -/
  | examine (installation : Nat) (x : Execution)
  deriving DecidableEq

/-- Issues of an execution that wait to be delivered. -/
structure Pending where
  installation : Nat
  execution : Execution
  issues : List Issue

/-- Where a run stands. -/
structure Situation where
  registry : Registry
  pending : List Pending
  /-- What happened so far, the earliest first. -/
  history : List Event

/-- A step of a run. -/
inductive Step where
  | install (dbPath : String) (subscriber : Subscriber)
  | uninstall (dbPath : String)
  /-- A shutdown begins: all databases that are installed are uninstalled. -/
  | beginShutdown
  /-- A shutdown returns. -/
  | endShutdown
  | setWhitelist (dbPath : String) (whitelist : Whitelist)
  | enableChecker (dbPath checker : String)
  | requestCheck (dbPath : String)
  | requestChecks
  /-- An execution is queued. -/
  | notify (dbPath : String) (x : Execution)
  /-- An execution is looked at without being queued. -/
  | notifyNow (dbPath : String) (x : Execution) (forget : Seen.Forgetting)
  /-- The first item in the queue of an installation is done. -/
  | work (n : Nat) (forget : Seen.Forgetting)
  /-- Waiting issues are delivered, and the subscriber uninstalls some databases meanwhile. -/
  | deliver (k : Nat) (uninstalls : List String)
  /-- An installation ends, if it has no work left. -/
  | finish (n : Nat)
  /-- The clock is set. -/
  | tick (time : Nat)

/-- The executions that were looked at on an installation, the earliest first. -/
def examinedOn (n : Nat) (history : List Event) : List Execution :=
  history.filterMap fun
    | .examine m x => if m = n then some x else none
    | _ => none

/-- What was looked at in two histories is what was looked at in each of them. -/
theorem examinedOn_append (n : Nat) (history events : List Event) :
    examinedOn n (history ++ events) = examinedOn n history ++ examinedOn n events :=
  List.filterMap_append

/-- The execution that a step notifies a database of. -/
def Step.notification? : Step → Option (String × Execution)
  | notify dbPath x => some (dbPath, x)
  | notifyNow dbPath x _ => some (dbPath, x)
  | _ => none

/-- What happens when some databases are uninstalled one after the other. -/
def uninstallEvents : List String → Registry → List Event
  | [], _ => []
  | dbPath :: rest, r =>
    .uninstall dbPath (r.current? dbPath) :: uninstallEvents rest (r.uninstall dbPath).2

namespace Situation

/-- A run begins. -/
def start (engine : Engine) (time : Nat) : Situation := ⟨.new engine time, [], []⟩

/-- An execution is looked at on an installation, and its issues wait to be delivered. -/
def examine (forget : Seen.Forgetting) (n : Nat) (x : Execution) (s : Situation) : Situation :=
  let (issues, examined) := s.registry.examineBy forget n x
  { registry := examined
    pending := if issues.isEmpty then s.pending else s.pending ++ [⟨n, x, issues⟩]
    history := s.history ++ [.examine n x] }

/-- The situation after the first item in the queue of an installation was done. -/
def work (forget : Seen.Forgetting) (n : Nat) (s : Situation) : Situation :=
  match s.registry.take n with
  | (none, taken) => { s with registry := taken }
  | (some (.execution x), taken) => { s with registry := taken }.examine forget n x
  | (some .check, taken) => { s with registry := taken.runCheck n }

/-- The situation after waiting issues were delivered, or dropped because their database is no
longer installed. -/
def deliver (k : Nat) (uninstalls : List String) (s : Situation) : Situation :=
  match s.pending[k]? with
  | none => s
  | some p =>
    let (delivered, published) := s.registry.publishBy uninstalls p.installation p.issues
    { registry := published
      pending := s.pending.eraseIdx k
      history := s.history ++ if delivered then uninstallEvents uninstalls s.registry else [] }

/-- The situation after an installation ended, if it had no work left. -/
def finish (n : Nat) (s : Situation) : Situation :=
  { s with
    registry := s.registry.finish n
    history := s.history ++
      if s.registry.installations[n]?.any Installation.isDone then [.ended n] else [] }

/-- The situation after a step. -/
def step (s : Situation) : Step → Situation
  | .install dbPath subscriber =>
    { s with
      registry := s.registry.install dbPath subscriber
      history := s.history ++
        [.install dbPath ((s.registry.current? dbPath).getD s.registry.installations.length)] }
  | .uninstall dbPath =>
    { s with
      registry := (s.registry.uninstall dbPath).2
      history := s.history ++ uninstallEvents [dbPath] s.registry }
  | .beginShutdown =>
    { s with
      registry := s.registry.uninstallAll.2
      history := s.history ++ uninstallEvents s.registry.installed s.registry }
  | .endShutdown => { s with registry := s.registry.tell .shutDown }
  | .setWhitelist dbPath whitelist =>
    { s with registry := s.registry.setWhitelist dbPath whitelist }
  | .enableChecker dbPath checker => { s with registry := s.registry.enableChecker dbPath checker }
  | .requestCheck dbPath => { s with registry := s.registry.requestCheck dbPath }
  | .requestChecks => { s with registry := s.registry.requestChecks }
  | .notify dbPath x => { s with registry := s.registry.notify dbPath x }
  | .notifyNow dbPath x forget =>
    match s.registry.current? dbPath with
    | some n => s.examine forget n x
    | none => s
  | .work n forget => s.work forget n
  | .deliver k uninstalls => s.deliver k uninstalls
  | .finish n => s.finish n
  | .tick time => { s with registry := { s.registry with time } }

/-- The situation after some steps. -/
def run (s : Situation) (steps : List Step) : Situation :=
  steps.foldl step s

/-- What was delivered from an installation, the earliest first. -/
def deliveriesOf (n : Nat) (s : Situation) : List Delivery :=
  s.registry.deliveries.filter fun d => d.installation == n

@[simp] theorem examine_registry (forget : Seen.Forgetting) (n : Nat) (x : Execution)
    (s : Situation) : (s.examine forget n x).registry = (s.registry.examineBy forget n x).2 := rfl

@[simp] theorem examine_history (forget : Seen.Forgetting) (n : Nat) (x : Execution)
    (s : Situation) : (s.examine forget n x).history = s.history ++ [.examine n x] := rfl

@[simp] theorem run_nil (s : Situation) : s.run [] = s := rfl

/-- A run goes on from where its first half ends. -/
theorem run_append (s : Situation) (steps more : List Step) :
    s.run (steps ++ more) = (s.run steps).run more :=
  List.foldl_append

/-- A run ends with its last step. -/
@[simp] theorem run_concat (s : Situation) (steps : List Step) (last : Step) :
    s.run (steps ++ [last]) = (s.run steps).step last := by
  rw [run_append]
  rfl

end Situation

end QueryLint.Run
