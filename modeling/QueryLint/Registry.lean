import QueryLint.Fingerprint.Seen
import QueryLint.Registry.Engine
import QueryLint.Registry.Notice

/-!
# Registries

Which databases are linted, under which policy, and who gets their issues. Every `install` of a
database that is not installed begins a new installation with a policy, a memory and a queue of its
own; an installation is known by its index among all of them. `uninstall` ends it in two steps: from
then on nothing is accepted or delivered, and once its queue is empty the installation is over
(`finish`).

An execution is looked at in two steps: `examine` finds its issues, and `publish` delivers them.
Work may be queued. `work` does one item in the queue of one installation, and `finish` ends one
installation; they may run in any order between the other calls. `drain` runs them until nothing is
left.
-/

namespace QueryLint

/-! ### Installations -/

/-- Where an installation stands in its life. -/
inductive Phase where
  | uninstalled
  | installed
  | uninstalling
  deriving DecidableEq, Repr, Inhabited

/-- Who gets the issues of a database. -/
structure Subscriber where
  name : String
  /-- Whether it uninstalls its database whenever it gets issues. -/
  uninstalls : Bool
  deriving DecidableEq, Repr, Inhabited

/-- An item of a queue. -/
inductive Work where
  | execution (x : Execution)
  /-- A check of the names in the policy. -/
  | check
  deriving DecidableEq, Repr

/-- One life of a database in a registry. -/
structure Installation where
  dbPath : String
  phase : Phase
  subscriber : Subscriber
  policy : Policy
  seen : Fingerprint.Seen
  /-- Whether the names in the policy were checked. -/
  checked : Bool
  queue : List Work
  deriving DecidableEq, Repr

/-- A new installation. -/
def Installation.start (dbPath : String) (subscriber : Subscriber) (maxSeen : Nat) :
    Installation where
  dbPath
  phase := .installed
  subscriber
  policy := .default
  seen := .new maxSeen
  checked := false
  queue := []

/-- Whether an installation that is being uninstalled has no work left. -/
def Installation.isDone (i : Installation) : Bool :=
  i.phase == .uninstalling && i.queue.isEmpty

/-- Issues of one execution that a subscriber got. -/
structure Delivery where
  /-- The installation they come from. -/
  installation : Nat
  subscriber : Subscriber
  dbPath : String
  issues : List Issue
  deriving DecidableEq, Repr

/-! ### Registries -/

/-- Which databases are linted, and what was delivered and told so far. -/
structure Registry where
  engine : Engine
  /-- The time that new issues get, in milliseconds since the start of 1970. -/
  time : Nat
  /-- All installations there ever were, in the order in which they began. -/
  installations : List Installation
  /-- The last installation of each database, unless it is over. -/
  databases : OrderedMap Nat
  deliveries : List Delivery
  notices : List Notice

namespace Registry

/-- The registry without databases. -/
def new (engine : Engine) (time : Nat) : Registry where
  engine
  time
  installations := []
  databases := .empty
  deliveries := []
  notices := []

/-- The error of a registry that is begun where nothing could run its queued work. -/
def noRuntime : Error :=
  .runtime ("Lint registry needs a tokio runtime: there is no reactor running, must be called from "
    ++ "the context of a Tokio 1.x runtime")

/-- The registry that also tells something. -/
def tell (r : Registry) (n : Notice) : Registry :=
  { r with notices := r.notices ++ [n] }

/-- The registry with a changed installation. -/
def update (r : Registry) (n : Nat) (f : Installation → Installation) : Registry :=
  { r with installations := r.installations.modify n f }

/-- The last installation of a database, unless it is over. -/
def find? (r : Registry) (dbPath : String) : Option (Nat × Installation) := do
  let n ← r.databases.find? dbPath
  return (n, ← r.installations[n]?)

/-- The installation of a database that is installed. -/
def installed? (r : Registry) (dbPath : String) : Option (Nat × Installation) :=
  (r.find? dbPath).filter fun (_, i) => i.phase == .installed

/-- The number of the installation of a database that is installed. -/
def current? (r : Registry) (dbPath : String) : Option Nat :=
  (r.installed? dbPath).map Prod.fst

/-! ### Questions -/

/-- Where a database stands. -/
def phase (r : Registry) (dbPath : String) : Phase :=
  match r.find? dbPath with
  | some (_, i) => i.phase
  | none => .uninstalled

/-- Whether a database is installed. -/
def isInstalled (r : Registry) (dbPath : String) : Bool :=
  (r.installed? dbPath).isSome

/-- The databases that are installed, in their order. -/
def installed (r : Registry) : List String :=
  (r.databases.keys.filter r.isInstalled).mergeSort fun a b => a ≤ b

/-- The names of the checkers. -/
def checkerNames (r : Registry) : List String :=
  r.engine.checkers.names

/-! ### Life of a database -/

/-- Installs a database. If it is installed already, only its subscriber changes. -/
def install (r : Registry) (dbPath : String) (subscriber : Subscriber) : Registry :=
  match r.installed? dbPath with
  | some (n, _) => r.update n fun i => { i with subscriber }
  | none =>
    let i := Installation.start dbPath subscriber r.engine.settings.maxSeenStatements
    { r with
      installations := r.installations ++ [i]
      databases := r.databases.insert dbPath r.installations.length }.tell (.installed dbPath)

/-- Begins to uninstall a database, and says whether it was installed. -/
def uninstall (r : Registry) (dbPath : String) : Bool × Registry :=
  match r.installed? dbPath with
  | some (n, _) => (true, r.update n fun i => { i with phase := .uninstalling })
  | none => (false, r)

/-- Begins to uninstall some databases one after the other, and says whether any was installed. -/
def uninstallEach : List String → Registry → Bool × Registry
  | [], r => (false, r)
  | dbPath :: rest, r =>
    let (begun, r) := r.uninstall dbPath
    let (more, r) := uninstallEach rest r
    (begun || more, r)

/-- Ends an installation that is being uninstalled and has no work left. Its database is forgotten,
unless it was installed again. -/
def finish (n : Nat) (r : Registry) : Registry :=
  match r.installations[n]? with
  | none => r
  | some i =>
    if i.isDone then
      let ended := r.update n fun i => { i with phase := .uninstalled }
      let forgotten := if r.databases.find? i.dbPath == some n then
          { ended with databases := ended.databases.erase i.dbPath }
        else ended
      forgotten.tell (.uninstalled i.dbPath)
    else r

/-! ### Policies -/

/-- Replaces the whitelist of a database that is installed. -/
def setWhitelist (r : Registry) (dbPath : String) (whitelist : Whitelist) : Registry :=
  match r.installed? dbPath with
  | some (n, _) => r.update n fun i => { i with policy := i.policy.setWhitelist whitelist }
  | none => r

/-- Enables a checker for a database that is installed. -/
def enableChecker (r : Registry) (dbPath checker : String) : Registry :=
  match r.installed? dbPath with
  | some (n, _) =>
    let warned :=
      if r.engine.checkers.contains checker then r else r.tell (.enabling dbPath checker)
    warned.update n fun i => { i with policy := (i.policy.enable checker).2 }
  | none => r

/-- The notices about names in a policy that no checker has. -/
def unknownNames (checkers : CheckerSet) (dbPath : String) (policy : Policy) : List Notice :=
  let unknown := fun name => !checkers.contains name
  (policy.enabled.filter unknown).map (.unknownEnabled dbPath)
    ++ policy.whitelist.entries.flatMap fun (table, names) =>
      (names.filter fun name => name != Whitelist.allCheckers && unknown name).map
        (.unknownWhitelisted dbPath table)

/-- Checks the names in the policy of an installation, once in its life. -/
def runCheck (n : Nat) (r : Registry) : Registry :=
  match r.installations[n]? with
  | none => r
  | some i =>
    if i.phase != .installed || i.checked then r
    else
      let unknown := unknownNames r.engine.checkers i.dbPath i.policy
      let checked := r.update n fun i => { i with checked := true }
      { checked with notices := checked.notices ++ unknown }.tell
        (.checked i.dbPath r.checkerNames.length unknown.length)

/-! ### Executions -/

/-- Delivers issues to the subscriber of an installation that is installed, and says whether it did.
While it gets them, the subscriber uninstalls some databases. -/
def publishBy (uninstalls : List String) (r : Registry) (n : Nat) (issues : List Issue) :
    Bool × Registry :=
  match r.installations[n]? with
  | none => (false, r)
  | some i =>
    if i.phase != .installed then (false, r)
    else
      let delivery : Delivery := ⟨n, i.subscriber, i.dbPath, issues⟩
      let delivered := { r with deliveries := r.deliveries ++ [delivery] }
      (true, (delivered.uninstallEach uninstalls).2)

/-- The databases that the subscriber of an installation uninstalls when it gets issues. -/
def reaction (r : Registry) (n : Nat) : List String :=
  match r.installations[n]? with
  | none => []
  | some i => if i.subscriber.uninstalls then [i.dbPath] else []

/-- Delivers issues to the subscriber of an installation that is installed, and says whether it did.
The subscriber may uninstall the database. -/
def publish (r : Registry) (n : Nat) (issues : List Issue) : Bool × Registry :=
  r.publishBy (r.reaction n) n issues

/-- Looks at an execution on an installation that is installed, and yields the issues that are to be
delivered. An execution that was too short does not count, and a statement that was seen is not
looked at again. A full memory forgets as it is told. -/
def examineBy (forget : Fingerprint.Seen.Forgetting) (r : Registry) (n : Nat) (x : Execution) :
    List Issue × Registry :=
  match r.installations[n]? with
  | none => ([], r)
  | some i =>
    if i.phase != .installed || x.elapsedMs < r.engine.settings.minElapsedMs then ([], r)
    else
      let (isNew, seen) := i.seen.insertBy forget (Fingerprint.ofSql x.sql)
      if !isNew then ([], r)
      else
        let remembered := r.update n fun i => { i with seen }
        let warning := Notice.abandoned i.dbPath r.engine.settings.maxDepth
        let warnings := List.replicate (r.engine.abandoned x.sql) warning
        let warned := { remembered with notices := remembered.notices ++ warnings }
        (r.engine.issues i.policy i.dbPath r.time x, warned)

/-- Looks at an execution on an installation that is installed, and yields the issues that are to be
delivered. A full memory forgets the oldest statements. -/
def examine (r : Registry) (n : Nat) (x : Execution) : List Issue × Registry :=
  r.examineBy .oldest n x

/-- Looks at an execution on an installation that is installed, delivers its issues, and yields the
identifiers of those that were delivered. -/
def execute (r : Registry) (n : Nat) (x : Execution) : List String × Registry :=
  let (issues, examined) := r.examine n x
  if issues.isEmpty then ([], examined)
  else
    let (delivered, published) := examined.publish n issues
    (if delivered then issues.map Issue.id else [], published)

/-- Looks at an execution at once, and yields the identifiers of the issues that were delivered. -/
def notifyNow (r : Registry) (dbPath : String) (x : Execution) : List String × Registry :=
  match r.installed? dbPath with
  | some (n, _) => r.execute n x
  | none => ([], r)

/-! ### Queued work -/

/-- Queues an item for a database that is installed. -/
def enqueue (r : Registry) (dbPath : String) (w : Work) : Registry :=
  match r.installed? dbPath with
  | some (n, _) => r.update n fun i => { i with queue := i.queue ++ [w] }
  | none => r

/-- Queues an execution. -/
def notify (r : Registry) (dbPath : String) (x : Execution) : Registry :=
  r.enqueue dbPath (.execution x)

/-- Queues a check of the names in the policy of a database. -/
def requestCheck (r : Registry) (dbPath : String) : Registry :=
  r.enqueue dbPath .check

/-- Queues a check of the names in the policies of all databases. -/
def requestChecks (r : Registry) : Registry :=
  r.databases.keys.foldl requestCheck r

/-- Takes the first item from the queue of an installation. It is dropped if the database is no
longer installed. -/
def take (n : Nat) (r : Registry) : Option Work × Registry :=
  match r.installations[n]? with
  | none => (none, r)
  | some i =>
    match i.queue with
    | [] => (none, r)
    | item :: rest =>
      (if i.phase == .installed then some item else none,
        r.update n fun i => { i with queue := rest })

/-- Does the first item in the queue of an installation. -/
def work (n : Nat) (r : Registry) : Registry :=
  match r.take n with
  | (none, taken) => taken
  | (some (.execution x), taken) => (taken.execute n x).2
  | (some .check, taken) => taken.runCheck n

/-- How many items an installation has queued. -/
def queued (r : Registry) (n : Nat) : Nat :=
  match r.installations[n]? with
  | some i => i.queue.length
  | none => 0

/-- Takes all items from the queue of an installation, and ends it if it is being uninstalled. -/
def settle (r : Registry) (n : Nat) : Registry :=
  finish n (Nat.repeat (work n) (r.queued n) r)

/-- Runs all queued work, and ends all installations that are being uninstalled. -/
def drain (r : Registry) : Registry :=
  (List.range r.installations.length).foldl settle r

/-! ### The end -/

/-- Begins to uninstall all databases, and says whether any was installed. -/
def uninstallAll (r : Registry) : Bool × Registry :=
  r.uninstallEach r.installed

/-- Uninstalls all databases and waits until the installations that this ends are over. While it
waits, all queued work runs. -/
def shutdown (r : Registry) : Registry :=
  let (started, ending) := r.uninstallAll
  (if started then ending.drain else ending).tell .shutDown

end Registry

end QueryLint
