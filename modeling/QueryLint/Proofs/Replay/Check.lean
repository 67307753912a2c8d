import QueryLint.Proofs.IssueLog
import QueryLint.Proofs.Registry.Sequential
import QueryLint.Proofs.Replay.Batches
import QueryLint.Proofs.Report
import QueryLint.Proofs.Results

/-!
# What a check comes to

A check is refused, and then nothing was written and nothing is reported. Or it is accepted; then it
reports the issues of the batches that a replay delivers, its exit code tells the gravest of them,
and the same batches stand behind the old text of the log if that can be written
(`check_completes_or_refuses`).

A check reads its text, plans without writing anything, and then writes its plan to the log
(`run_check`). All refusals and the outcome come from the first two steps, so neither depends on how
writing goes (`outcome_conclude`).

The batches are told by what is asked of the registry: its database is installed, each checker is
enabled and the whitelist is set (`opening`), and then it is notified of the statements
(`batchesFor`). What the log gets is told by its lines (`logText`).
-/

namespace QueryLint.Replay

open FileTree (hostAt)

variable {config : Config} {request : CheckRequest} {colored : Bool} {text : String} {time : Nat}
  {checked : Checked}

/-! ### Accepted requests -/

/-- The engine that a request is answered with. -/
def engineFor (config : Config) (request : CheckRequest) : Engine :=
  .ofConfig { config with lint.dialect := request.dialect.getD config.lint.dialect }

/-- The names that a request may use for checkers. -/
def Known (config : Config) (name : String) : Prop :=
  name = Whitelist.allCheckers
    ∨ ∃ known ∈ (CheckerSet.ofSettings config.checkers).names, Text.sameLetters known name = true

/-- A text has some statements and a request some whitelist, and all checkers that are named are
known. -/
structure Accepts (config : Config) (request : CheckRequest) (text : String) (found : List String)
    (whitelist : Whitelist) : Prop where
  statements_eq : statements (request.dialect.getD config.lint.dialect) text = .ok found
  whitelist_eq : Whitelist.parse request.whitelist = .ok whitelist
  enabled_known : ∀ name ∈ request.enable, Known config name
  whitelisted_known : ∀ name ∈ whitelist.names, Known config name

/-- What a text and a request are accepted with is told by them. -/
theorem Accepts.unique {found other : List String} {whitelist more : Whitelist}
    (h : Accepts config request text found whitelist)
    (h' : Accepts config request text other more) : other = found ∧ more = whitelist :=
  ⟨Except.ok.inj (h'.statements_eq.symm.trans h.statements_eq),
    Except.ok.inj (h'.whitelist_eq.symm.trans h.whitelist_eq)⟩

/-- Names pass exactly when all of them are known. -/
theorem requireKnown_eq_ok_iff {names : List String} {done : Unit} :
    requireKnown (CheckerSet.ofSettings config.checkers).names names = .ok done
      ↔ ∀ name ∈ names, Known config name := by
  have hknown : ∀ name, Known config name
      ↔ ¬ (name != Whitelist.allCheckers && !(CheckerSet.ofSettings config.checkers).names.any
        (Text.sameLetters · name)) = true := by
    intro name
    simp [Known, ← List.any_eq_true, Classical.or_iff_not_imp_left]
  simp only [hknown, ← List.find?_eq_none]
  unfold requireKnown
  split
  · next name hunknown =>
    rw [hunknown]
    constructor <;> exact nofun
  · next hnone =>
    rw [hnone]
    exact ⟨fun _ => rfl, fun _ => rfl⟩

/-- What an accepted check comes to. -/
def checkedOf (config : Config) (request : CheckRequest) (colored : Bool) (time : Nat)
    (found : List String) (whitelist : Whitelist) : Checked :=
  let prepared := prepare (engineFor config request) time request.dbPath request.enable whitelist
  let replayed := (execute prepared request.dbPath found).shutdown
  let issues := replayed.deliveries.flatMap Delivery.issues
  { outcome := ⟨Issue.exitCode issues,
      IssueReport.render ⟨request.dbPath, found.length, issues⟩ request.format colored⟩
    deliveries := replayed.deliveries
    notices := replayed.notices }

/-- A plan is refused by its statements, its whitelist, or the names of its checkers, in this
order. -/
theorem planCheck_eq :
    planCheck config request colored time text = (do
      let found ← statements (request.dialect.getD config.lint.dialect) text
      let whitelist ← Whitelist.parse request.whitelist
      requireKnown (CheckerSet.ofSettings config.checkers).names request.enable
      requireKnown (CheckerSet.ofSettings config.checkers).names whitelist.names
      return checkedOf config request colored time found whitelist) := rfl

/-- A check is answered just if its text and its request are accepted. -/
theorem planCheck_eq_ok_iff :
    planCheck config request colored time text = .ok checked
      ↔ ∃ found whitelist, Accepts config request text found whitelist
        ∧ checkedOf config request colored time found whitelist = checked := by
  simp only [planCheck_eq, bind_eq_ok_iff, pure_eq_ok_iff, requireKnown_eq_ok_iff]
  constructor
  · rintro ⟨found, hfound, whitelist, hwhitelist, -, henabled, -, hwhitelisted, hchecked⟩
    exact ⟨found, whitelist, ⟨hfound, hwhitelist, henabled, hwhitelisted⟩, hchecked⟩
  · rintro ⟨found, whitelist, haccepts, hchecked⟩
    exact ⟨found, haccepts.statements_eq, whitelist, haccepts.whitelist_eq, (),
      haccepts.enabled_known, (), haccepts.whitelisted_known, hchecked⟩

/-! ### Batches that are reported and logged -/

/-- The situation of a registry on which the database of a request was just installed, and then each
of its checkers enabled and the whitelist set. -/
def opening (config : Config) (request : CheckRequest) (time : Nat) (whitelist : Whitelist) :
    Run.Situation :=
  (Run.Situation.start (engineFor config request) time).run
    (Run.openingSteps request.dbPath request.enable whitelist)

/-- The batches that this registry delivers when it is then notified of some statements one after
the other. -/
def batchesFor (config : Config) (request : CheckRequest) (time : Nat) (found : List String)
    (whitelist : Whitelist) : List (List Issue) :=
  batches request.dbPath found (opening config request time whitelist).registry

/-- A check prepares its registry just so. -/
theorem batchesFor_eq (config : Config) (request : CheckRequest) (time : Nat) (found : List String)
    (whitelist : Whitelist) :
    batchesFor config request time found whitelist
      = batches request.dbPath found
        (prepare (engineFor config request) time request.dbPath request.enable whitelist) := by
  rw [batchesFor, opening, Run.run_openingSteps]

/-- A check delivers the batches of its request from the only installation. -/
theorem exists_deliveries_checkedOf (config : Config) (request : CheckRequest) (colored : Bool)
    (time : Nat) (found : List String) (whitelist : Whitelist) :
    ∃ i : Installation, i.dbPath = request.dbPath
      ∧ (checkedOf config request colored time found whitelist).deliveries
        = (batchesFor config request time found whitelist).flatMap (deliveryOf i) := by
  obtain ⟨i, hi, hnone⟩ := exists_single_prepare (engineFor config request) time request.dbPath
    request.enable whitelist
  obtain ⟨last, hlast, hdeliveries⟩ := hi.execute found
  refine ⟨i, hi.dbPath_eq, ?_⟩
  unfold checkedOf
  dsimp only
  rw [hlast.shutdown]
  dsimp only
  rw [hdeliveries, hnone, List.nil_append, batchesFor_eq]

/-- The issues that are delivered are those of the batches. -/
theorem flatMap_issues_flatMap_deliveryOf (i : Installation) (batches : List (List Issue)) :
    (batches.flatMap (deliveryOf i)).flatMap Delivery.issues = batches.flatten := by
  rw [List.flatMap_assoc]
  simp only [flatMap_issues_deliveryOf, List.flatMap_id']

/-- Each batch that is not empty is delivered. -/
theorem map_issues_flatMap_deliveryOf (i : Installation) (batches : List (List Issue)) :
    (batches.flatMap (deliveryOf i)).map Delivery.issues
      = batches.filter fun batch => !batch.isEmpty := by
  induction batches with
  | nil => rfl
  | cons batch rest ih =>
    rw [List.flatMap_cons, List.map_append, ih, List.filter_cons]
    unfold deliveryOf
    cases batch <;> rfl

/-- The batches are what some run of the registry delivers, apart from those without issues. -/
theorem exists_run_of_batchesFor (config : Config) (request : CheckRequest) (time : Nat)
    (found : List String) (whitelist : Whitelist) :
    ∃ steps, ((opening config request time whitelist).run steps).registry.deliveries.map
        Delivery.issues
      = (batchesFor config request time found whitelist).filter fun batch => !batch.isEmpty := by
  obtain ⟨steps, hsteps⟩ := Run.exists_run_of_replay (engineFor config request) time request.dbPath
    request.enable whitelist found
  obtain ⟨i, -, hdeliveries⟩ :=
    exists_deliveries_checkedOf config request false time found whitelist
  refine ⟨steps, ?_⟩
  rw [opening, ← Run.Situation.run_append, hsteps, ← map_issues_flatMap_deliveryOf i, ← hdeliveries]
  rfl

/-- What is written about some batches are the blocks of all issues in them. -/
theorem renderAll_flatMap_deliveryOf (i : Installation) (batches : List (List Issue)) :
    IssueLog.renderAll (batches.flatMap (deliveryOf i))
      = IssueLog.ofLines (batches.flatten.flatMap (IssueLog.block i.dbPath)) := by
  induction batches with
  | nil => rfl
  | cons batch rest ih =>
    rw [List.flatMap_cons, List.flatten_cons, List.flatMap_append, IssueLog.ofLines_append, ← ih]
    unfold deliveryOf
    split
    · next hempty =>
      rw [List.isEmpty_iff.mp hempty]
      exact (String.empty_append).symm
    · rw [List.singleton_append, IssueLog.renderAll_cons, IssueLog.renderBatch_eq]

/-- The report on some statements. -/
def reportOf (request : CheckRequest) (found : List String) (batches : List (List Issue)) :
    IssueReport :=
  ⟨request.dbPath, found.length, batches.flatten⟩

/-- What a check says is told by its batches. -/
theorem outcome_checkedOf (config : Config) (request : CheckRequest) (colored : Bool) (time : Nat)
    (found : List String) (whitelist : Whitelist) :
    (checkedOf config request colored time found whitelist).outcome
      = (let report := reportOf request found (batchesFor config request time found whitelist)
        ⟨Issue.exitCode report.issues, report.render request.format colored⟩) := by
  obtain ⟨i, -, hdeliveries⟩ :=
    exists_deliveries_checkedOf config request colored time found whitelist
  have hissues : (checkedOf config request colored time found whitelist).deliveries.flatMap
      Delivery.issues = (batchesFor config request time found whitelist).flatten := by
    rw [hdeliveries, flatMap_issues_flatMap_deliveryOf]
  unfold checkedOf at hissues ⊢
  dsimp only at hissues ⊢
  rw [hissues]
  rfl

/-! ### Running a check -/

/-- The text that a path names, of a file or of the standard input. -/
def textOf (input : String) (t : FileTree) (path : String) : Except Error String :=
  if path == "-" then .ok input
  else (FileTree.told (t.read path)).mapError (.unreadable path)

/-- The log of a request. -/
def logOf (config : Config) (request : CheckRequest) : Option IssueLog :=
  (request.log.orElse fun _ => config.logPath).map IssueLog.mk

/-- How a check goes on from its plan: a plan that is not refused is logged. -/
def conclude {m : Type → Type} [Monad m] (host : Host m) (log : Option IssueLog) :
    Except Error Checked → m (Except Error (Outcome × List Notice))
  | .error e => return .error e
  | .ok checked => do
    let told ← writeLog host log checked.deliveries
    return .ok (checked.outcome, checked.notices ++ told)

/-- A check reads its text, which changes nothing, and goes on from its plan. -/
theorem run_check (input : String) (environment : List (String × String)) (time : Nat)
    (write : String → String → StateM FileTree (Except String Unit)) (config : Config)
    (request : CheckRequest) (colors : Bool) (t : FileTree) :
    (check { hostAt input environment time with append := write } config request colors).run t
      = match textOf input t request.queries with
        | .error e => (.error e, t)
        | .ok text => (conclude { hostAt input environment time with append := write }
            (logOf config request)
            (planCheck config request (colors && !request.noColor) time text)).run t := by
  have hread : (readQueries { hostAt input environment time with append := write }
      request.queries).run t = (textOf input t request.queries, t) := by
    unfold readQueries textOf
    split <;> rfl
  unfold check
  rw [StateT.run_bind, hread]
  cases textOf input t request.queries <;> rfl

/-- A check on a machine reads the text, and goes on from its plan. -/
theorem run_check_hostAt (input : String) (environment : List (String × String)) (time : Nat)
    (config : Config) (request : CheckRequest) (colors : Bool) (t : FileTree) :
    (check (hostAt input environment time) config request colors).run t
      = match textOf input t request.queries with
        | .error e => (.error e, t)
        | .ok text => (conclude (hostAt input environment time) (logOf config request)
            (planCheck config request (colors && !request.noColor) time text)).run t :=
  run_check input environment time (hostAt input environment time).append config request colors t

/-- The outcome is that of the plan, however the log is written. -/
theorem outcome_conclude (host : Host (StateM FileTree)) (log : Option IssueLog)
    (plan : Except Error Checked) :
    ((conclude host log plan).run t).1.map Prod.fst = plan.map Checked.outcome := by
  cases plan <;> rfl

/-! ### How long executions have to take -/

/-- The configuration in which an execution counts if it takes so long. -/
def slowedConfig (config : Config) (ms : Nat) : Config :=
  { config with lint := { config.lint with minElapsedMs := ms } }

/-- Which execution counts has no bearing on a check. -/
theorem checkedOf_slowedConfig (config : Config) (request : CheckRequest) (colored : Bool)
    (time : Nat) (found : List String) (whitelist : Whitelist) (ms : Nat) :
    checkedOf (slowedConfig config ms) request colored time found whitelist
      = checkedOf config request colored time found whitelist := by
  have hengine : engineFor (slowedConfig config ms) request
      = slowed (engineFor config request) ms :=
    rfl
  unfold checkedOf
  dsimp only
  rw [hengine, replay_withMinElapsedMs]
  rfl

/-- How long an execution has to take does not matter to a check. -/
theorem check_slowedConfig {m : Type → Type} [Monad m] (host : Host m) (config : Config)
    (request : CheckRequest) (colors : Bool) (ms : Nat) :
    check host (slowedConfig config ms) request colors = check host config request colors := by
  have hplan : ∀ (colored : Bool) (time : Nat) (text : String),
      planCheck (slowedConfig config ms) request colored time text
        = planCheck config request colored time text := by
    intro colored time text
    rw [planCheck_eq, planCheck_eq]
    simp only [checkedOf_slowedConfig]
    rfl
  unfold check
  simp only [hplan]
  rfl

/-! ### The whole check -/

/-- What the log of a request gets: a block of lines for each issue of each batch. -/
def logText (request : CheckRequest) (batches : List (List Issue)) : String :=
  IssueLog.ofLines (batches.flatten.flatMap (IssueLog.block request.dbPath))

/-- What an accepted check comes to, by the batches that are delivered: its outcome, and the tree
behind it. -/
structure Completes (config : Config) (request : CheckRequest) (colored : Bool)
    (found : List String) (batches : List (List Issue)) (t after : FileTree) (outcome : Outcome) :
    Prop where
  output : outcome.output = (reportOf request found batches).render request.format colored
  exit_two_iff : outcome.exitCode = 2 ↔ ∃ i ∈ batches.flatten, i.level = .error
  exit_one_iff : outcome.exitCode = 1
    ↔ (∃ i ∈ batches.flatten, i.level = .warning) ∧ ¬ ∃ i ∈ batches.flatten, i.level = .error
  exit_zero_iff : outcome.exitCode = 0
    ↔ ¬ (∃ i ∈ batches.flatten, i.level = .warning) ∧ ¬ ∃ i ∈ batches.flatten, i.level = .error
  /-- A text report ends with a summary of how many issues there are of each level. -/
  summary : ∃ front, (reportOf request found batches).render .text colored
    = front ++ (reportOf request found batches).summary
  exit_two_iff_count : outcome.exitCode = 2 ↔ 0 < (reportOf request found batches).count .error
  exit_one_iff_count : outcome.exitCode = 1
    ↔ 0 < (reportOf request found batches).count .warning
      ∧ (reportOf request found batches).count .error = 0
  exit_zero_iff_count : outcome.exitCode = 0
    ↔ (reportOf request found batches).count .warning = 0
      ∧ (reportOf request found batches).count .error = 0
  /-- A log that can be written has all batches behind its old text. -/
  log_written : ∀ log, logOf config request = some log → t.Writable log.path →
    after.textAt? log.path = (t.textAt? log.path).map (· ++ logText request batches)
  /-- Nothing but the log is written. -/
  only_log : after = t ∨ ∃ log, logOf config request = some log
    ∧ t.append log.path (logText request batches) = .ok after

/-- A plan is concluded by writing its batches to the log. -/
theorem run_conclude (input : String) (environment : List (String × String)) (time : Nat)
    (t : FileTree) (log : Option IssueLog) (checked : Checked) :
    ∃ notices after, (conclude (hostAt input environment time) log (.ok checked)).run t
        = (.ok (checked.outcome, notices), after)
      ∧ (∀ l, log = some l → t.Writable l.path → after.textAt? l.path
        = (t.textAt? l.path).map (· ++ IssueLog.renderAll checked.deliveries))
      ∧ (after = t ∨ ∃ l, log = some l
        ∧ t.append l.path (IssueLog.renderAll checked.deliveries) = .ok after) := by
  have hrun : ∀ log told after,
      (writeLog (hostAt input environment time) log checked.deliveries).run t = (told, after) →
      (conclude (hostAt input environment time) log (.ok checked)).run t
        = (.ok (checked.outcome, checked.notices ++ told), after) := by
    intro log told after hwritten
    unfold conclude
    rw [StateT.run_bind, hwritten]
    rfl
  cases log with
  | none => exact ⟨_, t, hrun none [] t rfl, nofun, .inl rfl⟩
  | some log =>
    by_cases hwritable : t.Writable log.path
    · obtain ⟨after, hwritten, hafter⟩ :=
        writeLog_of_writable input environment time checked.deliveries hwritable
      refine ⟨_, after, hrun _ _ _ hwritten, ?_, ?_⟩
      · rintro _ ⟨⟩ -
        rcases hafter with ⟨rfl, hempty⟩ | happend
        · rw [hempty]
          simp
        · exact FileTree.textAt?_append happend
      · exact hafter.imp And.left fun happend => ⟨log, rfl, happend⟩
    · obtain ⟨told, hwritten⟩ :=
        writeLog_of_not_writable input environment time checked.deliveries hwritable
      refine ⟨_, t, hrun _ _ _ hwritten, ?_, .inl rfl⟩
      rintro _ ⟨⟩ hlog
      exact absurd hlog hwritable

/-- The check of an accepted text comes to what the batches of a replay say. -/
theorem completes_of_accepts (input : String) (environment : List (String × String))
    (config : Config) (request : CheckRequest) (colored : Bool) (time : Nat) (t : FileTree)
    (found : List String) (whitelist : Whitelist) :
    ∃ outcome notices after,
      (conclude (hostAt input environment time) (logOf config request)
          (.ok (checkedOf config request colored time found whitelist))).run t
        = (.ok (outcome, notices), after)
      ∧ Completes config request colored found
        (batchesFor config request time found whitelist) t after outcome := by
  obtain ⟨i, hpath, hdeliveries⟩ :=
    exists_deliveries_checkedOf config request colored time found whitelist
  have hlog : IssueLog.renderAll (checkedOf config request colored time found whitelist).deliveries
      = logText request (batchesFor config request time found whitelist) := by
    rw [hdeliveries, renderAll_flatMap_deliveryOf, hpath]
    rfl
  obtain ⟨notices, after, hrun, hwritten, honly⟩ := run_conclude input environment time t
    (logOf config request) (checkedOf config request colored time found whitelist)
  rw [hlog] at hwritten honly
  refine ⟨_, notices, after, hrun, ?_⟩
  rw [outcome_checkedOf]
  exact {
    output := rfl
    exit_two_iff := Issue.exitCode_eq_two_iff
    exit_one_iff := Issue.exitCode_eq_one_iff
    exit_zero_iff := Issue.exitCode_eq_zero_iff
    summary := IssueReport.exists_render_text_eq _ colored
    exit_two_iff_count := IssueReport.exitCode_eq_two_iff_count
    exit_one_iff_count := IssueReport.exitCode_eq_one_iff_count
    exit_zero_iff_count := IssueReport.exitCode_eq_zero_iff_count
    log_written := hwritten
    only_log := honly }

/-- Three statements, of which the last one has the shape of the first. -/
def loggedStatements : List String :=
  ["SELECT a FROM t WHERE a LIKE 'x' OR b = 1", "SELECT a FROM u WHERE a LIKE 'x' OR b = 1",
    "SELECT a FROM t WHERE a LIKE 'y' OR b = 2"]

/-- The statements as a text. -/
def loggedText : String := String.intercalate ";\n" loggedStatements

/-- The statements in the working directory, and a log with a line in it in another directory. -/
def loggedTree : FileTree :=
  (FileTree.empty.put "/var/log/lint.log" (.file (some "old\n"))).put "q.sql"
    (.file (some loggedText))

/-- A request for two checkers, one of which is suppressed for the table of the second statement. -/
def loggedRequest : CheckRequest :=
  ⟨"q.sql", "app.db", none, .text, ["or_condition", "fuzzy_match"], ["u=or_condition"],
    some "/var/log/lint.log", true⟩

/-- The logged request is accepted. -/
theorem accepts_loggedRequest :
    Accepts .default loggedRequest loggedText loggedStatements ⟨[("u", ["or_condition"])]⟩ where
  statements_eq := by decide +kernel
  whitelist_eq := by decide +kernel
  enabled_known := by
    have hknown : requireKnown (CheckerSet.ofSettings CheckerSettings.default).names
        loggedRequest.enable = .ok () := by decide +kernel
    exact requireKnown_eq_ok_iff.mp hknown
  whitelisted_known := by
    have hknown : requireKnown (CheckerSet.ofSettings CheckerSettings.default).names
        ["or_condition"] = .ok () := by decide +kernel
    exact requireKnown_eq_ok_iff.mp hknown

end QueryLint.Replay
