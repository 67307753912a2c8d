import QueryLint.Proofs.Registry.Operations
import QueryLint.Replay

/-!
# Batches of a replay

A replay has one database, which stays installed until the end, and queues nothing (`Single`). So
every statement is looked at where it stands, its issues are delivered in one batch or not at all
(`Single.notifyNow`), and the end of the replay delivers nothing more (`Single.shutdown`). What is
delivered are the batches of the statements in their order (`Single.deliveries_execute`).

How long an execution has to take never matters, since every replayed execution takes just that long
(`replay_withMinElapsedMs`).
-/

namespace QueryLint.Replay

variable {r : Registry} {i : Installation} {dbPath sql : String}

/-! ### One database -/

/-- The only database of a registry is installed, has nothing queued, and its subscriber lets it
be. -/
structure Single (r : Registry) (dbPath : String) (i : Installation) : Prop where
  databases : r.databases = OrderedMap.empty.insert dbPath 0
  installations : r.installations = [i]
  dbPath_eq : i.dbPath = dbPath
  phase : i.phase = .installed
  subscriber : i.subscriber = ⟨dbPath, false⟩
  queue : i.queue = []

namespace Single

/-- The only installation is the installed one of its path. -/
theorem installed? (h : Single r dbPath i) : r.installed? dbPath = some (0, i) := by
  rw [Registry.installed?_eq_some_iff, h.databases, OrderedMap.find?_insert, h.installations]
  exact ⟨if_pos (beq_self_eq_true dbPath), rfl, h.phase⟩

/-- The only installation has number zero. -/
theorem getElem?_zero (h : Single r dbPath i) : r.installations[0]? = some i := by
  rw [h.installations]
  rfl

/-- Changing the only installation changes the whole list. -/
theorem update (h : Single r dbPath i) (f : Installation → Installation) :
    r.update 0 f = { r with installations := [f i] } := by
  rw [Registry.update, h.installations]
  rfl

end Single

/-- The installation that has also seen a statement. -/
def seeing (i : Installation) (sql : String) : Installation :=
  { i with seen := (i.seen.insert (Fingerprint.ofSql sql)).2 }

/-- The issues of a statement, none if it was seen. -/
def newIssues (r : Registry) (i : Installation) (sql : String) : List Issue :=
  if i.seen.contains (Fingerprint.ofSql sql) then []
  else r.engine.issues i.policy i.dbPath r.time ⟨sql, 0, ""⟩

/-- The delivery of a batch, none if there is nothing in it. -/
def deliveryOf (i : Installation) (batch : List Issue) : List Delivery :=
  if batch.isEmpty then [] else [⟨0, i.subscriber, i.dbPath, batch⟩]

/-- What is told about a statement. -/
def warnings (r : Registry) (i : Installation) (sql : String) : List Notice :=
  if i.seen.contains (Fingerprint.ofSql sql) then []
  else List.replicate (r.engine.abandoned sql) (.abandoned i.dbPath r.engine.settings.maxDepth)

/-- The registry in which a statement was looked at. -/
def looked (r : Registry) (i : Installation) (sql : String) : Registry :=
  { r with
    installations := [seeing i sql]
    deliveries := r.deliveries ++ deliveryOf i (newIssues r i sql)
    notices := r.notices ++ warnings r i sql }

/-- How long an execution took is not told in its issues. -/
theorem issues_of_elapsed (e : Engine) (policy : Policy) (dbPath sql extInfo : String)
    (time elapsed other : Nat) :
    e.issues policy dbPath time ⟨sql, elapsed, extInfo⟩
      = e.issues policy dbPath time ⟨sql, other, extInfo⟩ := rfl

/-- A statement that is new delivers all of its issues. -/
theorem newIssues_of_new (hnew : i.seen.contains (Fingerprint.ofSql sql) = false) :
    newIssues r i sql = r.engine.issues i.policy i.dbPath r.time ⟨sql, 0, ""⟩ := by
  rw [newIssues, hnew]
  exact if_neg Bool.false_ne_true

/-- A statement that is new is warned about once for each walk that was abandoned. -/
theorem warnings_of_new (hnew : i.seen.contains (Fingerprint.ofSql sql) = false) :
    warnings r i sql
      = List.replicate (r.engine.abandoned sql)
        (.abandoned i.dbPath r.engine.settings.maxDepth) := by
  rw [warnings, hnew]
  exact if_neg Bool.false_ne_true

/-- A statement that was seen leaves the memory as it is. -/
theorem seeing_of_seen (hseen : i.seen.contains (Fingerprint.ofSql sql) = true) :
    seeing i sql = i := by
  rw [seeing, Fingerprint.Seen.insert, Fingerprint.Seen.insertBy_of_contains .oldest hseen]

namespace Single

/-- A statement that was seen leaves the registry as it is. -/
theorem looked_of_seen (h : Single r dbPath i)
    (hseen : i.seen.contains (Fingerprint.ofSql sql) = true) : looked r i sql = r := by
  rw [looked, seeing_of_seen hseen, newIssues, if_pos hseen, warnings, if_pos hseen, deliveryOf,
    if_pos List.isEmpty_nil, List.append_nil, List.append_nil, ← h.installations]

/-- Issues that are delivered change nothing else, since their subscriber lets the database be. -/
theorem publish (h : Single r dbPath i) (issues : List Issue) :
    r.publish 0 issues
      = (true, { r with deliveries := r.deliveries ++ [⟨0, i.subscriber, i.dbPath, issues⟩] }) := by
  have hreaction : r.reaction 0 = [] := by
    rw [Registry.reaction, h.getElem?_zero]
    dsimp only
    rw [h.subscriber]
    rfl
  rw [Registry.publish, hreaction,
    Registry.publishBy_of_installed [] issues h.getElem?_zero h.phase]
  rfl

/-- Looking at a statement leaves the database the only one. -/
theorem looked (h : Single r dbPath i) (sql : String) :
    Single (looked r i sql) dbPath (seeing i sql) :=
  ⟨h.databases, rfl, h.dbPath_eq, h.phase, h.subscriber, h.queue⟩

/-- A statement that counts is looked at, and its issues are delivered at once. -/
theorem notifyNow (h : Single r dbPath i) (sql : String) :
    (r.notifyNow dbPath ⟨sql, r.engine.settings.minElapsedMs, ""⟩).2 = Replay.looked r i sql := by
  -- The rewriting below must not reach into the elapsed time of the execution.
  generalize hx : (⟨sql, r.engine.settings.minElapsedMs, ""⟩ : Execution) = x
  have hsql : x.sql = sql := by rw [← hx]
  have htime : r.engine.settings.minElapsedMs ≤ x.elapsedMs := by rw [← hx]
  have hissues : ∀ policy, r.engine.issues policy i.dbPath r.time x
      = r.engine.issues policy i.dbPath r.time ⟨sql, 0, ""⟩ := by
    intro policy
    rw [← hx]
    exact issues_of_elapsed _ _ _ _ _ _ _ _
  unfold Registry.notifyNow
  rw [h.installed?]
  dsimp only
  unfold Registry.execute Registry.examine
  cases hseen : i.seen.contains (Fingerprint.ofSql sql) with
  | true =>
    rw [Registry.examineBy_of_seen .oldest h.getElem?_zero (hsql ▸ hseen), h.looked_of_seen hseen]
    rfl
  | false =>
    rw [Registry.examineBy_of_admitted .oldest h.getElem?_zero h.phase htime (hsql ▸ hseen),
      hissues, ← newIssues_of_new hseen, hsql, ← warnings_of_new hseen, h.update]
    dsimp only
    cases hempty : (newIssues r i sql).isEmpty with
    | true =>
      rw [if_pos rfl, Replay.looked, deliveryOf, hempty, if_pos rfl, List.append_nil]
      rfl
    | false =>
      rw [if_neg Bool.false_ne_true, Replay.looked, deliveryOf, hempty, if_neg Bool.false_ne_true]
      have hsingle : Single { r with
          installations := [seeing i sql]
          notices := r.notices ++ warnings r i sql } dbPath (seeing i sql) :=
        ⟨h.databases, rfl, h.dbPath_eq, h.phase, h.subscriber, h.queue⟩
      exact congrArg Prod.snd (hsingle.publish (newIssues r i sql))

/-! ### The end -/

/-- The registry whose installation is being uninstalled. -/
def ending (r : Registry) (i : Installation) : Registry :=
  { r with installations := [{ i with phase := .uninstalling }] }

/-- Uninstalling all databases uninstalls the only one. -/
theorem uninstallAll (h : Single r dbPath i) : r.uninstallAll = (true, ending r i) := by
  have hkeys : r.databases.keys = [dbPath] := by
    rw [h.databases]
    rfl
  have hinstalled : r.installed = [dbPath] := by
    rw [Registry.installed, hkeys, List.filter_cons, Registry.isInstalled, h.installed?]
    simp
  rw [Registry.uninstallAll, hinstalled, Registry.uninstallEach, Registry.uninstall, h.installed?]
  dsimp only
  rw [h.update]
  rfl

/-- Nothing is queued, so the installation is over at once. -/
theorem drain_ending (h : Single r dbPath i) :
    (ending r i).drain = { r with
      installations := [{ i with phase := .uninstalled }]
      databases := .empty
      notices := r.notices ++ [.uninstalled dbPath] } := by
  obtain rfl := h.dbPath_eq
  have hqueued : (ending r i).queued 0 = 0 := congrArg List.length h.queue
  have hsettled : (ending r i).drain = (ending r i).finish 0 := by
    change Registry.settle (ending r i) 0 = _
    rw [Registry.settle, hqueued]
    rfl
  have hdone : Installation.isDone { i with phase := .uninstalling } = true := by
    rw [Installation.isDone, h.queue]
    rfl
  have hcurrent : r.databases.find? i.dbPath = some 0 := by
    rw [h.databases, OrderedMap.find?_insert, beq_self_eq_true, if_pos rfl]
  have herased : r.databases.erase i.dbPath = .empty := by
    rw [h.databases]
    simp [OrderedMap.insert, OrderedMap.alter, OrderedMap.alterEntries, OrderedMap.erase,
      OrderedMap.empty]
  rw [hsettled]
  unfold Registry.finish ending
  simp only [List.getElem?_cons_zero, hdone, if_true, hcurrent, beq_self_eq_true,
    Registry.update_databases, herased]
  rfl

/-- The end of a replay ends its installation and delivers nothing. -/
theorem shutdown (h : Single r dbPath i) :
    r.shutdown = { r with
      installations := [{ i with phase := .uninstalled }]
      databases := .empty
      notices := r.notices ++ [.uninstalled dbPath, .shutDown] } := by
  unfold Registry.shutdown
  rw [h.uninstallAll]
  dsimp only
  rw [if_pos rfl, h.drain_ending, Registry.tell]
  dsimp only
  rw [List.append_assoc]
  rfl

end Single

/-! ### All statements -/

/-- The issues that each of some statements newly delivers when they are executed one after the
other. -/
def batches (dbPath : String) : List String → Registry → List (List Issue)
  | [], _ => []
  | sql :: rest, r =>
    let executed := (r.notifyNow dbPath ⟨sql, r.engine.settings.minElapsedMs, ""⟩).2
    (executed.deliveries.drop r.deliveries.length).flatMap Delivery.issues
      :: batches dbPath rest executed

/-- The deliveries of a batch hold exactly its issues. -/
theorem flatMap_issues_deliveryOf (i : Installation) (batch : List Issue) :
    (deliveryOf i batch).flatMap Delivery.issues = batch := by
  unfold deliveryOf
  split
  · next hempty => rw [List.isEmpty_iff.mp hempty, List.flatMap_nil]
  · rw [List.flatMap_singleton]

/-- Having seen a statement does not change to whom a batch goes. -/
theorem deliveryOf_seeing (i : Installation) (sql : String) :
    deliveryOf (seeing i sql) = deliveryOf i := rfl

namespace Single

/-- Executing some statements is looking at the first one and executing the others. -/
theorem execute_cons (h : Single r dbPath i) (sql : String) (rest : List String) :
    execute r dbPath (sql :: rest) = execute (Replay.looked r i sql) dbPath rest := by
  rw [execute, List.foldl_cons, h.notifyNow]
  rfl

/-- The batches of some statements are the new issues of the first one and the batches of the
others. -/
theorem batches_cons (h : Single r dbPath i) (sql : String) (rest : List String) :
    batches dbPath (sql :: rest) r
      = newIssues r i sql :: batches dbPath rest (Replay.looked r i sql) := by
  rw [batches, h.notifyNow]
  rw [Replay.looked, List.drop_left, flatMap_issues_deliveryOf]

/-- What is delivered are the batches of the statements, each at most once and in their order. -/
theorem execute (h : Single r dbPath i) (found : List String) :
    ∃ last, Single (execute r dbPath found) dbPath last
      ∧ (execute r dbPath found).deliveries
        = r.deliveries ++ (batches dbPath found r).flatMap (deliveryOf i) := by
  induction found generalizing r i with
  | nil => exact ⟨i, h, (List.append_nil r.deliveries).symm⟩
  | cons sql rest ih =>
    obtain ⟨last, hlast, hdeliveries⟩ := ih (h.looked sql)
    rw [h.execute_cons, h.batches_cons]
    refine ⟨last, hlast, ?_⟩
    rw [hdeliveries, Replay.looked, List.flatMap_cons, deliveryOf_seeing, List.append_assoc]

/-- A change of the policy leaves the database the only one. -/
theorem changePolicy (h : Single r dbPath i) (f : Policy → Policy) :
    Single (r.update 0 fun i => { i with policy := f i.policy }) dbPath
      { i with policy := f i.policy } := by
  rw [h.update]
  exact ⟨h.databases, rfl, h.dbPath_eq, h.phase, h.subscriber, h.queue⟩

/-- Enabling a checker leaves the database the only one, and delivers nothing. -/
theorem enableChecker (h : Single r dbPath i) (checker : String) :
    ∃ next, Single (r.enableChecker dbPath checker) dbPath next
      ∧ (r.enableChecker dbPath checker).deliveries = r.deliveries := by
  have htold : Single (r.tell (.enabling dbPath checker)) dbPath i :=
    ⟨h.databases, h.installations, h.dbPath_eq, h.phase, h.subscriber, h.queue⟩
  unfold Registry.enableChecker
  rw [h.installed?]
  dsimp only
  split
  · exact ⟨_, h.changePolicy fun p => (p.enable checker).2, rfl⟩
  · exact ⟨_, htold.changePolicy fun p => (p.enable checker).2, rfl⟩

/-- Setting a whitelist leaves the database the only one, and delivers nothing. -/
theorem setWhitelist (h : Single r dbPath i) (whitelist : Whitelist) :
    ∃ next, Single (r.setWhitelist dbPath whitelist) dbPath next
      ∧ (r.setWhitelist dbPath whitelist).deliveries = r.deliveries := by
  unfold Registry.setWhitelist
  rw [h.installed?]
  exact ⟨_, h.changePolicy (·.setWhitelist whitelist), rfl⟩

end Single

/-- A database installed in a new registry is the only one. -/
theorem single_install (engine : Engine) (time : Nat) (dbPath : String) :
    Single ((Registry.new engine time).install dbPath ⟨dbPath, false⟩) dbPath
      (.start dbPath ⟨dbPath, false⟩ engine.settings.maxSeenStatements) :=
  ⟨rfl, rfl, rfl, rfl, rfl, rfl⟩

/-- A replay begins with its database and without deliveries. -/
theorem exists_single_prepare (engine : Engine) (time : Nat) (dbPath : String)
    (enable : List String) (whitelist : Whitelist) :
    ∃ i, Single (prepare engine time dbPath enable whitelist) dbPath i
      ∧ (prepare engine time dbPath enable whitelist).deliveries = [] := by
  have henabled : ∀ (enable : List String) (r : Registry) (i : Installation), Single r dbPath i →
      r.deliveries = [] →
      ∃ next, Single (enable.foldl (fun r checker => r.enableChecker dbPath checker) r) dbPath next
        ∧ (enable.foldl (fun r checker => r.enableChecker dbPath checker) r).deliveries = [] := by
    intro enable
    induction enable with
    | nil => exact fun r i h hnone => ⟨i, h, hnone⟩
    | cons checker rest ih =>
      intro r i h hnone
      obtain ⟨next, hnext, hkept⟩ := h.enableChecker checker
      exact ih _ next hnext (hkept.trans hnone)
  obtain ⟨i, hi, hnone⟩ := henabled enable _ _ (single_install engine time dbPath) rfl
  obtain ⟨next, hnext, hkept⟩ := hi.setWhitelist whitelist
  exact ⟨next, hnext, hkept.trans hnone⟩

/-! ### How long executions have to take -/

section Elapsed

variable (ms : Nat)

/-- The engine for which an execution counts if it takes so long. -/
def slowed (engine : Engine) (ms : Nat) : Engine :=
  { engine with settings := { engine.settings with minElapsedMs := ms } }

/-- The registry in which an execution counts if it takes so long. -/
def withMinElapsedMs (r : Registry) (ms : Nat) : Registry :=
  { r with engine := slowed r.engine ms }

/-- Which execution counts has no bearing on what is installed. -/
theorem installed?_withMinElapsedMs (r : Registry) (dbPath : String) :
    (withMinElapsedMs r ms).installed? dbPath = r.installed? dbPath := rfl

/-- Enabling a checker does not look at which execution counts. -/
theorem enableChecker_withMinElapsedMs (r : Registry) (dbPath checker : String) :
    (withMinElapsedMs r ms).enableChecker dbPath checker
      = withMinElapsedMs (r.enableChecker dbPath checker) ms := by
  unfold Registry.enableChecker
  rw [installed?_withMinElapsedMs]
  cases r.installed? dbPath with
  | none => rfl
  | some found =>
    by_cases hknown : r.engine.checkers.contains checker = true
    · simp only [withMinElapsedMs, slowed, hknown, if_true]
      rfl
    · simp only [withMinElapsedMs, slowed, hknown]
      rfl

/-- Setting a whitelist does not look at which execution counts. -/
theorem setWhitelist_withMinElapsedMs (r : Registry) (dbPath : String) (whitelist : Whitelist) :
    (withMinElapsedMs r ms).setWhitelist dbPath whitelist
      = withMinElapsedMs (r.setWhitelist dbPath whitelist) ms := by
  unfold Registry.setWhitelist
  rw [installed?_withMinElapsedMs]
  cases r.installed? dbPath <;> rfl

/-- A prepared registry differs in nothing but in which execution counts. -/
theorem prepare_withMinElapsedMs (engine : Engine) (time : Nat) (dbPath : String)
    (enable : List String) (whitelist : Whitelist) :
    prepare (slowed engine ms) time dbPath enable whitelist
      = withMinElapsedMs (prepare engine time dbPath enable whitelist) ms := by
  have henabled : ∀ (enable : List String) (r : Registry),
      enable.foldl (fun r checker => r.enableChecker dbPath checker) (withMinElapsedMs r ms)
        = withMinElapsedMs
          (enable.foldl (fun r checker => r.enableChecker dbPath checker) r) ms := by
    intro enable
    induction enable with
    | nil => exact fun r => rfl
    | cons checker rest ih =>
      intro r
      rw [List.foldl_cons, enableChecker_withMinElapsedMs, ih]
      rfl
  unfold prepare
  rw [← setWhitelist_withMinElapsedMs, ← henabled]
  rfl

/-- The only database stays so whichever execution counts. -/
theorem Single.withMinElapsedMs (h : Single r dbPath i) :
    Single (withMinElapsedMs r ms) dbPath i :=
  ⟨h.databases, h.installations, h.dbPath_eq, h.phase, h.subscriber, h.queue⟩

/-- Replayed executions always take just as long as they have to. -/
theorem Single.execute_withMinElapsedMs (h : Single r dbPath i) (found : List String) :
    Replay.execute (Replay.withMinElapsedMs r ms) dbPath found
      = Replay.withMinElapsedMs (Replay.execute r dbPath found) ms := by
  induction found generalizing r i with
  | nil => rfl
  | cons sql rest ih =>
    have hlooked : Replay.looked (Replay.withMinElapsedMs r ms) i sql
        = Replay.withMinElapsedMs (Replay.looked r i sql) ms := rfl
    rw [(h.withMinElapsedMs ms).execute_cons, h.execute_cons, hlooked, ih (h.looked sql)]

/-- Shutting down does not look at which execution counts. -/
theorem Single.shutdown_withMinElapsedMs (h : Single r dbPath i) :
    (Replay.withMinElapsedMs r ms).shutdown = Replay.withMinElapsedMs r.shutdown ms := by
  rw [(h.withMinElapsedMs ms).shutdown, h.shutdown]
  rfl

/-- How long executions have to take changes nothing in a replay but itself. -/
theorem replay_withMinElapsedMs (engine : Engine) (time : Nat) (dbPath : String)
    (enable : List String) (whitelist : Whitelist) (found : List String) :
    (Replay.execute (prepare (slowed engine ms) time dbPath enable whitelist)
        dbPath found).shutdown
      = withMinElapsedMs (Replay.execute (prepare engine time dbPath enable whitelist) dbPath
        found).shutdown ms := by
  obtain ⟨i, hi, -⟩ := exists_single_prepare engine time dbPath enable whitelist
  obtain ⟨last, hlast, -⟩ := hi.execute found
  rw [prepare_withMinElapsedMs, hi.execute_withMinElapsedMs, hlast.shutdown_withMinElapsedMs]

end Elapsed

end QueryLint.Replay
