import QueryLint.Proofs.Policies
import QueryLint.Proofs.Registry.Agreement
import QueryLint.Proofs.Registry.Effects

/-!
# Policies only filter

What the checkers find in a statement does not depend on the policy (`Engine.raised`); the policy
decides which of it becomes an issue (`Engine.issues_eq_number`). Checkers that are not enabled do
not run and whitelisted findings are taken out afterwards, but both come to leaving findings out of
one list, query by query and checker by checker. So what is delivered after some calls that change
the policy is what would have been delivered without them, restricted to what the calls permit
(`policy_filters_batch`).
-/

namespace QueryLint

/-- An issue without its identifier. -/
def Issue.nameless (issue : Issue) : Issue := { issue with id := "" }

/-! ### Findings -/

/-- What all checkers of a set find in a query, each finding with the name of the checker that
raised it. -/
def CheckerSet.raised (set : CheckerSet) (sql : String) (s : Signals) : List (String × Finding) :=
  set.checkers.flatMap fun c => (c.check sql s).map fun f => (c.name, set.withSeverity f)

/-- Findings that are kept after a run are those that are raised and kept, by the active
checkers. -/
theorem CheckerSet.filter_run (set : CheckerSet) (sql : String) (s : Signals)
    (isActive : String → Bool) (keeps : Finding → Bool) :
    (set.run sql s isActive).filter keeps
      = ((set.raised sql s).filter fun found => isActive found.1 && keeps found.2).map
        Prod.snd := by
  rw [run, raised]
  induction set.checkers with
  | nil => rfl
  | cons c rest ih =>
    have hown : (((c.check sql s).map fun f => (c.name, set.withSeverity f)).filter
        fun found => isActive found.1 && keeps found.2).map Prod.snd
        = if isActive c.name then ((c.check sql s).map set.withSeverity).filter keeps else [] := by
      cases hactive : isActive c.name <;> simp [List.filter_map, Function.comp_def, hactive]
    rw [List.flatMap_cons, List.filter_append, List.map_append, hown, ← ih, List.filter_cons]
    split
    · rw [List.flatMap_cons, List.map_append, List.filter_append]
    · rfl

namespace Checker

/-- What a built-in checker finds has its name. -/
theorem checker_of_mem_check {c : Checker} (hc : c ∈ builtIn) {sql : String} {s : Signals}
    {f : Finding} (hf : f ∈ c.check sql s) : f.checker = c.name := by
  have hflag : ∀ {name severity flag desc detail advice},
      f ∈ (ofFlag name severity flag desc detail advice).check sql s → f.checker = name := by
    intro name severity flag desc detail advice h
    unfold ofFlag at h
    dsimp only at h
    split at h
    · obtain rfl := List.mem_singleton.mp h
      rfl
    · cases h
  simp only [builtIn, List.mem_cons, List.not_mem_nil, or_false] at hc
  rcases hc with rfl | rfl | rfl | rfl | rfl | rfl
  · obtain ⟨columns, -, rfl⟩ := List.mem_map.mp hf
    rfl
  all_goals exact hflag hf

end Checker

namespace Engine

/-- What all checkers find in the queries of a text that were walked to their end. -/
def raised (e : Engine) (sql : String) : List (String × Finding) :=
  ((e.analyses sql).filter fun a => !a.truncated).flatMap fun a => e.checkers.raised sql a.signals

/-- The issues for what was found, numbered from zero on. -/
def number (dbPath : String) (time : Nat) (x : Execution) (found : List (String × Finding)) :
    List Issue :=
  found.mapIdx fun ordinal f =>
    Issue.ofFinding dbPath x.sql (Fingerprint.ofSql x.sql) ordinal.toUInt64 x.extInfo time f.2

variable {e : Engine} {policy : Policy} {sql dbPath : String} {time : Nat} {x : Execution}

/-- The findings under a policy are those of all findings that it lets pass. -/
theorem findings_eq_filter (e : Engine) (policy : Policy) (sql : String) :
    e.findings policy sql
      = ((e.raised sql).filter fun found =>
        policy.isEnabled found.1 && !policy.suppresses found.2).map Prod.snd := by
  rw [findings, raised]
  induction e.analyses sql with
  | nil => rfl
  | cons a rest ih =>
    rw [List.flatMap_cons, ih, findingsOf, List.filter_cons]
    cases a.truncated with
    | true => rfl
    | false =>
      have hown :=
        e.checkers.filter_run sql a.signals policy.isEnabled fun f => !policy.suppresses f
      simp only [Bool.false_eq_true, if_false, Bool.not_false, if_true, List.flatMap_cons,
        List.filter_append, List.map_append, hown]

/-- The issues of an execution are the raised findings that the policy lets through, numbered. -/
theorem issues_eq_number (e : Engine) (policy : Policy) (dbPath : String) (time : Nat)
    (x : Execution) :
    e.issues policy dbPath time x
      = number dbPath time x ((e.raised x.sql).filter fun found =>
        policy.isEnabled found.1 && !policy.suppresses found.2) := by
  rw [issues, findings_eq_filter, number]
  refine List.ext_getElem (by simp) fun k hk hk' => ?_
  simp

/-- Without their identifiers, issues do not tell how they are numbered. -/
theorem map_nameless_number (dbPath : String) (time : Nat) (x : Execution)
    (found : List (String × Finding)) :
    (number dbPath time x found).map Issue.nameless
      = found.map fun f =>
        (Issue.ofFinding dbPath x.sql (Fingerprint.ofSql x.sql) 0 x.extInfo time f.2).nameless := by
  refine List.ext_getElem (by simp [number]) fun k hk hk' => ?_
  simp [number, Issue.nameless, Issue.ofFinding]

/-- What is raised in a text is raised by a checker in a query. -/
theorem exists_checker_of_mem_raised {found : String × Finding} (h : found ∈ e.raised sql) :
    ∃ c ∈ e.checkers.checkers, ∃ a ∈ e.analyses sql, ∃ f ∈ c.check sql a.signals,
      found = (c.name, e.checkers.withSeverity f) := by
  obtain ⟨a, ha, h⟩ := List.mem_flatMap.mp h
  obtain ⟨c, hc, h⟩ := List.mem_flatMap.mp h
  obtain ⟨f, hf, rfl⟩ := List.mem_map.mp h
  exact ⟨c, hc, a, (List.mem_filter.mp ha).1, f, hf, rfl⟩

/-- If all checkers are built in, findings are raised by the checkers whose names they have. -/
theorem checker_of_mem_raised (hbuiltIn : ∀ c ∈ e.checkers.checkers, c ∈ Checker.builtIn)
    {found : String × Finding} (h : found ∈ e.raised sql) : found.2.checker = found.1 := by
  obtain ⟨c, hc, a, -, f, hf, rfl⟩ := exists_checker_of_mem_raised h
  rw [CheckerSet.withSeverity_checker]
  exact Checker.checker_of_mem_check (hbuiltIn c hc) hf

end Engine

/-! ### Deliveries -/

/-- The registry after a call that changes the policy of a database. -/
def Policy.Call.run (dbPath : String) : Policy.Call → Registry → Registry
  | enable checker, r => r.enableChecker dbPath checker
  | setWhitelist whitelist, r => r.setWhitelist dbPath whitelist

namespace Registry

variable {r : Registry} {dbPath : String} {n : Nat} {i : Installation} {x : Execution}

/-- What is delivered of the issues of an execution: nothing if there are none. -/
def deliveriesOf (n : Nat) (i : Installation) (issues : List Issue) : List Delivery :=
  if issues.isEmpty then [] else [⟨n, i.subscriber, i.dbPath, issues⟩]

/-- A database that is installed stays so when its installation is updated within its phase. -/
theorem installed?_update (f : Installation → Installation) (hf : (f i).phase = i.phase)
    (hi : r.installed? dbPath = some (n, i)) :
    (r.update n f).installed? dbPath = some (n, f i) := by
  obtain ⟨hn, hget, hphase⟩ := installed?_eq_some_iff.mp hi
  exact installed?_eq_some_iff.mpr ⟨hn, getElem?_update_self f hget, hf.trans hphase⟩

/-- A call that changes the policy of a database that is installed changes nothing else, apart from
what is told. -/
theorem call_run (call : Policy.Call) (hi : r.installed? dbPath = some (n, i)) :
    (call.run dbPath r).installed? dbPath = some (n, { i with policy := call.apply i.policy })
      ∧ (call.run dbPath r).engine = r.engine ∧ (call.run dbPath r).time = r.time
      ∧ (call.run dbPath r).deliveries = r.deliveries := by
  cases call with
  | enable checker =>
    have htold : (if r.engine.checkers.contains checker then r
        else r.tell (.enabling dbPath checker)).installed? dbPath = some (n, i) := by
      split <;> exact hi
    rw [Policy.Call.run, enableChecker, hi]
    refine ⟨installed?_update _ rfl htold, ?_⟩
    dsimp only [update]
    split <;> exact ⟨rfl, rfl, rfl⟩
  | setWhitelist whitelist =>
    rw [Policy.Call.run, setWhitelist, hi]
    exact ⟨installed?_update _ rfl hi, rfl, rfl, rfl⟩

/-- Policy calls for an installed database change its policy, call by call, and nothing else. -/
theorem calls_run (calls : List Policy.Call) (hi : r.installed? dbPath = some (n, i)) :
    let after := calls.foldl (fun r call => call.run dbPath r) r
    after.installed? dbPath = some (n, { i with policy := calls.foldl Policy.Call.apply i.policy })
      ∧ after.engine = r.engine ∧ after.time = r.time ∧ after.deliveries = r.deliveries := by
  induction calls generalizing r i with
  | nil => exact ⟨hi, rfl, rfl, rfl⟩
  | cons call rest ih =>
    obtain ⟨hinstalled, hengine, htime, hdeliveries⟩ := call_run call hi
    obtain ⟨hinstalled', hengine', htime', hdeliveries'⟩ := ih hinstalled
    exact ⟨hinstalled', hengine'.trans hengine, htime'.trans htime, hdeliveries'.trans hdeliveries⟩

/-- Looking at an execution that is long enough and new on an installation finds its issues, and
changes nothing that delivering them depends on. -/
theorem examineBy_of_fresh (forget : Fingerprint.Seen.Forgetting)
    (hi : r.installations[n]? = some i) (hphase : i.phase = .installed)
    (htime : r.engine.settings.minElapsedMs ≤ x.elapsedMs)
    (hseen : i.seen.contains (Fingerprint.ofSql x.sql) = false) :
    ∃ examined seen, r.examineBy forget n x = (r.engine.issues i.policy i.dbPath r.time x, examined)
      ∧ examined.installations[n]? = some { i with seen } ∧ examined.deliveries = r.deliveries :=
  ⟨_, _, examineBy_of_admitted forget hi hphase htime hseen, getElem?_update_self _ hi, rfl⟩

/-- An execution that is long enough and new on an installation delivers its issues, whatever the
conduct. -/
theorem deliveries_executeBy (c : Conduct) (hi : r.installations[n]? = some i)
    (hphase : i.phase = .installed) (htime : r.engine.settings.minElapsedMs ≤ x.elapsedMs)
    (hseen : i.seen.contains (Fingerprint.ofSql x.sql) = false) :
    (r.executeBy c n x).deliveries
      = r.deliveries ++ deliveriesOf n i (r.engine.issues i.policy i.dbPath r.time x) := by
  obtain ⟨examined, seen, hexamine, hexamined, hsame⟩ :=
    examineBy_of_fresh c.forget hi hphase htime hseen
  rw [executeBy, hexamine, deliveriesOf]
  dsimp only
  split
  · rw [List.append_nil, hsame]
  · rw [publishBy_of_installed _ _ hexamined hphase, ← hsame]
    exact (quiet_uninstallEach _ _).deliveries

/-- The identifiers of the issues that such an execution delivers are what looking at it at once
yields. -/
theorem execute_fst (hi : r.installations[n]? = some i)
    (hphase : i.phase = .installed) (htime : r.engine.settings.minElapsedMs ≤ x.elapsedMs)
    (hseen : i.seen.contains (Fingerprint.ofSql x.sql) = false) :
    (r.execute n x).1 = (r.engine.issues i.policy i.dbPath r.time x).map Issue.id := by
  obtain ⟨examined, seen, hexamine, hexamined, -⟩ :=
    examineBy_of_fresh .oldest hi hphase htime hseen
  rw [execute, examine, hexamine]
  dsimp only
  split
  · next hempty =>
    rw [List.isEmpty_iff.mp hempty]
    rfl
  · rw [publish, publishBy_of_installed _ _ hexamined hphase]
    rfl

/-- What an execution delivers, at once and from the head of the queue, and what it yields at once,
on an installation with the policy that some calls lead to. -/
theorem delivered_of_ofCalls (calls : List Policy.Call) (hi : r.installed? dbPath = some (n, i))
    (hpolicy : i.policy = .ofCalls calls) (htime : r.engine.settings.minElapsedMs ≤ x.elapsedMs)
    (hseen : i.seen.contains (Fingerprint.ofSql x.sql) = false) :
    let batch := Engine.number i.dbPath r.time x
      ((r.engine.raised x.sql).filter fun found => Policy.Permits calls found)
    (∀ c, (r.notifyNowBy c dbPath x).deliveries = r.deliveries ++ deliveriesOf n i batch)
      ∧ (∀ c rest, i.queue = .execution x :: rest →
        (r.workBy c n).deliveries = r.deliveries ++ deliveriesOf n i batch)
      ∧ (r.notifyNow dbPath x).1 = batch.map Issue.id := by
  intro batch
  obtain ⟨-, hget, hphase⟩ := installed?_eq_some_iff.mp hi
  have hbatch : r.engine.issues i.policy i.dbPath r.time x = batch := by
    rw [Engine.issues_eq_number, hpolicy]
    refine congrArg _ (List.filter_congr fun found _ => ?_)
    rw [Bool.eq_iff_iff, decide_eq_true_iff]
    exact Policy.permits_ofCalls_iff
  refine ⟨fun c => ?_, fun c rest hqueue => ?_, ?_⟩
  · rw [notifyNowBy, hi, ← hbatch]
    exact deliveries_executeBy c hget hphase htime hseen
  · have hinstalled : (i.phase == .installed) = true := beq_iff_eq.mpr hphase
    have htaken : (r.update n fun i => { i with queue := rest }).installations[n]?
        = some { i with queue := rest } := getElem?_update_self _ hget
    rw [workBy, take_of_queue_eq_cons hget hqueue, hinstalled, if_pos rfl, ← hbatch]
    have hdelivered := deliveries_executeBy c htaken hphase htime hseen
    exact hdelivered
  · rw [notifyNow, hi, ← hbatch]
    exact execute_fst hget hphase htime hseen

/-- A policy only filters. Let a database be installed under the empty policy, and let some calls
change the policy. An execution that is long enough and new delivers what it would have delivered
before the calls, in the same order and apart from the identifiers, restricted to the findings that
the calls permit. This is so whether it is looked at at once or from the queue, and whatever the
conduct. Queries that were not walked to their end add nothing and take nothing away. No batch
without issues is delivered, and the identifiers that are yielded are those of the batch, or none
without a batch. -/
theorem policy_filters_batch (hi : r.installed? dbPath = some (n, i))
    (hpolicy : i.policy = .default) (htime : r.engine.settings.minElapsedMs ≤ x.elapsedMs)
    (hseen : i.seen.contains (Fingerprint.ofSql x.sql) = false) (calls : List Policy.Call) :
    let limited := calls.foldl (fun r call => call.run dbPath r) r
    let all := r.engine.raised x.sql
    let kept := all.filter fun found => Policy.Permits calls found
    let batch := Engine.number i.dbPath r.time x
    let text (found : String × Finding) : Issue :=
      (Issue.ofFinding i.dbPath x.sql (Fingerprint.ofSql x.sql) 0 x.extInfo r.time found.2).nameless
    (∀ c, (r.notifyNowBy c dbPath x).deliveries = r.deliveries ++ deliveriesOf n i (batch all)
        ∧ (limited.notifyNowBy c dbPath x).deliveries
          = r.deliveries ++ deliveriesOf n i (batch kept))
      ∧ (∀ c rest, i.queue = .execution x :: rest →
        (r.workBy c n).deliveries = r.deliveries ++ deliveriesOf n i (batch all)
          ∧ (limited.workBy c n).deliveries = r.deliveries ++ deliveriesOf n i (batch kept))
      ∧ (limited.notifyNow dbPath x).2.deliveries = r.deliveries ++ deliveriesOf n i (batch kept)
      ∧ (limited.notifyNow dbPath x).1 = (batch kept).map Issue.id
      ∧ (batch all).map Issue.nameless = all.map text
      ∧ (batch kept).map Issue.nameless = kept.map text
      ∧ ((∀ c ∈ r.engine.checkers.checkers, c ∈ Checker.builtIn) →
        ∀ found ∈ all, found.2.checker = found.1) := by
  intro limited all kept batch text
  obtain ⟨hlimited, hengine, hclock, hdeliveries⟩ := calls_run calls hi
  -- Without calls every finding is permitted.
  have hall : all.filter (fun found => decide (Policy.Permits [] found)) = all :=
    List.filter_eq_self.mpr fun found _ => decide_eq_true (Policy.permits_nil found)
  obtain ⟨hnow, hqueued, -⟩ := delivered_of_ofCalls [] hi hpolicy htime hseen
  rw [hall] at hnow hqueued
  have hcalls : calls.foldl Policy.Call.apply i.policy = .ofCalls calls := by
    rw [hpolicy]
    rfl
  have htime' : limited.engine.settings.minElapsedMs ≤ x.elapsedMs := by rwa [hengine]
  obtain ⟨hnow', hqueued', hids⟩ := delivered_of_ofCalls calls hlimited hcalls htime' hseen
  rw [hengine, hclock] at hnow' hqueued' hids
  rw [hdeliveries] at hnow' hqueued'
  refine ⟨fun c => ⟨hnow c, hnow' c⟩,
    fun c rest hqueue => ⟨hqueued c rest hqueue, hqueued' c rest hqueue⟩,
    ?_, hids, Engine.map_nameless_number _ _ _ _, Engine.map_nameless_number _ _ _ _,
    fun hbuiltIn found hfound => Engine.checker_of_mem_raised hbuiltIn hfound⟩
  rw [← notifyNowBy_plain]
  exact hnow' .plain

/-- Two checkers are enabled, and one table is whitelisted for all of them. What a third checker
finds about the other table is left out as well. -/
theorem policy_filters_batch_of_two_queries :
    let registry := (Registry.new (.ofConfig .default) 0).install "app.db" ⟨"A", false⟩
    let calls : List Policy.Call :=
      [.enable "or_condition", .enable "fuzzy_match", .setWhitelist (.ofTables [("u", [])])]
    let limited := calls.foldl (fun r call => call.run "app.db" r) registry
    let x : Execution :=
      ⟨"SELECT a FROM u WHERE a LIKE 'x'; SELECT b FROM t WHERE b LIKE 'y' OR b IN (1)", 1, ""⟩
    (limited.notifyNow "app.db" x).2.deliveries.map
          (fun d => d.issues.map fun issue => (issue.type, issue.table))
        = [[("fuzzy_match", "t"), ("or_condition", "t")]]
      ∧ (limited.notifyNow "app.db" x).1.length = 2 := by
  intro registry calls limited x
  have hinstalled : registry.installed? "app.db"
      = some (0, .start "app.db" ⟨"A", false⟩ LintSettings.default.maxSeenStatements) := by rfl
  have htime : registry.engine.settings.minElapsedMs ≤ x.elapsedMs := by decide +kernel
  have hseen : (Fingerprint.Seen.new LintSettings.default.maxSeenStatements).contains
      (Fingerprint.ofSql x.sql) = false := rfl
  obtain ⟨-, -, hdelivered, hids, -⟩ := policy_filters_batch hinstalled rfl htime hseen calls
  rw [hdelivered, hids, List.length_map]
  decide +kernel

end Registry

end QueryLint
