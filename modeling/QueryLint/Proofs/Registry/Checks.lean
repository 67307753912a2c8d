import Mathlib.Data.List.Nodup
import QueryLint.Proofs.Pointwise
import QueryLint.Proofs.Policies
import QueryLint.Proofs.Registry.Entries
import QueryLint.Proofs.Registry.Provenance

/-!
# The check of the names

A check of the names in a policy is only queued when it is asked for, so it meets the policy that
the installation has when its turn comes. What a step queues for an installation, what it takes from
its queue, and how it changes its policy is told by the calls (`queuedBy`, `takenBy`, `callsBy`),
and `follows_step` says that a step does nothing else to the queue, the policy and the check of an
installation. Gathered over a run (`gather`), this tells the order in which work is taken, the
policy, and whether the names were checked.

Only a step that completes a check tells of names that no checker has (`Completes`, `silent_step`),
and `names_checked_once` is what such a step does.
-/

namespace QueryLint

/-! ### Names that no checker has -/

/-- No checker has a name, in whatever letter case. -/
def CheckerSet.Lacks (set : CheckerSet) (name : String) : Prop :=
  ∀ c ∈ set.checkers, Text.sameLetters c.name name = false

/-- A set does not contain a name exactly when it lacks it: no built-in and no registered checker
bears the name. -/
theorem CheckerSet.contains_eq_false_iff {set : CheckerSet} {name : String} :
    set.contains name = false ↔ set.Lacks name := by
  rw [contains, List.any_eq_false]
  simp only [Bool.not_eq_true]
  rfl

/-- A notice that is told of a policy when its names are checked: it is about an enabled checker, or
about a checker that is whitelisted for a table, and no checker has its name. -/
inductive Policy.Warrants (p : Policy) (set : CheckerSet) (dbPath : String) : Notice → Prop
  | enabled {name : String} (hname : name ∈ p.enabled) (hlacks : set.Lacks name) :
      Warrants p set dbPath (.unknownEnabled dbPath name)
  | whitelisted {table : String} {names : List String} {name : String}
      (htable : (table, names) ∈ p.whitelist.entries) (hname : name ∈ names)
      (hall : name ≠ Whitelist.allCheckers) (hlacks : set.Lacks name) :
      Warrants p set dbPath (.unknownWhitelisted dbPath table name)

/-- No table occurs twice in a whitelist, and no name occurs twice for a table. -/
structure Whitelist.IsProper (w : Whitelist) : Prop where
  tables : w.keys.Nodup
  names : ∀ e ∈ w.entries, e.2.Nodup

/-- A checker that is enabled again is not named again. -/
theorem Policy.nodup_enabled_ofCalls (calls : List Policy.Call) :
    (Policy.ofCalls calls).enabled.Nodup := by
  induction calls using List.reverseRecOn with
  | nil => exact List.nodup_nil
  | append_singleton calls call ih =>
    rw [ofCalls_concat]
    cases call with
    | setWhitelist w => exact ih
    | enable checker =>
      simp only [Call.apply, enable]
      split
      · exact ih
      · next h =>
        refine List.Nodup.append ih (List.nodup_singleton _) ?_
        simpa using h

/-- The whitelist after some calls is proper if all whitelists are that the calls set. -/
theorem Policy.isProper_ofCalls {calls : List Policy.Call}
    (h : ∀ w, .setWhitelist w ∈ calls → Whitelist.IsProper w) :
    Whitelist.IsProper (Policy.ofCalls calls).whitelist := by
  rw [whitelist_ofCalls]
  cases hlast : (calls.filterMap Call.whitelist?).getLast? with
  | none => exact ⟨List.nodup_nil, fun _ => by simp [OrderedMap.empty]⟩
  | some w =>
    obtain ⟨call, hcall, hw⟩ := List.mem_filterMap.mp (List.mem_of_getLast? hlast)
    cases call with
    | enable checker => cases hw
    | setWhitelist w' =>
      obtain rfl := Option.some.inj hw
      exact h w' hcall

/-- Whether a notice is told only when names are checked. -/
def Notice.isOfCheck : Notice → Bool
  | .unknownEnabled _ _ | .unknownWhitelisted _ _ _ | .checked _ _ _ => true
  | _ => false

namespace Registry

/-- The warnings of one check are those that the policy warrants: one for each configured name that
no checker of the set bears. -/
theorem mem_unknownNames_iff {set : CheckerSet} {dbPath : String} {p : Policy} {t : Notice} :
    t ∈ unknownNames set dbPath p ↔ p.Warrants set dbPath t := by
  simp only [unknownNames, List.mem_append, List.mem_map, List.mem_filter, List.mem_flatMap,
    Bool.and_eq_true, Bool.not_eq_true', bne_iff_ne, CheckerSet.contains_eq_false_iff, Prod.exists]
  constructor
  · rintro (⟨name, ⟨hname, hlacks⟩, rfl⟩ | ⟨table, names, htable, name, ⟨hname, hall, hlacks⟩, rfl⟩)
    · exact .enabled hname hlacks
    · exact .whitelisted htable hname hall hlacks
  · rintro (⟨hname, hlacks⟩ | ⟨htable, hname, hall, hlacks⟩)
    · exact .inl ⟨_, ⟨hname, hlacks⟩, rfl⟩
    · exact .inr ⟨_, _, htable, _, ⟨hname, hall, hlacks⟩, rfl⟩

/-- No name is told of twice, if the policy does not name it twice in one place. -/
theorem nodup_unknownNames (set : CheckerSet) (dbPath : String) {p : Policy}
    (henabled : p.enabled.Nodup) (hwhitelist : Whitelist.IsProper p.whitelist) :
    (unknownNames set dbPath p).Nodup := by
  refine List.Nodup.append ?_ ?_ fun t ht ht' => ?_
  · exact (henabled.filter _).map fun a b h => (Notice.unknownEnabled.inj h).2
  · refine List.nodup_flatMap.mpr ⟨fun e he => ?_, ?_⟩
    · exact ((hwhitelist.names e he).filter _).map fun a b h =>
        (Notice.unknownWhitelisted.inj h).2.2
    · -- Notices about different tables are different.
      refine (List.pairwise_map.mp hwhitelist.tables).imp fun {a b} hne t ht ht' => ?_
      obtain ⟨_, -, rfl⟩ := List.mem_map.mp ht
      obtain ⟨_, -, heq⟩ := List.mem_map.mp ht'
      exact hne (Notice.unknownWhitelisted.inj heq).2.1.symm
  · obtain ⟨_, -, rfl⟩ := List.mem_map.mp ht
    obtain ⟨_, -, ht'⟩ := List.mem_flatMap.mp ht'
    obtain ⟨_, -, heq⟩ := List.mem_map.mp ht'
    cases heq

/-- What an installation has queued. -/
def queueOf (r : Registry) (n : Nat) : List Work :=
  (r.installations[n]?.map Installation.queue).getD []

variable {r r' r'' : Registry} {n : Nat} {i : Installation}

/-- The queue at a place that holds an installation is the queue of that installation. -/
theorem queueOf_of_getElem? (hi : r.installations[n]? = some i) : r.queueOf n = i.queue := by
  rw [queueOf, hi]
  rfl

/-- A place that holds no installation has no queue. -/
theorem queueOf_of_missing (hi : r.installations[n]? = none) : r.queueOf n = [] := by
  rw [queueOf, hi]
  rfl

/-- The installation that is current for a database is one of the database and installed. -/
theorem WellFormed.current?_iff_of_getElem? (hr : r.WellFormed) (hi : r.installations[n]? = some i)
    {dbPath : String} : r.current? dbPath = some n ↔ i.phase = .installed ∧ i.dbPath = dbPath := by
  rw [hr.current?_eq_some_iff, life?_of_getElem? hi, Option.some.injEq, Prod.mk.injEq, and_comm]

/-! ### Doing a check -/

/-- The names in a policy are not checked a second time. -/
theorem runCheck_of_checked (hi : r.installations[n]? = some i) (hchecked : i.checked = true) :
    r.runCheck n = r := by
  unfold runCheck
  rw [hi]
  simp [hchecked]

/-- A check of an installed database whose names have not been checked marks it as checked and gives
the warnings of its policy. -/
theorem runCheck_of_unchecked (hi : r.installations[n]? = some i) (hphase : i.phase = .installed)
    (hchecked : i.checked = false) :
    r.runCheck n = { r.update n fun i => { i with checked := true } with
      notices := r.notices ++ (unknownNames r.engine.checkers i.dbPath i.policy
        ++ [.checked i.dbPath r.engine.checkers.names.length
          (unknownNames r.engine.checkers i.dbPath i.policy).length]) } := by
  unfold runCheck
  rw [hi, ← List.append_assoc]
  simp only [hphase, hchecked, bne_self_eq_false, Bool.or_self, Bool.false_eq_true, if_false]
  rfl

/-- Completing an installation changes only its phase, and only when nothing is left to do for
it. -/
theorem getElem?_finish_self (r : Registry) (n : Nat) :
    (r.finish n).installations[n]? = r.installations[n]?.map fun i =>
      if i.isDone then { i with phase := .uninstalled } else i := by
  unfold finish
  cases hi : r.installations[n]? with
  | none => exact hi
  | some i =>
    dsimp only
    rw [Option.map_some]
    split
    · rw [tell_installations]
      split <;> exact getElem?_update_self _ hi
    · exact hi

/-! ### What tells of no check -/

/-- A change of a registry that adds no notices of a check. -/
def Silent (r r' : Registry) : Prop :=
  ∃ told, r'.notices = r.notices ++ told ∧ ∀ t ∈ told, t.isOfCheck = false

namespace Silent

/-- A transition that leaves the notices as they are is silent. -/
theorem of_eq (h : r'.notices = r.notices) : Silent r r' :=
  ⟨[], by rw [h, List.append_nil], by simp⟩

/-- A transition that adds one notice, not one of a check, is silent. -/
theorem of_concat {t : Notice} (h : r'.notices = r.notices ++ [t]) (ht : t.isOfCheck = false) :
    Silent r r' :=
  ⟨[t], h, by simpa using ht⟩

/-- Silence composes: two silent transitions in a row are silent. -/
theorem trans (h : Silent r r') (h' : Silent r' r'') : Silent r r'' := by
  obtain ⟨told, htold, hnone⟩ := h
  obtain ⟨more, hmore, hnone'⟩ := h'
  refine ⟨told ++ more, by rw [hmore, htold, List.append_assoc], fun t ht => ?_⟩
  exact (List.mem_append.mp ht).elim (hnone t) (hnone' t)

end Silent

/-- Installing a database warns about no name. -/
theorem silent_install (r : Registry) (dbPath : String) (subscriber : Subscriber) :
    Silent r (r.install dbPath subscriber) := by
  unfold install
  split
  · exact .of_eq rfl
  · exact .of_concat (t := .installed dbPath) rfl rfl

/-- Uninstalling a database warns about no name. -/
theorem silent_uninstall (r : Registry) (dbPath : String) : Silent r (r.uninstall dbPath).2 := by
  unfold uninstall
  split <;> exact .of_eq rfl

/-- Uninstalling a list of databases warns about no name. -/
theorem silent_uninstallEach (dbPaths : List String) (r : Registry) :
    Silent r (r.uninstallEach dbPaths).2 := by
  induction dbPaths generalizing r with
  | nil => exact .of_eq rfl
  | cons dbPath rest ih => exact (silent_uninstall r dbPath).trans (ih _)

/-- Completing a teardown warns about no name. -/
theorem silent_finish (r : Registry) (n : Nat) : Silent r (r.finish n) := by
  unfold finish
  split
  · exact .of_eq rfl
  · next i _ =>
    split
    · dsimp only
      split <;> exact .of_concat (t := .uninstalled i.dbPath) rfl rfl
    · exact .of_eq rfl

/-- Setting a whitelist warns about no name, whatever names it holds: they wait for a check. -/
theorem silent_setWhitelist (r : Registry) (dbPath : String) (whitelist : Whitelist) :
    Silent r (r.setWhitelist dbPath whitelist) := by
  unfold setWhitelist
  split <;> exact .of_eq rfl

/-- Enabling a checker warns about no name, known or not: it waits for a check. -/
theorem silent_enableChecker (r : Registry) (dbPath checker : String) :
    Silent r (r.enableChecker dbPath checker) := by
  unfold enableChecker
  split
  · dsimp only
    split
    · exact .of_eq rfl
    · exact .of_concat (t := .enabling dbPath checker) rfl rfl
  · exact .of_eq rfl

/-- Queueing work warns about no name. -/
theorem silent_enqueue (r : Registry) (dbPath : String) (w : Work) :
    Silent r (r.enqueue dbPath w) := by
  unfold enqueue
  split <;> exact .of_eq rfl

/-- Requesting checks only queues them, so no name is warned about yet. -/
theorem silent_requestChecks (r : Registry) : Silent r r.requestChecks := by
  unfold requestChecks
  generalize r.databases.keys = dbPaths
  induction dbPaths generalizing r with
  | nil => exact .of_eq rfl
  | cons dbPath rest ih => exact (silent_enqueue r dbPath .check).trans (ih _)

/-- Examining an execution warns about no name. -/
theorem silent_examineBy (forget : Fingerprint.Seen.Forgetting) (r : Registry) (n : Nat)
    (x : Execution) : Silent r (r.examineBy forget n x).2 := by
  rcases examineBy_eq_or forget r n x with h | ⟨i, hi, hphase, htime, hseen⟩
  · rw [h]
    exact .of_eq rfl
  · rw [examineBy_of_admitted forget hi hphase htime hseen]
    refine ⟨_, rfl, fun t ht => ?_⟩
    rw [List.eq_of_mem_replicate ht]
    rfl

/-- Delivering a batch warns about no name, whatever the subscriber uninstalls. -/
theorem silent_publishBy (uninstalls : List String) (r : Registry) (n : Nat) (issues : List Issue) :
    Silent r (r.publishBy uninstalls n issues).2 := by
  by_cases hn : ∃ i, r.installations[n]? = some i ∧ i.phase = .installed
  · obtain ⟨i, hi, hphase⟩ := hn
    rw [publishBy_of_installed uninstalls issues hi hphase]
    exact silent_uninstallEach uninstalls _
  · rw [publishBy_of_not_installed uninstalls issues (by simpa using hn)]
    exact .of_eq rfl

end Registry

namespace Run

open Registry

variable {s : Situation} {st : Step} {n : Nat} {i i' : Installation}

/-! ### What a step asks of an installation -/

/-- The calls by which a step changes the policy of an installation. -/
def callsBy (n : Nat) (s : Situation) : Step → List Policy.Call
  | .setWhitelist dbPath whitelist =>
    if s.registry.current? dbPath = some n then [.setWhitelist whitelist] else []
  | .enableChecker dbPath checker =>
    if s.registry.current? dbPath = some n then [.enable checker] else []
  | _ => []

/-- What a step queues for an installation. -/
def queuedBy (n : Nat) (s : Situation) : Step → List Work
  | .requestCheck dbPath => if s.registry.current? dbPath = some n then [.check] else []
  | .requestChecks =>
    if s.registry.installations[n]?.any (fun i => i.phase == .installed) then [.check] else []
  | .notify dbPath x => if s.registry.current? dbPath = some n then [.execution x] else []
  | _ => []

/-- What a step takes from the queue of an installation: the first item, if it does work of the
installation. The item is dropped if the installation is no longer installed. -/
def takenBy (n : Nat) (s : Situation) : Step → List Work
  | .work m _ => if m = n then (s.registry.queueOf n).take 1 else []
  | _ => []

/-- What a step does to the policy, the queue and the check of an installation. -/
structure Follows (s : Situation) (st : Step) (n : Nat) (i i' : Installation) : Prop where
  phase : i'.phase = .installed → i.phase = .installed
  policy : i'.policy = (callsBy n s st).foldl Policy.Call.apply i.policy
  queue : takenBy n s st ++ i'.queue = i.queue ++ queuedBy n s st
  checked : i'.checked = true ↔ i.checked = true ∨ i.phase = .installed ∧ .check ∈ takenBy n s st

namespace Follows

/-- An installation that a step asks nothing of, and whose policy, queue and check stay as they
are. -/
theorem of_idle (hcalls : callsBy n s st = []) (hqueued : queuedBy n s st = [])
    (htaken : takenBy n s st = []) (hphase : i'.phase = .installed → i.phase = .installed)
    (hpolicy : i'.policy = i.policy) (hqueue : i'.queue = i.queue)
    (hchecked : i'.checked = i.checked) : Follows s st n i i' where
  phase := hphase
  policy := by rw [hcalls, hpolicy]; rfl
  queue := by rw [htaken, hqueued, hqueue, List.nil_append, List.append_nil]
  checked := by simp [htaken, hchecked]

/-- A step that changes all installations of some databases, but not in what matters here. -/
theorem of_changeIn (hidle : callsBy n s st = [] ∧ queuedBy n s st = [] ∧ takenBy n s st = [])
    (dbPaths : List String) {f : Installation → Installation}
    (hphase : (f i).phase = .installed → i.phase = .installed) (hpolicy : (f i).policy = i.policy)
    (hqueue : (f i).queue = i.queue) (hchecked : (f i).checked = i.checked) :
    Follows s st n i (changeIn dbPaths f i) := by
  obtain ⟨hcalls, hqueued, htaken⟩ := hidle
  unfold changeIn
  split
  · exact of_idle hcalls hqueued htaken hphase hpolicy hqueue hchecked
  · exact of_idle hcalls hqueued htaken id rfl rfl rfl

/-- A policy call follows the record of the installation it reaches, and of every other it leaves
alone. -/
theorem of_call (hr : s.registry.WellFormed) (hi : s.registry.installations[n]? = some i)
    {dbPath : String} (call : Policy.Call)
    (hcalls : callsBy n s st = if s.registry.current? dbPath = some n then [call] else [])
    (hqueued : queuedBy n s st = []) (htaken : takenBy n s st = []) :
    Follows s st n i (changeIn [dbPath] (fun i => { i with policy := call.apply i.policy }) i) := by
  have hiff : s.registry.current? dbPath = some n ↔ i.phase = .installed ∧ i.dbPath = dbPath :=
    hr.current?_iff_of_getElem? hi
  unfold changeIn
  split
  · next h =>
    rw [if_pos (hiff.mpr (by simpa using h))] at hcalls
    exact ⟨id, by rw [hcalls]; rfl, by simp [htaken, hqueued], by simp [htaken]⟩
  · next h =>
    rw [if_neg (mt hiff.mp (by simpa using h))] at hcalls
    exact of_idle hcalls hqueued htaken id rfl rfl rfl

/-- Queueing a work item follows the record of every installation: it goes to those that are
installed at one of the given paths. -/
theorem of_enqueue (dbPaths : List String) {w : Work} (hcalls : callsBy n s st = [])
    (hqueued : queuedBy n s st = if i.phase = .installed ∧ i.dbPath ∈ dbPaths then [w] else [])
    (htaken : takenBy n s st = []) :
    Follows s st n i (changeIn dbPaths (fun i => { i with queue := i.queue ++ [w] }) i) := by
  unfold changeIn
  split
  · next h =>
    rw [if_pos h] at hqueued
    exact ⟨id, by rw [hcalls]; rfl, by simp [htaken, hqueued], by simp [htaken]⟩
  · next h =>
    rw [if_neg h] at hqueued
    exact of_idle hcalls hqueued htaken id rfl rfl rfl

end Follows

/-- Work of an installation takes the first item from its queue, and a check that it does is
done. -/
theorem getElem?_work_self (forget : Fingerprint.Seen.Forgetting)
    (hi : s.registry.installations[n]? = some i) :
    ∃ seen, (s.work forget n).registry.installations[n]? = some { i with
      seen
      queue := i.queue.tail
      checked := i.checked || (i.phase == .installed && i.queue.head? == some .check) } := by
  unfold Situation.work
  cases hqueue : i.queue with
  | nil =>
    rw [take_of_queue_eq_nil hi hqueue]
    refine ⟨i.seen, hi.trans ?_⟩
    cases i
    cases hqueue
    simp
  | cons item rest =>
    rw [take_of_queue_eq_cons hi hqueue]
    have htaken := getElem?_update_self (fun i => { i with queue := rest }) hi
    by_cases hphase : i.phase = .installed
    · rw [hphase, beq_self_eq_true, if_pos rfl]
      cases item with
      | execution x =>
        obtain ⟨seen, hseen⟩ :=
          getElem?_examineBy forget (s.registry.update n fun i => { i with queue := rest })
          n x n
        refine ⟨seen { i with queue := rest }, hseen.trans ?_⟩
        rw [htaken]
        simp [hphase]
      | check =>
        refine ⟨i.seen, ?_⟩
        cases hchecked : i.checked with
        | true =>
          dsimp only
          rw [runCheck_of_checked htaken hchecked, htaken]
          simp [hchecked, hphase]
        | false =>
          dsimp only
          rw [runCheck_of_unchecked htaken hphase hchecked]
          exact (getElem?_update_self _ htaken).trans (by simp [hphase])
    · rw [beq_false_of_ne hphase]
      exact ⟨i.seen, htaken.trans (by simp)⟩

/-- Work on one queue leaves every other installation as it is. -/
theorem getElem?_work_of_ne (forget : Fingerprint.Seen.Forgetting) {m : Nat} (hm : n ≠ m) :
    (s.work forget n).registry.installations[m]? = s.registry.installations[m]? := by
  have htake := (spares_take s.registry hm).installation
  unfold Situation.work
  generalize s.registry.take n = result at htake
  obtain ⟨item, taken⟩ := result
  cases item with
  | none => exact htake
  | some item =>
    cases item with
    | execution x => exact (getElem?_examineBy_of_ne forget taken x (Ne.symm hm)).trans htake
    | check => exact (spares_runCheck taken hm).installation.trans htake

/-- Taking an item from a queue follows the record of every installation. -/
theorem follows_work (s : Situation) (n : Nat) (forget : Fingerprint.Seen.Forgetting) :
    Pointwise (Follows s (.work n forget)) s.registry.installations
      (s.work forget n).registry.installations := by
  intro m
  by_cases hm : n = m
  · subst hm
    cases hi : s.registry.installations[n]? with
    | none =>
      have hnone : (s.work forget n).registry.installations[n]? = none := by
        unfold Situation.work take
        rw [hi]
        exact hi
      rw [hnone]
      exact .none
    | some i =>
      obtain ⟨seen, hseen⟩ := getElem?_work_self forget hi
      have htaken : takenBy n s (.work n forget) = i.queue.take 1 := by
        rw [takenBy, if_pos rfl, queueOf_of_getElem? hi]
      rw [hseen]
      refine .some ⟨id, rfl, ?_, ?_⟩
      · rw [htaken]
        cases i.queue <;> simp [queuedBy]
      · rw [htaken]
        cases i.queue with
        | nil => simp
        | cons item rest => simp [eq_comm (a := Work.check)]
  · rw [getElem?_work_of_ne forget hm]
    cases s.registry.installations[m]? with
    | none => exact .none
    | some i => exact .some (.of_idle rfl rfl (if_neg hm) id rfl rfl rfl)

/-- A synchronous notification follows the record of every installation: it takes nothing from a
queue. -/
theorem follows_notifyNow (s : Situation) (dbPath : String) (x : Execution)
    (forget : Fingerprint.Seen.Forgetting) :
    Pointwise (Follows s (.notifyNow dbPath x forget)) s.registry.installations
      (s.step (.notifyNow dbPath x forget)).registry.installations := by
  simp only [Situation.step]
  split
  · next n _ =>
    intro m
    obtain ⟨seen, hseen⟩ := getElem?_examineBy forget s.registry n x m
    rw [Situation.examine_registry, hseen]
    cases s.registry.installations[m]? with
    | none => exact .none
    | some i => exact .some (.of_idle rfl rfl rfl id rfl rfl rfl)
  · exact .self fun _ _ _ => .of_idle rfl rfl rfl id rfl rfl rfl

/-- A delivery follows the record of every installation, whatever the subscriber uninstalls. -/
theorem follows_deliver (hr : s.registry.WellFormed) (k : Nat) (uninstalls : List String) :
    Pointwise (Follows s (.deliver k uninstalls)) s.registry.installations
      (s.deliver k uninstalls).registry.installations := by
  unfold Situation.deliver
  split
  · exact .self fun _ _ _ => .of_idle rfl rfl rfl id rfl rfl rfl
  · next p _ =>
    by_cases hn : ∃ i, s.registry.installations[p.installation]? = some i ∧ i.phase = .installed
    · obtain ⟨i, hi, hphase⟩ := hn
      have hdelivered : WellFormed { s.registry with
          deliveries :=
            s.registry.deliveries ++ [⟨p.installation, i.subscriber, i.dbPath, p.issues⟩] } :=
        ⟨hr.entry, hr.latest⟩
      rw [publishBy_of_installed uninstalls p.issues hi hphase]
      dsimp only
      rw [installations_uninstallEach hdelivered]
      exact .self_map fun _ _ _ => .of_changeIn ⟨rfl, rfl, rfl⟩ _ (fun h => by cases h) rfl rfl rfl
    · rw [publishBy_of_not_installed uninstalls p.issues (by simpa using hn)]
      exact .self fun _ _ _ => .of_idle rfl rfl rfl id rfl rfl rfl

/-- The completion of a teardown follows the record of every installation. -/
theorem follows_finish (s : Situation) (n : Nat) :
    Pointwise (Follows s (.finish n)) s.registry.installations
      (s.finish n).registry.installations := by
  intro m
  by_cases hm : m = n
  · subst hm
    simp only [Situation.finish]
    rw [getElem?_finish_self]
    cases s.registry.installations[m]? with
    | none => exact .none
    | some i =>
      refine .some ?_
      dsimp only
      split
      · exact .of_idle rfl rfl rfl (fun h => by cases h) rfl rfl rfl
      · exact .of_idle rfl rfl rfl id rfl rfl rfl
  · simp only [Situation.finish]
    rw [finish_installations s.registry hm]
    cases s.registry.installations[m]? with
    | none => exact .none
    | some i => exact .some (.of_idle rfl rfl rfl id rfl rfl rfl)

/-- Every step changes the policy, the queue and the check of each installation as it is asked to,
and may add one new installation. -/
theorem follows_step (hs : s.registry.Charted) (st : Step) :
    ∃ kept, Pointwise (Follows s st) s.registry.installations kept
      ∧ ((s.step st).registry.installations = kept
        ∨ ∃ dbPath subscriber maxSeen, (s.step st).registry.installations
          = kept ++ [.start dbPath subscriber maxSeen]) := by
  have hr := hs.wellFormed
  have hsame : ∀ {n i}, callsBy n s st = [] ∧ queuedBy n s st = []
      ∧ takenBy n s st = [] → Follows s st n i i :=
    fun h => .of_idle h.1 h.2.1 h.2.2 id rfl rfl rfl
  -- Of all steps only an installation adds to the list, so the others keep every place.
  cases st with
  | install dbPath subscriber =>
    cases hn : s.registry.current? dbPath with
    | none =>
      exact ⟨_, .self fun _ _ _ => hsame ⟨rfl, rfl, rfl⟩,
        .inr ⟨_, _, _, install_installations subscriber hn⟩⟩
    | some n =>
      refine ⟨_, .self_map fun _ _ _ => ?_, .inl (installations_reinstall hr hn subscriber)⟩
      exact .of_changeIn ⟨rfl, rfl, rfl⟩ _ id rfl rfl rfl
  | uninstall dbPath =>
    refine ⟨_, .self_map fun _ _ _ => ?_, .inl (installations_uninstall hr dbPath)⟩
    exact .of_changeIn ⟨rfl, rfl, rfl⟩ _ (fun h => by cases h) rfl rfl rfl
  | beginShutdown =>
    refine ⟨_, .self_map fun _ _ _ => ?_, .inl (installations_uninstallEach hr _)⟩
    exact .of_changeIn ⟨rfl, rfl, rfl⟩ _ (fun h => by cases h) rfl rfl rfl
  | endShutdown => exact ⟨_, .self fun _ _ _ => hsame ⟨rfl, rfl, rfl⟩, .inl rfl⟩
  | setWhitelist dbPath whitelist =>
    refine ⟨_, .self_map fun _ _ hi => ?_, .inl (installations_setWhitelist hr dbPath whitelist)⟩
    exact .of_call hr hi (.setWhitelist whitelist) rfl rfl rfl
  | enableChecker dbPath checker =>
    refine ⟨_, .self_map fun _ _ hi => ?_, .inl (installations_enableChecker hr dbPath checker)⟩
    exact .of_call hr hi (.enable checker) rfl rfl rfl
  | requestCheck dbPath =>
    refine ⟨_, .self_map fun _ _ hi => .of_enqueue _ rfl ?_ rfl,
      .inl (installations_enqueue hr dbPath .check)⟩
    simp [queuedBy, hr.current?_iff_of_getElem? hi]
  | requestChecks =>
    refine ⟨_, .self_map fun n i hi => .of_enqueue _ rfl ?_ rfl,
      .inl (installations_requestChecks hs)⟩
    have hkeys : i.phase = .installed → i.dbPath ∈ s.registry.databases.keys := fun hphase =>
      OrderedMap.mem_keys_of_find? (hr.latest (by rw [life?_of_getElem? hi, hphase]))
    rw [queuedBy, hi]
    simp only [Option.any_some, beq_iff_eq, and_iff_left_of_imp hkeys]
  | notify dbPath x =>
    refine ⟨_, .self_map fun _ _ hi => .of_enqueue _ rfl ?_ rfl,
      .inl (installations_enqueue hr dbPath (.execution x))⟩
    simp [queuedBy, hr.current?_iff_of_getElem? hi]
  | notifyNow dbPath x forget => exact ⟨_, follows_notifyNow s dbPath x forget, .inl rfl⟩
  | work n forget => exact ⟨_, follows_work s n forget, .inl rfl⟩
  | deliver k uninstalls => exact ⟨_, follows_deliver hr k uninstalls, .inl rfl⟩
  | finish n => exact ⟨_, follows_finish s n, .inl rfl⟩
  | tick time => exact ⟨_, .self fun _ _ _ => hsame ⟨rfl, rfl, rfl⟩, .inl rfl⟩

/-! ### Completing a check -/

/-- The notices that a step adds. -/
def Situation.told (s : Situation) (st : Step) : List Notice :=
  (s.step st).registry.notices.drop s.registry.notices.length

/-- A step completes the check of an installation: it does work of the installation, and tells that
the names were checked. -/
def Completes (n : Nat) (s : Situation) (st : Step) : Prop :=
  (∃ forget, st = .work n forget)
    ∧ ∃ dbPath checkers unknown, .checked dbPath checkers unknown ∈ s.told st

/-- The turn of a check has come that was not done before. -/
structure IsDue (n : Nat) (s : Situation) (i : Installation) : Prop where
  installation : s.registry.installations[n]? = some i
  phase : i.phase = .installed
  queue : i.queue.head? = some .check
  checked : i.checked = false

/-- The notices that a step adds are what it told. -/
theorem Situation.told_eq (st : Step) {told : List Notice}
    (h : (s.step st).registry.notices = s.registry.notices ++ told) : s.told st = told := by
  rw [Situation.told, h, List.drop_left]

/-- Doing a check that is due. -/
theorem IsDue.work_eq (h : IsDue n s i) (forget : Fingerprint.Seen.Forgetting) :
    s.work forget n = { s with
      registry :=
        { s.registry.update n fun i => { i with checked := true, queue := i.queue.tail } with
        notices := s.registry.notices ++ (unknownNames s.registry.engine.checkers i.dbPath i.policy
          ++ [.checked i.dbPath s.registry.engine.checkers.names.length
            (unknownNames s.registry.engine.checkers i.dbPath i.policy).length]) } } := by
  obtain ⟨rest, hqueue⟩ := List.head?_eq_some_iff.mp h.queue
  have htaken := getElem?_update_self (fun i => { i with queue := rest }) h.installation
  have htwice : ((s.registry.installations.modify n fun i => { i with queue := rest }).modify n
        fun i => { i with checked := true })
      = s.registry.installations.modify n fun i =>
        { i with checked := true, queue := i.queue.tail } := by
    refine List.ext_getElem? fun m => ?_
    simp only [List.getElem?_modify]
    by_cases hm : n = m
    · subst hm
      rw [h.installation]
      simp [hqueue]
    · simp [hm]
  unfold Situation.work
  rw [take_of_queue_eq_cons h.installation hqueue, h.phase, beq_self_eq_true, if_pos rfl]
  dsimp only
  rw [runCheck_of_unchecked htaken h.phase h.checked]
  simp only [update, htwice]

/-- Work that is not a check that is due tells of none. -/
theorem silent_work (forget : Fingerprint.Seen.Forgetting) (h : ∀ i, ¬IsDue n s i) :
    Silent s.registry (s.work forget n).registry := by
  cases hi : s.registry.installations[n]? with
  | none =>
    unfold Situation.work take
    rw [hi]
    exact .of_eq rfl
  | some i =>
    unfold Situation.work
    cases hqueue : i.queue with
    | nil =>
      rw [take_of_queue_eq_nil hi hqueue]
      exact .of_eq rfl
    | cons item rest =>
      have htaken := getElem?_update_self (fun i => { i with queue := rest }) hi
      rw [take_of_queue_eq_cons hi hqueue]
      by_cases hphase : i.phase = .installed
      · rw [hphase, beq_self_eq_true, if_pos rfl]
        cases item with
        | execution x => exact silent_examineBy forget _ n x
        | check =>
          have hchecked : i.checked = true := by
            by_contra hchecked
            exact h i ⟨hi, hphase, by rw [hqueue]; rfl, by simpa using hchecked⟩
          dsimp only
          rw [runCheck_of_checked htaken hchecked]
          exact .of_eq rfl
      · rw [beq_false_of_ne hphase]
        exact .of_eq rfl

/-- A step that is not the work of a check that is due tells of no check. -/
theorem silent_step (h : ∀ n forget i, st = .work n forget → ¬IsDue n s i) :
    Silent s.registry (s.step st).registry := by
  cases st with
  | install dbPath subscriber => exact silent_install s.registry dbPath subscriber
  | uninstall dbPath => exact silent_uninstall s.registry dbPath
  | beginShutdown => exact silent_uninstallEach _ s.registry
  | endShutdown => exact .of_concat (t := .shutDown) rfl rfl
  | setWhitelist dbPath whitelist => exact silent_setWhitelist s.registry dbPath whitelist
  | enableChecker dbPath checker => exact silent_enableChecker s.registry dbPath checker
  | requestCheck dbPath => exact silent_enqueue s.registry dbPath .check
  | requestChecks => exact silent_requestChecks s.registry
  | notify dbPath x => exact silent_enqueue s.registry dbPath (.execution x)
  | notifyNow dbPath x forget =>
    simp only [Situation.step]
    split
    · exact silent_examineBy forget s.registry _ x
    · exact .of_eq rfl
  | work n forget => exact silent_work forget fun i => h n forget i rfl
  | deliver k uninstalls =>
    simp only [Situation.step, Situation.deliver]
    split
    · exact .of_eq rfl
    · exact silent_publishBy uninstalls s.registry _ _
  | finish n => exact silent_finish s.registry n
  | tick time => exact .of_eq rfl

/-- A check is completed exactly when it is due and its turn comes. -/
theorem completes_iff : Completes n s st ↔ (∃ forget, st = .work n forget) ∧ ∃ i, IsDue n s i := by
  refine and_congr_right ?_
  rintro ⟨forget, rfl⟩
  constructor
  · rintro ⟨dbPath, checkers, unknown, hchecked⟩
    by_contra hdue
    obtain ⟨told, htold, hnone⟩ := silent_work forget (not_exists.mp hdue)
    rw [Situation.told_eq (.work n forget) htold] at hchecked
    cases hnone _ hchecked
  · rintro ⟨i, hi⟩
    have htold := Situation.told_eq (.work n forget)
      (congrArg (fun s => s.registry.notices) (hi.work_eq forget))
    exact ⟨_, _, _, htold ▸ List.mem_append_right _ (List.mem_singleton.mpr rfl)⟩

/-! ### Runs -/

/-- What the steps of a run contribute, one after the other. -/
def gather {α : Type} (f : Situation → Step → List α) : Situation → List Step → List α
  | _, [] => []
  | s, st :: rest => f s st ++ gather f (s.step st) rest

/-- What is gathered over two runs in a row is what each of them gathers, the second from where the
first ended. -/
theorem gather_append {α : Type} (f : Situation → Step → List α) (s : Situation)
    (steps more : List Step) :
    gather f s (steps ++ more) = gather f s steps ++ gather f (s.run steps) more := by
  induction steps generalizing s with
  | nil => rfl
  | cons st rest ih =>
    rw [List.cons_append, gather, ih, gather, List.append_assoc]
    rfl

/-- What is gathered over a run and one more step ends with what that step contributes. -/
theorem gather_concat {α : Type} (f : Situation → Step → List α) (s : Situation) (steps : List Step)
    (last : Step) : gather f s (steps ++ [last]) = gather f s steps ++ f (s.run steps) last := by
  rw [gather_append, gather, gather, List.append_nil]

/-- Only calls that were made change a whitelist. -/
theorem exists_setWhitelist_of_mem_gather {steps : List Step} {w : Whitelist}
    (h : .setWhitelist w ∈ gather (callsBy n) s steps) : ∃ dbPath, .setWhitelist dbPath w
      ∈ steps := by
  induction steps generalizing s with
  | nil => cases h
  | cons st rest ih =>
    rcases List.mem_append.mp h with h | h
    · cases st with
      | setWhitelist dbPath whitelist =>
        rw [callsBy] at h
        split at h
        · obtain rfl := Policy.Call.setWhitelist.inj (List.mem_singleton.mp h)
          exact ⟨dbPath, List.mem_cons_self⟩
        · cases h
      | enableChecker dbPath checker =>
        rw [callsBy] at h
        split at h
        · cases List.mem_singleton.mp h
        · cases h
      | _ => cases h
    · obtain ⟨dbPath, hmem⟩ := ih h
      exact ⟨dbPath, List.mem_cons_of_mem st hmem⟩

/-- What is nothing as long as an installation has not begun. -/
theorem gather_of_missing {α : Type} {f : Situation → Step → List α}
    (hf : ∀ s st, s.registry.installations[n]? = none → f s st = []) (first : Situation)
    (steps : List Step) (hi : (first.run steps).registry.installations[n]? = none) :
    gather f first steps = [] := by
  induction steps using List.reverseRecOn with
  | nil => rfl
  | append_singleton steps last ih =>
    rw [Situation.run_concat, List.getElem?_eq_none_iff] at hi
    have hbefore := List.getElem?_eq_none (((first.run steps).length_le_step last).trans hi)
    rw [gather_concat, ih hbefore, hf _ last hbefore, List.append_nil]

/-- Nothing is asked of an installation before it begins. -/
theorem unasked_of_missing (s : Situation) (st : Step) (hi : s.registry.installations[n]? = none) :
    callsBy n s st = [] ∧ queuedBy n s st = [] ∧ takenBy n s st = [] := by
  have hcurrent : ∀ dbPath, s.registry.current? dbPath ≠ some n := by
    intro dbPath h
    obtain ⟨-, d, hlife⟩ := current?_eq_some_iff.mp h
    rw [life?, hi] at hlife
    cases hlife
  cases st <;> simp [callsBy, queuedBy, takenBy, hcurrent, hi, queueOf_of_missing hi]

/-- What a run so far tells of an installation. -/
structure Recorded (first : Situation) (steps : List Step) (n : Nat) (i : Installation) : Prop where
  policy : i.policy = .ofCalls (gather (callsBy n) first steps)
  queue : gather (takenBy n) first steps ++ i.queue = gather (queuedBy n) first steps
  checked : i.phase = .installed → (i.checked = true ↔ .check ∈ gather (takenBy n) first steps)

/-- A step goes on as it is asked to. -/
theorem Recorded.concat {first : Situation} {steps : List Step} (h : Recorded first steps n i)
    (hf : Follows (first.run steps) st n i i') : Recorded first (steps ++ [st]) n i' where
  policy := by
    rw [hf.policy, h.policy, gather_concat, Policy.ofCalls, Policy.ofCalls, List.foldl_append]
  queue := by
    rw [gather_concat, gather_concat, List.append_assoc, hf.queue, ← List.append_assoc, h.queue]
  checked := fun hphase => by
    have hbefore := hf.phase hphase
    rw [hf.checked, h.checked hbefore, gather_concat, List.mem_append, and_iff_right hbefore]

/-- By induction on the run: an installation that stands after it has the record of its own calls,
arrivals and checks. -/
theorem recorded_run (engine : Engine) (time : Nat) (steps : List Step)
    (hi : ((Situation.start engine time).run steps).registry.installations[n]? = some i) :
    Recorded (Situation.start engine time) steps n i := by
  induction steps using List.reverseRecOn generalizing i with
  | nil => cases hi
  | append_singleton steps last ih =>
    obtain ⟨kept, hkept, hnext⟩ := follows_step (Charted.run engine time steps) last
    have hgoesOn : kept[n]? = some i →
        Recorded (Situation.start engine time) (steps ++ [last]) n i := by
      intro hi
      rcases hkept.getElem?_cases n with ⟨-, hnone⟩ | ⟨before, after, hbefore, hafter, hfollows⟩
      · rw [hnone] at hi
        cases hi
      · obtain rfl := Option.some.inj (hafter.symm.trans hi)
        exact (ih hbefore).concat hfollows
    rw [Situation.run_concat] at hi
    rcases hnext with hsame | ⟨dbPath, subscriber, maxSeen, hnew⟩
    · exact hgoesOn (hsame ▸ hi)
    · rw [hnew, List.getElem?_append] at hi
      split at hi
      · exact hgoesOn hi
      · next hn =>
        -- The installation begins with this step.
        obtain rfl := List.mem_singleton.mp (List.mem_of_getElem? hi)
        have hmissing := List.getElem?_eq_none (hkept.length_eq ▸ Nat.le_of_not_lt hn)
        have hcalls :=
          gather_of_missing (fun s st h => (unasked_of_missing s st h).1) _ steps hmissing
        have hqueued :=
          gather_of_missing (fun s st h => (unasked_of_missing s st h).2.1) _ steps hmissing
        have htaken :=
          gather_of_missing (fun s st h => (unasked_of_missing s st h).2.2) _ steps hmissing
        obtain ⟨hcalls', hqueued', htaken'⟩ := unasked_of_missing _ last hmissing
        constructor
        · rw [gather_concat, hcalls, hcalls']
          rfl
        · rw [gather_concat, gather_concat, hqueued, hqueued', htaken, htaken']
          rfl
        · rw [gather_concat, htaken, htaken']
          simp [Installation.start]

/-- The items that are taken from the queue of an installation, and those that are still in it, are
those that were queued, in their order. -/
theorem gather_takenBy_append_queueOf (engine : Engine) (time : Nat) (steps : List Step) (n : Nat) :
    gather (takenBy n) (Situation.start engine time) steps
        ++ ((Situation.start engine time).run steps).registry.queueOf n
      = gather (queuedBy n) (Situation.start engine time) steps := by
  cases hi : ((Situation.start engine time).run steps).registry.installations[n]? with
  | none =>
    rw [queueOf_of_missing hi,
      gather_of_missing (fun s st h => (unasked_of_missing s st h).2.1) _ steps hi,
      gather_of_missing (fun s st h => (unasked_of_missing s st h).2.2) _ steps hi]
    rfl
  | some i => rw [queueOf_of_getElem? hi, (recorded_run engine time steps hi).queue]

/-- A check is completed exactly when it is the first in the queue of an installation that is
installed, and none was taken from that queue before. -/
theorem completes_run_iff (engine : Engine) (time : Nat) (steps : List Step) :
    Completes n ((Situation.start engine time).run steps) st
      ↔ (∃ forget, st = .work n forget)
        ∧ (∃ dbPath, ((Situation.start engine time).run steps).registry.current? dbPath = some n)
        ∧ (((Situation.start engine time).run steps).registry.queueOf n).head? = some .check
        ∧ .check ∉ gather (takenBy n) (Situation.start engine time) steps := by
  have hr := (Charted.run engine time steps).wellFormed
  rw [completes_iff]
  refine and_congr_right fun _ => ?_
  constructor
  · rintro ⟨i, hi⟩
    refine ⟨⟨i.dbPath, (hr.current?_iff_of_getElem? hi.installation).mpr ⟨hi.phase, rfl⟩⟩, ?_, ?_⟩
    · rw [queueOf_of_getElem? hi.installation, hi.queue]
    · rw [← (recorded_run engine time steps hi.installation).checked hi.phase, hi.checked]
      exact Bool.false_ne_true
  · rintro ⟨⟨dbPath, hcurrent⟩, hqueue, hfirst⟩
    obtain ⟨i, hi, -, hphase⟩ := life?_eq_some_iff.mp (hr.current?_eq_some_iff.mp hcurrent)
    refine ⟨i, hi, hphase, queueOf_of_getElem? hi ▸ hqueue, ?_⟩
    rw [← (recorded_run engine time steps hi).checked hphase] at hfirst
    simpa using hfirst

/-- In every run the names in the policy of an installation are checked at most once, in the order
of the queue.

Work is taken from the queue of an installation in the order in which it was queued. A step
completes a check just if it does work of an installation that is installed, a check is first in the
queue, and none was taken from it before; no other step tells of a check, and no later step
completes one for the same installation. What the step tells is about the policy that the calls so
far have made: it warns of the enabled and the whitelisted names that no checker has, of each once,
and counts these warnings. Apart from that the step takes the check from the queue and notes that
the names were checked, and changes nothing. -/
theorem names_checked_once (engine : Engine) (time : Nat) (steps : List Step) (st : Step)
    (n : Nat) :
    let first := Situation.start engine time
    let s := first.run steps
    gather (takenBy n) first steps ++ s.registry.queueOf n = gather (queuedBy n) first steps
      ∧ (Completes n s st ↔ (∃ forget, st = .work n forget)
        ∧ (∃ dbPath, s.registry.current? dbPath = some n)
        ∧ (s.registry.queueOf n).head? = some .check ∧ .check ∉ gather (takenBy n) first steps)
      ∧ (∀ t ∈ s.told st, t.isOfCheck = true → ∃ m, Completes m s st)
      ∧ (Completes n s st →
        (∀ more st', ¬Completes n (first.run (steps ++ st :: more)) st')
        ∧ ∃ i warnings, s.registry.installations[n]? = some i
          ∧ i.policy = .ofCalls (gather (callsBy n) first steps)
          ∧ (∀ t, t ∈ warnings ↔ i.policy.Warrants engine.checkers i.dbPath t)
          ∧ ((∀ dbPath w, .setWhitelist dbPath w ∈ steps → Whitelist.IsProper w) → warnings.Nodup)
          ∧ s.step st = { s with
              registry :=
                { s.registry.update n fun i =>
                    { i with checked := true, queue := i.queue.tail } with
                  notices := s.registry.notices ++ (warnings
                    ++ [.checked i.dbPath engine.checkers.names.length warnings.length]) } }) := by
  intro first s
  refine ⟨gather_takenBy_append_queueOf engine time steps n,
    completes_run_iff engine time steps, ?_, ?_⟩
  -- A notice of a check that no step completed would come from a silent step.
  · intro t ht hcheck
    by_contra hnone
    obtain ⟨told, htold, hsilent⟩ : Silent s.registry (s.step st).registry := by
      refine silent_step fun m forget i hst hdue =>
        hnone ⟨m, completes_iff.mpr ⟨⟨forget, hst⟩, i, hdue⟩⟩
    rw [Situation.told_eq st htold] at ht
    rw [hsilent t ht] at hcheck
    cases hcheck
  · intro hcompletes
    obtain ⟨⟨forget, rfl⟩, i, hi⟩ := completes_iff.mp hcompletes
    refine ⟨fun more st' hagain => ?_, i, _, hi.installation,
      (recorded_run engine time steps hi.installation).policy, fun t => mem_unknownNames_iff,
      fun hproper => ?_, ?_⟩
    · -- The check that is taken here is among what was taken before the other one.
      have hfirst := ((completes_run_iff engine time _).mp hagain).2.2.2
      rw [gather_append, gather] at hfirst
      refine hfirst (List.mem_append_right _ (List.mem_append_left _ ?_))
      obtain ⟨rest, hqueue⟩ := List.head?_eq_some_iff.mp hi.queue
      rw [takenBy, if_pos rfl, queueOf_of_getElem? hi.installation, hqueue]
      exact List.mem_singleton.mpr rfl
    · have hpolicy := (recorded_run engine time steps hi.installation).policy
      refine nodup_unknownNames _ _ (hpolicy ▸ Policy.nodup_enabled_ofCalls _)
        (hpolicy ▸ Policy.isProper_ofCalls fun w hw => ?_)
      obtain ⟨dbPath, hstep⟩ := exists_setWhitelist_of_mem_gather hw
      exact hproper dbPath w hstep
    · have hwork := hi.work_eq forget
      rwa [Situation.engine_run] at hwork

end Run

end QueryLint
