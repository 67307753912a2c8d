import Mathlib.Data.List.Perm.Basic
import QueryLint.Proofs.Fingerprint.Seen
import QueryLint.Proofs.Registry.Provenance

/-!
# One delivery for each statement

As long as no more different statements count on an installation than its memory holds, each
statement is reported at most once, and only for the first execution of it that took long enough.
The `batches` of an installation are the issues that wait for it and those that it delivered;
`Deduplicated` says that they come from first executions and that no two of them are about one
statement.
-/

namespace QueryLint

/-- The fingerprint of the statement that was executed. -/
def Execution.fingerprint (x : Execution) : UInt64 := Fingerprint.ofSql x.sql

/-- Every issue names the database and the statement that was executed. -/
theorem Engine.of_mem_issues {e : Engine} {policy : Policy} {dbPath : String} {time : Nat}
    {x : Execution} {i : Issue} (hi : i ∈ e.issues policy dbPath time x) :
    i.dbPath = dbPath ∧ i.sql = x.sql := by
  obtain ⟨_, _, rfl⟩ := List.mem_mapIdx.mp hi
  exact ⟨rfl, rfl⟩

namespace Run

open Registry

/-- The executions that were looked at on an installation and took long enough to count, the
earliest first. -/
def countedOn (engine : Engine) (n : Nat) (history : List Event) : List Execution :=
  (examinedOn n history).filter fun x => engine.settings.minElapsedMs ≤ x.elapsedMs

/-- How many different statements counted on an installation. -/
def statementsOn (engine : Engine) (n : Nat) (history : List Event) : Nat :=
  ((countedOn engine n history).map Execution.fingerprint).toFinset.card

/-- An execution is the first one of its statement. -/
def IsFirst (x : Execution) (executions : List Execution) : Prop :=
  executions.find? (fun y => y.fingerprint == x.fingerprint) = some x

/-- Whether some issues are about a statement of a fingerprint. -/
def isAbout (fingerprint : UInt64) (issues : List Issue) : Bool :=
  issues.any fun i => Fingerprint.ofSql i.sql == fingerprint

/-- What waits to be delivered from an installation. -/
def Situation.pendingOf (n : Nat) (s : Situation) : List Pending :=
  s.pending.filter fun p => p.installation == n

/-- The issues of an installation that wait, and those that were delivered, by execution. -/
def Situation.batches (n : Nat) (s : Situation) : List (List Issue) :=
  (s.pendingOf n).map Pending.issues ++ (s.deliveriesOf n).map Delivery.issues

variable {engine : Engine} {n m : Nat} {x y : Execution} {history events : List Event}
  {executions more : List Execution} {s s' : Situation} {i : Installation} {batch : List Issue}
  {fingerprint : UInt64}

/-- The first execution of a statement stays the first one when others follow. -/
theorem IsFirst.append (h : IsFirst x executions) (more : List Execution) :
    IsFirst x (executions ++ more) := by
  rw [IsFirst, List.find?_append, h, Option.some_or]

/-- The first execution of a statement is one of the executions. -/
theorem IsFirst.mem (h : IsFirst x executions) : x ∈ executions := List.mem_of_find?_eq_some h

/-- An execution of a new statement is the first one. -/
theorem isFirst_concat (h : x.fingerprint ∉ executions.map Execution.fingerprint) :
    IsFirst x (executions ++ [x]) := by
  have hnone : executions.find? (fun y => y.fingerprint == x.fingerprint) = none := by
    apply List.find?_eq_none.mpr
    intro y hy heq
    exact h (List.mem_map.mpr ⟨y, hy, eq_of_beq heq⟩)
  rw [IsFirst, List.find?_append, hnone, Option.none_or, List.find?_singleton, if_pos (by simp)]

/-- The issues of an execution are about its statement and about no other. -/
theorem isAbout_issues {dbPath : String} (h : IssuesOf engine dbPath x batch) :
    isAbout fingerprint batch = (x.fingerprint == fingerprint) := by
  obtain ⟨hne, policy, time, rfl⟩ := h
  rw [isAbout, Bool.eq_iff_iff, List.any_eq_true]
  constructor
  · rintro ⟨i, hi, heq⟩
    rwa [(Engine.of_mem_issues hi).2] at heq
  · intro heq
    obtain ⟨i, hi⟩ := List.exists_mem_of_ne_nil _ hne
    exact ⟨i, hi, by rwa [(Engine.of_mem_issues hi).2]⟩

/-- Issues are found on one database. -/
theorem IssuesOf.dbPath_eq {dbPath dbPath' : String} (h : IssuesOf engine dbPath x batch)
    (h' : IssuesOf engine dbPath' y batch) : dbPath = dbPath' := by
  obtain ⟨hne, policy, time, rfl⟩ := h
  obtain ⟨-, policy', time', heq⟩ := h'
  obtain ⟨i, hi⟩ := List.exists_mem_of_ne_nil _ hne
  rw [← (Engine.of_mem_issues hi).1, (Engine.of_mem_issues (heq ▸ hi)).1]

/-! ### What counts -/

/-- Nothing is added to what was looked at by events among which no execution is. -/
theorem examinedOn_of_unexamined
    (h : ∃ events, s'.history = s.history ++ events ∧ Unexamined events) :
    examinedOn n s'.history = examinedOn n s.history := by
  obtain ⟨events, hhistory, hevents⟩ := h
  have hnone : examinedOn n events = [] := by
    apply List.filterMap_eq_nil_iff.mpr
    rintro (_ | _ | _ | ⟨k, x⟩) he <;> try rfl
    exact absurd he (hevents k x)
  rw [hhistory, examinedOn_append, hnone, List.append_nil]

/-- An execution is looked at on one installation. -/
theorem examinedOn_examine (n m : Nat) (x : Execution) :
    examinedOn n [.examine m x] = if m = n then [x] else [] := by
  unfold examinedOn
  split <;> simp [*]

/-- What counts in two histories is what counts in each of them. -/
theorem countedOn_append (engine : Engine) (n : Nat) (history events : List Event) :
    countedOn engine n (history ++ events)
      = countedOn engine n history ++ countedOn engine n events := by
  rw [countedOn, examinedOn_append, List.filter_append]
  rfl

/-- An execution that is too fast does not count. -/
theorem countedOn_of_short (h : x.elapsedMs < engine.settings.minElapsedMs) :
    countedOn engine n [.examine n x] = [] := by
  rw [countedOn, examinedOn_examine, if_pos rfl]
  simp [h]

/-- An execution that is slow enough counts. -/
theorem countedOn_of_long (h : engine.settings.minElapsedMs ≤ x.elapsedMs) :
    countedOn engine n [.examine n x] = [x] := by
  rw [countedOn, examinedOn_examine, if_pos rfl]
  simp [h]

/-- The more happens, the more statements have counted. -/
theorem statementsOn_le_append (engine : Engine) (n : Nat) (history events : List Event) :
    statementsOn engine n history ≤ statementsOn engine n (history ++ events) := by
  apply Finset.card_le_card
  intro fingerprint hmem
  rw [countedOn_append, List.map_append, List.toFinset_append]
  exact Finset.mem_union_left _ hmem

/-! ### How batches change -/

/-- Nothing is added to the batches when issues are dropped. -/
theorem batches_sublist (n : Nat) (hp : s'.pending.Sublist s.pending)
    (hd : s'.registry.deliveries = s.registry.deliveries) :
    (s'.batches n).Sublist (s.batches n) := by
  rw [Situation.batches, Situation.batches, Situation.deliveriesOf, Situation.deliveriesOf, hd]
  exact ((hp.filter _).map _).append (.refl _)

/-- Issues that are delivered stay what they were. -/
theorem batches_deliver_perm (n : Nat) {k : Nat} {p : Pending} {d : Delivery}
    (hk : s.pending[k]? = some p) (hinstallation : d.installation = p.installation)
    (hissues : d.issues = p.issues) (hp : s'.pending = s.pending.eraseIdx k)
    (hd : s'.registry.deliveries = s.registry.deliveries ++ [d]) :
    (s'.batches n).Perm (s.batches n) := by
  obtain ⟨hlt, rfl⟩ := List.getElem?_eq_some_iff.mp hk
  have hwait : List.Perm (s.pendingOf n)
      ([s.pending[k]].filter (fun p => p.installation == n) ++ s'.pendingOf n) := by
    rw [Situation.pendingOf, Situation.pendingOf, hp, ← List.filter_append]
    exact ((List.getElem_cons_eraseIdx_perm hlt).filter _).symm
  have hnew : ([d].filter fun d => d.installation == n).map Delivery.issues
      = ([s.pending[k]].filter fun p => p.installation == n).map Pending.issues := by
    simp only [List.filter_cons, List.filter_nil, hinstallation]
    split
    · simp [hissues]
    · rfl
  rw [Situation.batches, Situation.batches, Situation.deliveriesOf, hd, List.filter_append,
    List.map_append, hnew, ← Situation.deliveriesOf, ← List.append_assoc]
  refine List.perm_append_comm.trans ?_
  rw [← List.append_assoc, ← List.map_append]
  exact (hwait.symm.map _).append_right _

/-- Looking at an execution delivers nothing. -/
theorem deliveriesOf_examine (forget : Fingerprint.Seen.Forgetting) (m : Nat) (x : Execution)
    (s : Situation) (n : Nat) : (s.examine forget m x).deliveriesOf n = s.deliveriesOf n := by
  rw [Situation.deliveriesOf, Situation.examine_registry, examineBy_deliveries]
  rfl

/-- Looking at an execution of another installation adds no batch. -/
theorem batches_examine_of_ne (forget : Fingerprint.Seen.Forgetting) (x : Execution) (s : Situation)
    (hm : m ≠ n) : (s.examine forget m x).batches n = s.batches n := by
  rw [Situation.batches, deliveriesOf_examine, Situation.batches, Situation.pendingOf,
    Situation.pendingOf]
  rcases Situation.pending_examine forget m x s with hp | ⟨i, -, -, -, -, -, hp⟩
  · rw [hp]
  · rw [hp, List.filter_append, List.filter_cons_of_neg (by simpa using hm), List.filter_nil,
      List.append_nil]

/-- An execution that is looked at adds its issues to the batches, if there are any. -/
theorem batches_examine (forget : Fingerprint.Seen.Forgetting) (n : Nat) (x : Execution)
    (s : Situation) :
    (s.examine forget n x).batches n = s.batches n
      ∨ ∃ batch dbPath, IssuesOf s.registry.engine dbPath x batch
        ∧ ((s.examine forget n x).batches n).Perm (batch :: s.batches n) := by
  rw [Situation.batches, deliveriesOf_examine, Situation.batches, Situation.pendingOf,
    Situation.pendingOf]
  rcases Situation.pending_examine forget n x s with hp | ⟨i, -, -, -, -, hissues, hp⟩
  · rw [hp]
    exact .inl rfl
  · refine .inr ⟨_, i.dbPath, ⟨hissues, i.policy, s.registry.time, rfl⟩, ?_⟩
    rw [hp, List.filter_append, List.filter_cons_of_pos (by simp), List.filter_nil, List.map_append,
      List.append_assoc]
    exact List.perm_middle

/-! ### What was seen stays seen -/

/-- An installation that is installed after a quiet change was installed before, and has seen the
same. -/
theorem seen_kept_of_quiet {r r' : Registry} {i' : Installation} (hr : Quiet r r')
    (hi' : r'.installations[n]? = some i') (hphase : i'.phase = .installed) :
    ∃ i, r.installations[n]? = some i ∧ i.phase = .installed ∧ i'.seen = i.seen := by
  obtain ⟨i, hi, hk⟩ := hr.kept n i' hi' hphase
  exact ⟨i, hi, hk.phase ▸ hphase, hk.seen⟩

/-- The same after an installation was changed in neither its phase nor what it has seen. -/
theorem seen_kept_of_update {r : Registry} {i' : Installation} {f : Installation → Installation}
    (hi' : (r.update m f).installations[n]? = some i') (hphase : i'.phase = .installed)
    (hf : ∀ i, (f i).phase = i.phase ∧ (f i).seen = i.seen) :
    ∃ i, r.installations[n]? = some i ∧ i.phase = .installed ∧ i'.seen = i.seen := by
  rw [getElem?_update] at hi'
  split at hi'
  · obtain ⟨i, hi, rfl⟩ := Option.map_eq_some_iff.mp hi'
    exact ⟨i, hi, (hf i).1.symm.trans hphase, (hf i).2⟩
  · exact ⟨i', hi', hphase, rfl⟩

/-! ### The invariant -/

/-- What waits for an installation or was delivered from it is about first executions, and no
statement is reported twice. -/
structure Deduplicated (engine : Engine) (n : Nat) (s : Situation) : Prop where
  engine_eq : s.registry.engine = engine
  fresh : s.registry.installations.length ≤ n → examinedOn n s.history = []
  seen : ∀ i, s.registry.installations[n]? = some i → i.phase = .installed →
    i.seen.Holds (max 1 engine.settings.maxSeenStatements)
      ((countedOn engine n s.history).map Execution.fingerprint)
  first : ∀ batch ∈ s.batches n, ∃ x, IsFirst x (countedOn engine n s.history)
    ∧ ∃ dbPath, IssuesOf engine dbPath x batch
  once : ∀ fingerprint, (s.batches n).countP (isAbout fingerprint) ≤ 1

namespace Deduplicated

/-- At the start nothing is reported. -/
theorem start (engine : Engine) (time n : Nat) : Deduplicated engine n (.start engine time) where
  engine_eq := rfl
  fresh _ := rfl
  seen i hi := by simp [Situation.start, Registry.new] at hi
  first batch hbatch := by cases hbatch
  once _ := Nat.zero_le _

/-- Nothing changes for an installation on which nothing more counts. -/
theorem of_same (h : Deduplicated engine n s) (he : s'.registry.engine = s.registry.engine)
    (hfresh : s'.registry.installations.length ≤ n → examinedOn n s'.history = [])
    (hcounted : countedOn engine n s'.history = countedOn engine n s.history)
    (hseen : ∀ i', s'.registry.installations[n]? = some i' → i'.phase = .installed →
      ∃ i, s.registry.installations[n]? = some i ∧ i.phase = .installed ∧ i'.seen = i.seen)
    (hbatches : (s'.batches n).Subperm (s.batches n)) : Deduplicated engine n s' where
  engine_eq := he.trans h.engine_eq
  fresh := hfresh
  seen i' hi' hphase' := by
    obtain ⟨i, hi, hphase, hsame⟩ := hseen i' hi' hphase'
    rw [hsame, hcounted]
    exact h.seen i hi hphase
  first batch hbatch := by
    rw [hcounted]
    exact h.first batch (hbatches.subset hbatch)
  once fingerprint := (hbatches.countP_le _).trans (h.once fingerprint)

/-- What is looked at on one installation does not concern another. -/
theorem examine_of_ne (h : Deduplicated engine n s) (hm : m ≠ n)
    (forget : Fingerprint.Seen.Forgetting) (x : Execution) :
    Deduplicated engine n (s.examine forget m x) := by
  have hlen := (sameLives_examineBy forget s.registry m x).length_eq
  have hexamined : examinedOn n [.examine m x] = [] := by rw [examinedOn_examine, if_neg hm]
  refine h.of_same (examineBy_engine forget s.registry m x) (fun hn => ?_) ?_
    (fun i' hi' hp => ?_) ?_
  · rw [Situation.examine_history, examinedOn_append, hexamined, List.append_nil]
    exact h.fresh (hlen ▸ hn)
  · rw [Situation.examine_history, countedOn_append, countedOn, countedOn, hexamined,
      List.filter_nil, List.append_nil]
  · exact ⟨i', (getElem?_examineBy_of_ne forget s.registry x (Ne.symm hm)).symm.trans hi', hp, rfl⟩
  · rw [batches_examine_of_ne forget x s hm]

/-- What was too short changes nothing. -/
theorem examine_short (h : Deduplicated engine n s) (forget : Fingerprint.Seen.Forgetting)
    (hn : n < s.registry.installations.length)
    (htime : x.elapsedMs < engine.settings.minElapsedMs) :
    Deduplicated engine n (s.examine forget n x) := by
  have hr := examineBy_of_short forget n (h.engine_eq ▸ htime)
  have hp : (s.examine forget n x).pending = s.pending := by rw [Situation.examine, hr]; rfl
  refine h.of_same ?_ (fun hlen => ?_) ?_ (fun i' hi' hphase => ?_)
    (batches_sublist n ?_ ?_).subperm
  · rw [Situation.examine_registry, hr]
  · rw [Situation.examine_registry, hr] at hlen
    exact absurd hlen (Nat.not_le_of_lt hn)
  · rw [Situation.examine_history, countedOn_append, countedOn_of_short htime, List.append_nil]
  · rw [Situation.examine_registry, hr] at hi'
    exact ⟨i', hi', hphase, rfl⟩
  · rw [hp]
  · rw [Situation.examine_registry, hr]

/-- What was seen before adds no issues. -/
theorem examine_again (h : Deduplicated engine n s) (forget : Fingerprint.Seen.Forgetting)
    (hi : s.registry.installations[n]? = some i)
    (htime : engine.settings.minElapsedMs ≤ x.elapsedMs)
    (hseen : i.seen.contains x.fingerprint = true) :
    Deduplicated engine n (s.examine forget n x) := by
  have hr := examineBy_of_seen forget hi hseen
  have hbatches : (s.examine forget n x).batches n = s.batches n := by
    rw [Situation.examine, hr]
    rfl
  have hcounted : countedOn engine n (s.examine forget n x).history
      = countedOn engine n s.history ++ [x] := by
    rw [Situation.examine_history, countedOn_append, countedOn_of_long htime]
  refine
    { engine_eq := by rw [Situation.examine_registry, hr, h.engine_eq]
      fresh := fun hlen => ?_
      seen := fun i' hi' hphase => ?_
      first := fun batch hbatch => ?_
      once := by rw [hbatches]; exact h.once }
  · rw [Situation.examine_registry, hr] at hlen
    exact absurd (List.getElem?_eq_some_iff.mp hi).1 (Nat.not_lt_of_le hlen)
  · rw [Situation.examine_registry, hr, hi] at hi'
    cases hi'
    rw [hcounted, List.map_append]
    exact (h.seen i hi hphase).again hseen
  · rw [hbatches] at hbatch
    obtain ⟨y, hy, hissues⟩ := h.first batch hbatch
    exact ⟨y, hcounted ▸ hy.append [x], hissues⟩

/-- The first execution of a statement that counts adds its issues, if any. -/
theorem examine_new (h : Deduplicated engine n s) (forget : Fingerprint.Seen.Forgetting)
    (hi : s.registry.installations[n]? = some i) (hphase : i.phase = .installed)
    (htime : engine.settings.minElapsedMs ≤ x.elapsedMs)
    (hnew : i.seen.contains x.fingerprint = false)
    (hfits : statementsOn engine n (s.examine forget n x).history
      ≤ max 1 engine.settings.maxSeenStatements) :
    Deduplicated engine n (s.examine forget n x) := by
  have hcounted : countedOn engine n (s.examine forget n x).history
      = countedOn engine n s.history ++ [x] := by
    rw [Situation.examine_history, countedOn_append, countedOn_of_long htime]
  have hfresh : x.fingerprint ∉ (countedOn engine n s.history).map Execution.fingerprint := by
    rw [← (h.seen i hi hphase).contains_iff, hnew]
    decide
  -- No batch so far is about this statement, since batches come from executions that counted.
  have hold : ∀ batch ∈ s.batches n, isAbout x.fingerprint batch = false := by
    intro batch hbatch
    obtain ⟨y, hy, dbPath, hissues⟩ := h.first batch hbatch
    rw [isAbout_issues hissues, beq_eq_false_iff_ne]
    intro heq
    exact hfresh (heq ▸ List.mem_map_of_mem hy.mem)
  have hr := examineBy_of_admitted forget hi hphase (h.engine_eq ▸ htime) hnew
  refine
    { engine_eq := (examineBy_engine forget s.registry n x).trans h.engine_eq
      fresh := fun hlen => ?_
      seen := fun i' hi' _ => ?_
      first := fun batch hbatch => ?_
      once := fun fingerprint => ?_ }
  · rw [Situation.examine_registry, (sameLives_examineBy forget s.registry n x).length_eq] at hlen
    exact absurd (List.getElem?_eq_some_iff.mp hi).1 (Nat.not_lt_of_le hlen)
  · rw [Situation.examine_registry, hr] at hi'
    rw [getElem?_update, if_pos rfl, hi] at hi'
    cases hi'
    rw [statementsOn, hcounted, List.map_append] at hfits
    rw [hcounted, List.map_append]
    exact (h.seen i hi hphase).insertBy forget hnew hfits
  · rw [hcounted]
    have hkept : batch ∈ s.batches n → ∃ y, IsFirst y (countedOn engine n s.history ++ [x])
        ∧ ∃ dbPath, IssuesOf engine dbPath y batch := by
      intro hbatch
      obtain ⟨y, hy, hissues⟩ := h.first batch hbatch
      exact ⟨y, hy.append [x], hissues⟩
    -- Either nothing was found, or one batch waits that was not there before.
    rcases batches_examine forget n x s with hsame | ⟨added, dbPath, hissues, hperm⟩
    · exact hkept (hsame ▸ hbatch)
    · rcases List.mem_cons.mp (hperm.mem_iff.mp hbatch) with rfl | hbatch
      · exact ⟨x, isFirst_concat hfresh, dbPath, h.engine_eq ▸ hissues⟩
      · exact hkept hbatch
  · rcases batches_examine forget n x s with hsame | ⟨added, dbPath, hissues, hperm⟩
    · rw [hsame]
      exact h.once fingerprint
    · rw [hperm.countP_eq, List.countP_cons, isAbout_issues hissues]
      by_cases heq : x.fingerprint = fingerprint
      · rw [← heq, List.countP_eq_zero.mpr (by simpa using hold)]
        split <;> decide
      · rw [if_neg (by simpa using heq)]
        exact h.once fingerprint

/-- Looking at an execution keeps the invariant, if all that counted fits. -/
theorem examine (h : Deduplicated engine n s) (forget : Fingerprint.Seen.Forgetting)
    (hm : ∃ dbPath, s.registry.life? m = some (dbPath, .installed))
    (hfits : statementsOn engine n (s.examine forget m x).history
      ≤ max 1 engine.settings.maxSeenStatements) :
    Deduplicated engine n (s.examine forget m x) := by
  by_cases hmn : m = n
  · subst hmn
    obtain ⟨dbPath, hlife⟩ := hm
    obtain ⟨i, hi, -, hphase⟩ := life?_eq_some_iff.mp hlife
    by_cases htime : x.elapsedMs < engine.settings.minElapsedMs
    · exact h.examine_short forget (lt_length_of_life? hlife) htime
    · have htime' := Nat.le_of_not_lt htime
      cases hseen : i.seen.contains x.fingerprint with
      | true => exact h.examine_again forget hi htime' hseen
      | false => exact h.examine_new forget hi hphase htime' hseen hfits
  · exact h.examine_of_ne hmn forget x

/-- A step on which nothing counts keeps the invariant. -/
theorem uncounted (h : Deduplicated engine n s) (he : s'.registry.engine = s.registry.engine)
    (hlen : s.registry.installations.length ≤ s'.registry.installations.length)
    (hh : ∃ events, s'.history = s.history ++ events ∧ Unexamined events)
    (hseen : ∀ i', s'.registry.installations[n]? = some i' → i'.phase = .installed →
      ∃ i, s.registry.installations[n]? = some i ∧ i.phase = .installed ∧ i'.seen = i.seen)
    (hbatches : (s'.batches n).Subperm (s.batches n)) : Deduplicated engine n s' := by
  have hexamined : examinedOn n s'.history = examinedOn n s.history := examinedOn_of_unexamined hh
  refine h.of_same he (fun hn => ?_) ?_ hseen hbatches
  · rw [hexamined]
    exact h.fresh (hlen.trans hn)
  · rw [countedOn, hexamined, countedOn]

/-- A new installation has seen nothing. -/
theorem install (h : Deduplicated engine n s) {dbPath : String} {subscriber : Subscriber}
    (he : s'.registry.engine = s.registry.engine)
    (hd : s'.registry.deliveries = s.registry.deliveries)
    (hi : s'.registry.installations = s.registry.installations
      ++ [.start dbPath subscriber s.registry.engine.settings.maxSeenStatements])
    (hp : s'.pending = s.pending)
    (hh : ∃ events, s'.history = s.history ++ events ∧ Unexamined events) :
    Deduplicated engine n s' := by
  have hexamined : examinedOn n s'.history = examinedOn n s.history := examinedOn_of_unexamined hh
  have hbatches : s'.batches n = s.batches n := by
    rw [Situation.batches, Situation.pendingOf, Situation.deliveriesOf, hp, hd]
    rfl
  refine
    { engine_eq := he.trans h.engine_eq
      fresh := fun hn => ?_
      seen := fun i' hi' hphase => ?_
      first := by rw [hbatches, countedOn, hexamined]; exact h.first
      once := by rw [hbatches]; exact h.once }
  · rw [hi, List.length_append] at hn
    rw [hexamined]
    exact h.fresh (Nat.le_of_add_right_le hn)
  · rw [countedOn, hexamined]
    rw [hi, List.getElem?_append] at hi'
    split at hi'
    · exact h.seen i' hi' hphase
    · next hn =>
      obtain rfl := List.mem_singleton.mp (List.mem_of_getElem? hi')
      rw [h.fresh (Nat.le_of_not_lt hn), ← h.engine_eq]
      exact .new _

/-- Every step keeps the invariant, if all that counted fits. -/
theorem step (h : Deduplicated engine n s) (st : Step)
    (hfits : statementsOn engine n (s.step st).history ≤ max 1 engine.settings.maxSeenStatements) :
    Deduplicated engine n (s.step st) := by
  have he := s.engine_step st
  have hlen := s.length_le_step st
  -- Only looking at an execution counts; all other steps keep what was seen and add no batch.
  cases s.advances_step st with
  | quiet _ hr hp hh =>
    exact h.uncounted he hlen hh (fun _ => seen_kept_of_quiet hr)
      (batches_sublist n hp hr.deliveries).subperm
  | reinstall dbPath subscriber m _ _ hr hp hh =>
    refine h.uncounted he hlen hh (fun i' hi' hphase => ?_)
      (batches_sublist n (hp ▸ .refl _) (by rw [hr]; rfl)).subperm
    rw [hr] at hi'
    exact seen_kept_of_update hi' hphase fun _ => ⟨rfl, rfl⟩
  | install dbPath subscriber _ _ _ hd hi hp hh => exact h.install he hd hi hp hh
  | notify dbPath x m _ _ hs =>
    rw [hs] at he hlen ⊢
    exact h.uncounted he hlen ⟨[], by simp, fun _ _ => List.not_mem_nil⟩
      (fun i' hi' hphase => seen_kept_of_update hi' hphase fun _ => ⟨rfl, rfl⟩)
      (batches_sublist n (.refl _) rfl).subperm
  | examine m x forget r _ htask hr hl hs =>
    have hbatches : (Situation.batches n { s with registry := r }).Sublist (s.batches n) :=
      batches_sublist n (.refl _) hr.deliveries
    have hbefore : Deduplicated engine n { s with registry := r } :=
      h.uncounted hr.engine (Nat.le_of_eq hl.length_eq.symm)
        ⟨[], by simp, fun _ _ => List.not_mem_nil⟩ (fun _ => seen_kept_of_quiet hr) hbatches.subperm
    rw [hs] at hfits ⊢
    obtain ⟨dbPath, hlife⟩ := htask.life?_eq
    exact hbefore.examine forget ⟨dbPath, (hl.life? m).trans hlife⟩ hfits
  | deliver k p i _ hk hi hphase hr hp hh =>
    refine h.uncounted he hlen hh (fun i' hi' hphase' => ?_)
      (batches_deliver_perm n hk rfl rfl hp hr.deliveries).subperm
    obtain ⟨j, hj, hkept⟩ := seen_kept_of_quiet hr hi' hphase'
    exact ⟨j, hj, hkept⟩

/-- The invariant holds after every run on which all that counted fits. -/
theorem run (engine : Engine) (time n : Nat) (steps : List Step)
    (hfits : statementsOn engine n ((Situation.start engine time).run steps).history
      ≤ max 1 engine.settings.maxSeenStatements) :
    Deduplicated engine n ((Situation.start engine time).run steps) := by
  induction steps using List.reverseRecOn with
  | nil => exact .start engine time n
  | append_singleton steps last ih =>
    rw [Situation.run_concat] at hfits ⊢
    obtain ⟨events, hhistory, -⟩ := ((Situation.start engine time).run steps).evolves_step last
    have hle := statementsOn_le_append engine n
      ((Situation.start engine time).run steps).history events
    rw [← hhistory] at hle
    exact (ih (hle.trans hfits)).step last hfits

end Deduplicated

/-- An execution of a new statement that took long enough is reported when its issues are delivered
to an installation that is still installed. -/
theorem deliver_examine_of_new (forget : Fingerprint.Seen.Forgetting) (uninstalls : List String)
    (hi : s.registry.installations[n]? = some i) (hphase : i.phase = .installed)
    (htime : s.registry.engine.settings.minElapsedMs ≤ x.elapsedMs)
    (hnew : i.seen.contains x.fingerprint = false)
    (hissues : s.registry.engine.issues i.policy i.dbPath s.registry.time x ≠ []) :
    ((s.examine forget n x).deliver s.pending.length uninstalls).registry.deliveries
      = s.registry.deliveries
        ++ [⟨n, i.subscriber, i.dbPath,
          s.registry.engine.issues i.policy i.dbPath s.registry.time x⟩] := by
  have hr := examineBy_of_admitted forget hi hphase htime hnew
  have hp : (s.examine forget n x).pending[s.pending.length]?
      = some ⟨n, x, s.registry.engine.issues i.policy i.dbPath s.registry.time x⟩ := by
    rw [Situation.examine, hr]
    simp [hissues]
  have hi' : (s.examine forget n x).registry.installations[n]?
      = some { i with seen := (i.seen.insertBy forget x.fingerprint).2 } := by
    rw [Situation.examine_registry, hr]
    rw [getElem?_update, if_pos rfl, hi]
    rfl
  rw [Situation.deliver, hp]
  dsimp only
  rw [publishBy_of_installed uninstalls _ hi' hphase]
  dsimp only
  rw [(quiet_uninstallEach uninstalls _).deliveries, Situation.examine_registry,
    examineBy_deliveries]

/-- As long as no more different statements count on an installation than its memory holds, at most
one delivery of it is about each statement, and it has the issues of the first execution of the
statement that took long enough. What was too short leaves no trace, and an execution that takes
long enough is reported if none of its statement did before. -/
theorem one_delivery_per_statement (engine : Engine) (time : Nat) (steps : List Step) (n : Nat)
    (hfits : statementsOn engine n ((Situation.start engine time).run steps).history
      ≤ max 1 engine.settings.maxSeenStatements) :
    let s := (Situation.start engine time).run steps
    (∀ fingerprint, (s.deliveriesOf n).countP (fun d => isAbout fingerprint d.issues) ≤ 1)
      ∧ (∀ d ∈ s.deliveriesOf n, ∃ x, IsFirst x (countedOn engine n s.history)
        ∧ IssuesOf engine d.dbPath x d.issues)
      ∧ (∀ x forget, x.elapsedMs < engine.settings.minElapsedMs →
        (s.examine forget n x).registry = s.registry ∧ (s.examine forget n x).pending = s.pending)
      ∧ ∀ x forget uninstalls i, s.registry.installations[n]? = some i → i.phase = .installed →
        engine.settings.minElapsedMs ≤ x.elapsedMs →
        (∀ y ∈ countedOn engine n s.history, y.fingerprint ≠ x.fingerprint) →
        engine.issues i.policy i.dbPath s.registry.time x ≠ [] →
        ((s.examine forget n x).deliver s.pending.length uninstalls).registry.deliveries
          = s.registry.deliveries
            ++ [⟨n, i.subscriber, i.dbPath,
              engine.issues i.policy i.dbPath s.registry.time x⟩] := by
  intro s
  have h := Deduplicated.run engine time n steps hfits
  have hengine : s.registry.engine = engine := h.engine_eq
  refine ⟨fun fingerprint => ?_, fun d hd => ?_, fun x forget htime => ?_, ?_⟩
  · rw [← Function.comp_def, ← List.countP_map]
    exact (List.sublist_append_right _ _).countP_le.trans (h.once fingerprint)
  · obtain ⟨x, hx, dbPath, hissues⟩ := h.first d.issues
      (List.mem_append_right _ (List.mem_map_of_mem hd))
    obtain ⟨y, hy⟩ := issuesOf_of_mem_deliveries engine time steps d (List.mem_filter.mp hd).1
    exact ⟨x, hx, hissues.dbPath_eq hy ▸ hissues⟩
  · have hr := examineBy_of_short forget n (hengine ▸ htime)
    refine ⟨by rw [Situation.examine_registry, hr], ?_⟩
    rw [Situation.examine, hr]
    rfl
  · intro x forget uninstalls i hi hphase htime hfirst hissues
    have hnew : i.seen.contains x.fingerprint = false := by
      rw [← Bool.not_eq_true, (h.seen i hi hphase).contains_iff, List.mem_map]
      rintro ⟨y, hy, heq⟩
      exact hfirst y hy heq
    rw [← hengine] at htime hissues ⊢
    exact deliver_examine_of_new forget uninstalls hi hphase htime hnew hissues

/-- Of five executions of a statement, the two short ones do not count, and of the three others, two
of them queued, only the first is reported, to the subscriber that came last. An execution of
another statement is reported, too. -/
theorem one_delivery_of_repeated_statement :
    let engine : Engine :=
      ⟨{ LintSettings.default with maxSeenStatements := 0, minElapsedMs := 10 }, .default⟩
    let like (elapsedMs : Nat) : Execution := ⟨"SELECT a FROM t WHERE a LIKE 'x'", elapsedMs, ""⟩
    let other : Execution := ⟨"SELECT a FROM u WHERE a = 1 OR b = 2", 10, ""⟩
    let steps : List Step := [
      .install "main.db" ⟨"log", false⟩, .notifyNow "main.db" (like 5) .oldest,
      .notify "main.db" (like 20), .notifyNow "main.db" (like 9) .oldest, .work 0 .oldest,
      .install "main.db" ⟨"report", false⟩, .notifyNow "main.db" (like 30) .oldest,
      .notify "main.db" (like 40), .deliver 0 [], .work 0 .oldest, .deliver 0 []]
    let s := (Situation.start engine 0).run steps
    statementsOn engine 0 s.history = 1
      ∧ (s.deliveriesOf 0).map (fun d => (d.subscriber.name, d.issues.map Issue.type))
        = [("report", ["fuzzy_match"])]
      ∧ (∀ fingerprint, (s.deliveriesOf 0).countP (fun d => isAbout fingerprint d.issues) ≤ 1)
      ∧ (∀ d ∈ s.deliveriesOf 0, IssuesOf engine d.dbPath (like 20) d.issues)
      ∧ (s.examine .oldest 0 (like 5)).registry = s.registry
      ∧ ∃ issues, issues ≠ [] ∧
        ((s.examine .oldest 0 other).deliver s.pending.length []).registry.deliveries
          = s.registry.deliveries ++ [⟨0, ⟨"report", false⟩, "main.db", issues⟩] := by
  intro engine like other steps s
  have hcounted : countedOn engine 0 s.history = [like 20, like 30, like 40] := by decide +kernel
  have hdelivered : (s.deliveriesOf 0).map (fun d => (d.subscriber.name, d.issues.map Issue.type))
      = [("report", ["fuzzy_match"])] := by decide +kernel
  obtain ⟨i, hi, hfound⟩ := Option.map_eq_some_iff.mp
    (by decide +kernel :
      s.registry.installations[0]?.map (fun i => (i.phase, i.subscriber, i.dbPath,
        (engine.issues i.policy i.dbPath s.registry.time other).isEmpty))
      = some (.installed, ⟨"report", false⟩, "main.db", false))
  simp only [Prod.mk.injEq, List.isEmpty_eq_false_iff] at hfound
  obtain ⟨hphase, hsubscriber, hdbPath, hissues⟩ := hfound
  -- All that is to be computed is computed: from here on it is enough that `s` ends a run.
  have hs : s = (Situation.start engine 0).run steps := rfl
  clear_value s
  have hone : statementsOn engine 0 s.history = 1 := by
    rw [statementsOn, hcounted]
    decide +kernel
  have hother : ∀ y ∈ countedOn engine 0 s.history, y.fingerprint ≠ other.fingerprint := by
    rw [hcounted]
    decide +kernel
  have hall := one_delivery_per_statement engine 0 steps 0
    (hs ▸ hone.le.trans (Nat.le_max_left 1 _))
  rw [← hs] at hall
  obtain ⟨honce, hfirst, hshort, hnew⟩ := hall
  have hissuesOf : ∀ d ∈ s.deliveriesOf 0, IssuesOf engine d.dbPath (like 20) d.issues := by
    intro d hd
    obtain ⟨x, hx, hof⟩ := hfirst d hd
    rw [IsFirst, hcounted] at hx
    -- All executions that counted are of one statement, so only their first one is a first one.
    obtain ⟨elapsedMs, rfl⟩ : ∃ elapsedMs, x = like elapsedMs := by
      have hmem := List.mem_of_find?_eq_some hx
      simp only [List.mem_cons, List.not_mem_nil, or_false] at hmem
      rcases hmem with rfl | rfl | rfl
      all_goals exact ⟨_, rfl⟩
    have hsame : ((like 20).fingerprint == (like elapsedMs).fingerprint) = true :=
      beq_self_eq_true _
    rw [List.find?_cons_of_pos (p := fun y => y.fingerprint == (like elapsedMs).fingerprint)
      (a := like 20) hsame] at hx
    rw [Option.some.inj hx]
    exact hof
  have hunchanged := (hshort (like 5) .oldest (by decide)).1
  have hreported := hnew other .oldest [] i hi hphase (by decide) hother hissues
  rw [hsubscriber, hdbPath] at hreported
  exact ⟨hone, hdelivered, honce, hissuesOf, hunchanged, _, hdbPath ▸ hissues, hreported⟩

end Run

end QueryLint
