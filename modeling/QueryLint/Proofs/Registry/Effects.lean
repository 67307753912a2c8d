import QueryLint.Proofs.Registry.Lives

/-!
# What a step does

For installations that stay installed, most operations leave alone who gets the issues, which
statements were seen, and which executions are queued (`Quiet`). What is left is little: a step
installs a database, replaces a subscriber, queues an execution, looks at one, or delivers issues.
`Advances` lists these cases, and `advances_step` says that there are no others.
-/

namespace QueryLint

/-- An installation that was changed in nothing but its policy, its check and what it has queued,
without queueing an execution. -/
structure Installation.KeptAs (i i' : Installation) : Prop where
  dbPath : i'.dbPath = i.dbPath
  phase : i'.phase = i.phase
  subscriber : i'.subscriber = i.subscriber
  seen : i'.seen = i.seen
  queue : ∀ x, .execution x ∈ i'.queue → .execution x ∈ i.queue

namespace Registry

variable {r r' r'' : Registry} {dbPath : String} {n m : Nat}

/-- A change of a registry that keeps what is installed afterwards, and delivers nothing. -/
structure Quiet (r r' : Registry) : Prop where
  engine : r'.engine = r.engine
  deliveries : r'.deliveries = r.deliveries
  kept : ∀ (m : Nat) (i' : Installation), r'.installations[m]? = some i' → i'.phase = .installed →
    ∃ i, r.installations[m]? = some i ∧ i.KeptAs i'

namespace Quiet

/-- What is not told by the engine, the installations and the deliveries does not matter. -/
theorem of_eq (he : r'.engine = r.engine) (hd : r'.deliveries = r.deliveries)
    (hi : r'.installations = r.installations) : Quiet r r' := by
  refine ⟨he, hd, fun m i' hm _ => ?_⟩
  rw [hi] at hm
  exact ⟨i', hm, rfl, rfl, rfl, rfl, fun _ hx => hx⟩

/-- Doing nothing is quiet. -/
theorem refl (r : Registry) : Quiet r r := of_eq rfl rfl rfl

/-- Two quiet changes in a row are quiet. -/
theorem trans (h : Quiet r r') (h' : Quiet r' r'') : Quiet r r'' := by
  refine ⟨h'.engine.trans h.engine, h'.deliveries.trans h.deliveries, fun m i'' hm hp => ?_⟩
  obtain ⟨i', hm', hk'⟩ := h'.kept m i'' hm hp
  obtain ⟨i, hm, hk⟩ := h.kept m i' hm' (hk'.phase ▸ hp)
  exact ⟨i, hm, hk'.dbPath.trans hk.dbPath, hk'.phase.trans hk.phase,
    hk'.subscriber.trans hk.subscriber, hk'.seen.trans hk.seen,
    fun x hx => hk.queue x (hk'.queue x hx)⟩

/-- A change of one installation is quiet if it keeps the installation as long as that is
installed. -/
theorem of_modify {f : Installation → Installation} (he : r'.engine = r.engine)
    (hd : r'.deliveries = r.deliveries) (hi : r'.installations = r.installations.modify n f)
    (hf : ∀ i, r.installations[n]? = some i → (f i).phase = .installed → i.KeptAs (f i)) :
    Quiet r r' := by
  refine ⟨he, hd, fun m i' hm hp => ?_⟩
  rw [hi, List.getElem?_modify] at hm
  obtain ⟨i, hi, rfl⟩ := Option.map_eq_some_iff.mp hm
  refine ⟨i, hi, ?_⟩
  split
  · next heq =>
    rw [if_pos heq] at hp
    exact hf i (heq ▸ hi) hp
  · exact ⟨rfl, rfl, rfl, rfl, fun _ hx => hx⟩

end Quiet

/-- Setting a whitelist is quiet. -/
theorem quiet_setWhitelist (r : Registry) (dbPath : String) (whitelist : Whitelist) :
    Quiet r (r.setWhitelist dbPath whitelist) := by
  unfold setWhitelist
  split
  · exact .of_modify rfl rfl rfl fun _ _ _ => ⟨rfl, rfl, rfl, rfl, fun _ hx => hx⟩
  · exact .refl r

/-- Enabling a checker is quiet. -/
theorem quiet_enableChecker (r : Registry) (dbPath checker : String) :
    Quiet r (r.enableChecker dbPath checker) := by
  unfold enableChecker
  split
  · dsimp only
    split <;> exact .of_modify rfl rfl rfl fun _ _ _ => ⟨rfl, rfl, rfl, rfl, fun _ hx => hx⟩
  · exact .refl r

/-- Requesting a check is quiet. -/
theorem quiet_requestCheck (r : Registry) (dbPath : String) :
    Quiet r (r.requestCheck dbPath) := by
  unfold requestCheck enqueue
  split
  · refine .of_modify rfl rfl rfl fun _ _ _ => ⟨rfl, rfl, rfl, rfl, fun x hx => ?_⟩
    simpa using hx
  · exact .refl r

/-- Requesting checks of all databases is quiet. -/
theorem quiet_requestChecks (r : Registry) : Quiet r r.requestChecks := by
  unfold requestChecks
  generalize r.databases.keys = dbPaths
  induction dbPaths generalizing r with
  | nil => exact .refl r
  | cons dbPath rest ih => exact (quiet_requestCheck r dbPath).trans (ih _)

/-- A check is quiet. -/
theorem quiet_runCheck (r : Registry) (n : Nat) : Quiet r (r.runCheck n) := by
  unfold runCheck
  split
  · exact .refl r
  · split
    · exact .refl r
    · exact .of_modify rfl rfl rfl fun _ _ _ => ⟨rfl, rfl, rfl, rfl, fun _ hx => hx⟩

/-- Taking an item from a queue is quiet. -/
theorem quiet_take (r : Registry) (n : Nat) : Quiet r (r.take n).2 := by
  unfold take
  split
  · exact .refl r
  · next i hi =>
    split
    · exact .refl r
    · next item rest hqueue =>
      refine .of_modify rfl rfl rfl fun j hj _ => ⟨rfl, rfl, rfl, rfl, fun x hx => ?_⟩
      obtain rfl : i = j := Option.some.inj (hi.symm.trans hj)
      rw [hqueue]
      exact List.mem_cons_of_mem item hx

/-- Uninstalling a database is quiet: an installation that is not installed any more need not be
kept. -/
theorem quiet_uninstall (r : Registry) (dbPath : String) : Quiet r (r.uninstall dbPath).2 := by
  unfold uninstall
  split
  · exact .of_modify rfl rfl rfl fun _ _ hp => by cases hp
  · exact .refl r

/-- Uninstalling some databases is quiet. -/
theorem quiet_uninstallEach (dbPaths : List String) (r : Registry) :
    Quiet r (r.uninstallEach dbPaths).2 := by
  induction dbPaths generalizing r with
  | nil => exact .refl r
  | cons dbPath rest ih => exact (quiet_uninstall r dbPath).trans (ih _)

/-- Ending an installation is quiet. -/
theorem quiet_finish (r : Registry) (n : Nat) : Quiet r (r.finish n) := by
  unfold finish
  split
  · exact .refl r
  · split
    · dsimp only
      split <;> exact .of_modify rfl rfl rfl fun _ _ hp => by cases hp
    · exact .refl r

end Registry

namespace Run

open Registry

/-- Some events among which no execution was looked at. -/
def Unexamined (events : List Event) : Prop :=
  ∀ n x, .examine n x ∉ events

/-- No execution is looked at while databases are uninstalled. -/
theorem unexamined_uninstallEvents (dbPaths : List String) (r : Registry) :
    Unexamined (uninstallEvents dbPaths r) := by
  induction dbPaths generalizing r with
  | nil => intro n x hx; cases hx
  | cons dbPath rest ih =>
    intro n x hx
    rcases List.mem_cons.mp hx with hx | hx
    · cases hx
    · exact ih _ n x hx

/-- Where an execution that is looked at comes from: it is the one that a caller just notified its
database of, or it is queued for an installation that is installed. -/
def IsTask (s : Situation) (st : Step) (n : Nat) (x : Execution) : Prop :=
  (∃ dbPath forget, st = .notifyNow dbPath x forget ∧ s.registry.current? dbPath = some n)
    ∨ ∃ i, s.registry.installations[n]? = some i ∧ i.phase = .installed
      ∧ .execution x ∈ i.queue

/-- What is looked at is looked at on an installation that is installed. -/
theorem IsTask.life?_eq {s : Situation} {st : Step} {n : Nat} {x : Execution}
    (h : IsTask s st n x) : ∃ dbPath, s.registry.life? n = some (dbPath, .installed) := by
  rcases h with ⟨dbPath, forget, -, hd⟩ | ⟨i, hi, hphase, -⟩
  · exact (current?_eq_some_iff.mp hd).2
  · exact ⟨i.dbPath, by rw [life?_of_getElem? hi, hphase]⟩

/-- What a step does to a situation. -/
inductive Advances (s : Situation) (st : Step) (s' : Situation) : Prop
  | quiet (hinstall : ∀ dbPath subscriber, st ≠ .install dbPath subscriber)
      (hr : Quiet s.registry s'.registry) (hp : s'.pending.Sublist s.pending)
      (hh : ∃ events, s'.history = s.history ++ events ∧ Unexamined events)
  /-- A database that is installed gets another subscriber. -/
  | reinstall (dbPath : String) (subscriber : Subscriber) (n : Nat)
      (hst : st = .install dbPath subscriber) (hn : s.registry.current? dbPath = some n)
      (hr : s'.registry = s.registry.update n fun i => { i with subscriber })
      (hp : s'.pending = s.pending)
      (hh : ∃ events, s'.history = s.history ++ events ∧ Unexamined events)
  | install (dbPath : String) (subscriber : Subscriber)
      (hst : st = .install dbPath subscriber) (hn : s.registry.current? dbPath = none)
      (he : s'.registry.engine = s.registry.engine)
      (hd : s'.registry.deliveries = s.registry.deliveries)
      (hi : s'.registry.installations = s.registry.installations
        ++ [.start dbPath subscriber s.registry.engine.settings.maxSeenStatements])
      (hp : s'.pending = s.pending)
      (hh : ∃ events, s'.history = s.history ++ events ∧ Unexamined events)
  /-- An execution is queued for a database that is installed. -/
  | notify (dbPath : String) (x : Execution) (n : Nat) (hst : st = .notify dbPath x)
      (hn : s.registry.current? dbPath = some n)
      (hs : s' = { s with
        registry := s.registry.update n fun i => { i with queue := i.queue ++ [.execution x] } })
  | examine (n : Nat) (x : Execution) (forget : Fingerprint.Seen.Forgetting) (r : Registry)
      (hinstall : ∀ dbPath subscriber, st ≠ .install dbPath subscriber)
      (htask : IsTask s st n x) (hr : Quiet s.registry r) (hl : SameLives s.registry r)
      (hs : s' = { s with registry := r }.examine forget n x)
  | deliver (k : Nat) (p : Pending) (i : Installation)
      (hinstall : ∀ dbPath subscriber, st ≠ .install dbPath subscriber)
      (hk : s.pending[k]? = some p)
      (hi : s.registry.installations[p.installation]? = some i) (hphase : i.phase = .installed)
      (hr : Quiet { s.registry with
          deliveries :=
            s.registry.deliveries ++ [⟨p.installation, i.subscriber, i.dbPath, p.issues⟩] }
        s'.registry)
      (hp : s'.pending = s.pending.eraseIdx k)
      (hh : ∃ events, s'.history = s.history ++ events ∧ Unexamined events)

namespace Situation

variable {s : Situation}

/-- A step that only changes the registry, and that quietly, advances quietly. -/
theorem advances_of_quiet {st : Step} {s' : Situation}
    (hinstall : ∀ dbPath subscriber, st ≠ .install dbPath subscriber)
    (hr : Quiet s.registry s'.registry) (hp : s'.pending = s.pending)
    (hh : s'.history = s.history) : Advances s st s' :=
  .quiet hinstall hr (hp ▸ List.Sublist.refl _) ⟨[], by simp [hh], fun _ _ => List.not_mem_nil⟩

/-- What an installation does to a situation: a new one, or a new subscriber for the current one. -/
theorem advances_install (s : Situation) (dbPath : String) (subscriber : Subscriber) :
    Advances s (.install dbPath subscriber) (s.step (.install dbPath subscriber)) := by
  have hevents : ∃ events, (s.step (.install dbPath subscriber)).history = s.history ++ events
      ∧ Unexamined events := by
    refine ⟨_, rfl, fun n x hx => ?_⟩
    simp at hx
  cases hn : s.registry.current? dbPath with
  | none =>
    have hi := install_installations subscriber hn
    have hrest : (s.registry.install dbPath subscriber).engine = s.registry.engine
        ∧ (s.registry.install dbPath subscriber).deliveries = s.registry.deliveries := by
      unfold Registry.install
      rw [current?_eq_none_iff.mp hn]
      exact ⟨rfl, rfl⟩
    exact .install dbPath subscriber rfl hn hrest.1 hrest.2 hi rfl hevents
  | some n =>
    refine .reinstall dbPath subscriber n rfl hn ?_ rfl hevents
    obtain ⟨⟨k, i⟩, hi, rfl⟩ := Option.map_eq_some_iff.mp hn
    simp only [step, Registry.install]
    rw [hi]

/-- What a queued notification does to a situation: nothing is looked at yet. -/
theorem advances_notify (s : Situation) (dbPath : String) (x : Execution) :
    Advances s (.notify dbPath x) (s.step (.notify dbPath x)) := by
  cases hn : s.registry.current? dbPath with
  | none =>
    refine advances_of_quiet (by simp) ?_ rfl rfl
    simp only [step, Registry.notify, enqueue]
    rw [current?_eq_none_iff.mp hn]
    exact .refl _
  | some n =>
    refine .notify dbPath x n rfl hn ?_
    obtain ⟨⟨k, i⟩, hi, rfl⟩ := Option.map_eq_some_iff.mp hn
    simp only [step, Registry.notify, enqueue]
    rw [hi]

/-- An execution that is looked at leaves nothing behind to be delivered, or it is long enough and
new on an installation that is installed, and its issues wait. -/
theorem pending_examine (forget : Fingerprint.Seen.Forgetting) (n : Nat) (x : Execution)
    (s : Situation) :
    (s.examine forget n x).pending = s.pending
      ∨ ∃ i, s.registry.installations[n]? = some i ∧ i.phase = .installed
        ∧ s.registry.engine.settings.minElapsedMs ≤ x.elapsedMs
        ∧ i.seen.contains (Fingerprint.ofSql x.sql) = false
        ∧ s.registry.engine.issues i.policy i.dbPath s.registry.time x ≠ []
        ∧ (s.examine forget n x).pending = s.pending
          ++ [⟨n, x, s.registry.engine.issues i.policy i.dbPath s.registry.time x⟩] := by
  unfold examine
  rcases examineBy_eq_or forget s.registry n x with h | ⟨i, hi, hphase, htime, hseen⟩
  · rw [h]
    exact .inl rfl
  · rw [examineBy_of_admitted forget hi hphase htime hseen]
    dsimp only
    by_cases hissues : s.registry.engine.issues i.policy i.dbPath s.registry.time x = []
    · rw [hissues]
      exact .inl rfl
    · rw [if_neg (by simpa using hissues)]
      exact .inr ⟨i, hi, hphase, htime, hseen, hissues, rfl⟩

/-- An item that is taken is the first one in the queue of an installation that is installed. -/
theorem mem_queue_of_take {r : Registry} {n : Nat} {item : Work}
    (h : (r.take n).1 = some item) :
    ∃ i, r.installations[n]? = some i ∧ i.phase = .installed ∧ item ∈ i.queue := by
  unfold take at h
  split at h
  · cases h
  · next i hi =>
    split at h
    · cases h
    · next first rest hqueue =>
      dsimp only at h
      split at h
      · next hphase =>
        cases h
        exact ⟨i, hi, eq_of_beq hphase, by simp [hqueue]⟩
      · cases h

/-- What an item of a queue does to a situation: it is looked at if it is an execution. -/
theorem advances_work (s : Situation) (n : Nat) (forget : Fingerprint.Seen.Forgetting) :
    Advances s (.work n forget) (s.step (.work n forget)) := by
  have hr := quiet_take s.registry n
  have hl := sameLives_take s.registry n
  have htask : ∀ item, (s.registry.take n).1 = some item → ∃ i,
      s.registry.installations[n]? = some i
      ∧ i.phase = .installed ∧ item ∈ i.queue := fun _ => mem_queue_of_take
  simp only [step, work]
  generalize s.registry.take n = result at hr hl htask
  obtain ⟨item, taken⟩ := result
  cases item with
  | none => exact advances_of_quiet (by simp) hr rfl rfl
  | some item =>
    cases item with
    | execution x => exact .examine n x forget taken (by simp) (.inr (htask _ rfl)) hr hl rfl
    | check => exact advances_of_quiet (by simp) (hr.trans (quiet_runCheck taken n)) rfl rfl

/-- What a delivery does to a situation: the batch that waits is delivered or dropped. -/
theorem advances_deliver (s : Situation) (k : Nat) (uninstalls : List String) :
    Advances s (.deliver k uninstalls) (s.step (.deliver k uninstalls)) := by
  simp only [step, deliver]
  split
  · exact advances_of_quiet (by simp) (.refl _) rfl rfl
  · next p hk =>
    by_cases hn : ∃ i, s.registry.installations[p.installation]? = some i ∧ i.phase = .installed
    · obtain ⟨i, hi, hphase⟩ := hn
      rw [publishBy_of_installed uninstalls p.issues hi hphase]
      exact .deliver k p i (by simp) hk hi hphase (quiet_uninstallEach uninstalls _) rfl
        ⟨_, rfl, unexamined_uninstallEvents uninstalls s.registry⟩
    · rw [publishBy_of_not_installed uninstalls p.issues (by simpa using hn)]
      exact .quiet (by simp) (.refl _) (List.eraseIdx_sublist ..)
        ⟨[], rfl, fun _ _ => List.not_mem_nil⟩

/-- Every step does one of these things. -/
theorem advances_step (s : Situation) (st : Step) : Advances s st (s.step st) := by
  -- The one place where all steps are looked at: later proofs go by these few cases.
  cases st with
  | install dbPath subscriber => exact advances_install s dbPath subscriber
  | uninstall dbPath =>
    exact .quiet (by simp) (quiet_uninstall _ dbPath) (.refl _)
      ⟨_, rfl, unexamined_uninstallEvents [dbPath] s.registry⟩
  | beginShutdown =>
    exact .quiet (by simp) (quiet_uninstallEach _ _) (.refl _)
      ⟨_, rfl, unexamined_uninstallEvents _ s.registry⟩
  | endShutdown => exact advances_of_quiet (by simp) (.of_eq rfl rfl rfl) rfl rfl
  | setWhitelist dbPath whitelist =>
    exact advances_of_quiet (by simp) (quiet_setWhitelist _ dbPath whitelist) rfl rfl
  | enableChecker dbPath checker =>
    exact advances_of_quiet (by simp) (quiet_enableChecker _ dbPath checker) rfl rfl
  | requestCheck dbPath =>
    exact advances_of_quiet (by simp) (quiet_requestCheck _ dbPath) rfl rfl
  | requestChecks => exact advances_of_quiet (by simp) (quiet_requestChecks _) rfl rfl
  | notify dbPath x => exact advances_notify s dbPath x
  | notifyNow dbPath x forget =>
    simp only [step]
    split
    · next n hn =>
      exact .examine n x forget s.registry (by simp) (.inl ⟨dbPath, forget, rfl, hn⟩) (.refl _)
        (.refl _) rfl
    · exact advances_of_quiet (by simp) (.refl _) rfl rfl
  | work n forget => exact advances_work s n forget
  | deliver k uninstalls => exact advances_deliver s k uninstalls
  | finish n =>
    refine .quiet (by simp) (quiet_finish _ n) (.refl _) ⟨_, rfl, fun m x hx => ?_⟩
    split at hx <;> simp at hx
  | tick time => exact advances_of_quiet (by simp) (.of_eq rfl rfl rfl) rfl rfl

/-- A step delivers nothing, or issues that wait for an installation that is installed. -/
theorem deliveries_step (s : Situation) (st : Step) :
    (s.step st).registry.deliveries = s.registry.deliveries
      ∨ ∃ p i, p ∈ s.pending ∧ s.registry.installations[p.installation]? = some i
        ∧ i.phase = .installed
        ∧ (s.step st).registry.deliveries
          = s.registry.deliveries ++ [⟨p.installation, i.subscriber, i.dbPath, p.issues⟩] := by
  cases advances_step s st with
  | quiet _ hr => exact .inl hr.deliveries
  | reinstall _ _ _ _ _ hr => exact .inl (by rw [hr]; rfl)
  | install _ _ _ _ _ hd => exact .inl hd
  | notify _ _ _ _ _ hs => exact .inl (by rw [hs]; rfl)
  | examine n x forget r _ _ hr _ hs =>
    left
    rw [hs, ← hr.deliveries]
    exact examineBy_deliveries forget r n x
  | deliver k p i _ hk hi hphase hr =>
    exact .inr ⟨p, i, List.mem_of_getElem? hk, hi, hphase, hr.deliveries⟩

/-- A step looks at nothing, or at one execution that was queued or that a caller notifies of. -/
theorem history_step (s : Situation) (st : Step) :
    (∃ events, (s.step st).history = s.history ++ events ∧ Unexamined events)
      ∨ ∃ n x, IsTask s st n x ∧ SameLives s.registry (s.step st).registry
        ∧ (s.step st).history = s.history ++ [.examine n x] := by
  cases advances_step s st with
  | quiet _ _ _ hh => exact .inl hh
  | reinstall _ _ _ _ _ _ _ hh => exact .inl hh
  | install _ _ _ _ _ _ _ _ hh => exact .inl hh
  | notify _ _ _ _ _ hs => exact .inl ⟨[], by simp [hs], fun _ _ => List.not_mem_nil⟩
  | deliver _ _ _ _ _ _ _ _ _ hh => exact .inl hh
  | examine n x forget r _ htask _ hl hs =>
    refine .inr ⟨n, x, htask, ?_, by rw [hs]; rfl⟩
    rw [hs]
    exact hl.trans (sameLives_examineBy forget r n x)

end Situation

end Run

end QueryLint
