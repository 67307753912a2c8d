import Mathlib.Logic.Relation
import QueryLint.Proofs.Registry.Evolution

/-!
# Work in the background

The operations of a registry with what it leaves to others as a parameter (`Conduct`): which
statements a full memory forgets, and whether a subscriber uninstalls its database while it gets
issues, which may depend on all that it got before. `Task` is what may go on in the background
between two calls.

No task and no notification installs a database (`Wanes`), and what is done on one installation
leaves all others alone. So a registry can be drained (`isDrained_drainBy`), whatever the conduct.
-/

namespace QueryLint

open Fingerprint (Seen)

/-- An issue without the time at which it was found. -/
def Issue.timeless (issue : Issue) : Issue := { issue with createTime := 0 }

/-- A delivery without the times at which its issues were found. -/
def Delivery.timeless (d : Delivery) : Delivery := { d with issues := d.issues.map Issue.timeless }

/-- What a registry leaves to others. -/
structure Conduct where
  /-- What is left of the fingerprints in a full memory. -/
  forget : Seen.Forgetting
  /-- Whether a subscriber uninstalls its database while it gets the last of these deliveries from
  one installation. -/
  uninstalls : List Delivery → Bool

/-- The oldest statements are forgotten, and subscribers do each time what they are known to do. -/
def Conduct.plain : Conduct where
  forget := .oldest
  uninstalls deliveries := deliveries.getLast?.any fun d => d.subscriber.uninstalls

/-- Nothing is left to be done on an installation. -/
def Installation.IsSettled (i : Installation) : Prop := i.queue = [] ∧ i.phase ≠ .uninstalling

namespace Registry

/-! ### Operations -/

/-- What was delivered from an installation, apart from the times. -/
def deliveredFrom (r : Registry) (n : Nat) : List Delivery :=
  (r.deliveries.filter fun d => d.installation == n).map Delivery.timeless

/-- The databases that the subscriber of an installation uninstalls when it gets some issues. -/
def reactionBy (c : Conduct) (r : Registry) (n : Nat) (issues : List Issue) : List String :=
  match r.installations[n]? with
  | none => []
  | some i =>
    let delivery : Delivery := ⟨n, i.subscriber, i.dbPath, issues⟩
    if c.uninstalls (r.deliveredFrom n ++ [delivery.timeless]) then [i.dbPath] else []

/-- Looks at an execution on an installation that is installed, and delivers its issues. -/
def executeBy (c : Conduct) (r : Registry) (n : Nat) (x : Execution) : Registry :=
  let (issues, examined) := r.examineBy c.forget n x
  if issues.isEmpty then examined
  else (examined.publishBy (examined.reactionBy c n issues) n issues).2

/-- Looks at an execution at once. -/
def notifyNowBy (c : Conduct) (r : Registry) (dbPath : String) (x : Execution) : Registry :=
  match r.installed? dbPath with
  | some (n, _) => r.executeBy c n x
  | none => r

/-- Does the first item in the queue of an installation. -/
def workBy (c : Conduct) (n : Nat) (r : Registry) : Registry :=
  match r.take n with
  | (none, taken) => taken
  | (some (.execution x), taken) => taken.executeBy c n x
  | (some .check, taken) => taken.runCheck n

/-- Takes all items from the queue of an installation, and ends it if it is being uninstalled. -/
def settleBy (c : Conduct) (r : Registry) (n : Nat) : Registry :=
  finish n (Nat.repeat (workBy c n) (r.queued n) r)

/-- Runs all queued work, and ends all installations that are being uninstalled. -/
def drainBy (c : Conduct) (r : Registry) : Registry :=
  (List.range r.installations.length).foldl (settleBy c) r

/-- Something that goes on in the background. -/
inductive Task where
  /-- The first item in the queue of an installation is done. -/
  | work (n : Nat)
  /-- An installation ends, if it has no work left. -/
  | finish (n : Nat)
  /-- The clock is set. -/
  | tick (time : Nat)

/-- The registry after a task. -/
def Task.run (c : Conduct) : Task → Registry → Registry
  | work n, r => r.workBy c n
  | finish n, r => r.finish n
  | tick time, r => { r with time }

/-- Some tasks turn one registry into another. -/
def Tasked (c : Conduct) : Registry → Registry → Prop :=
  Relation.ReflTransGen fun r r' => ∃ t : Task, r' = t.run c r

/-- No queue has items left, and nothing is being uninstalled. -/
def IsDrained (r : Registry) : Prop := ∀ i ∈ r.installations, i.IsSettled

variable {c : Conduct} {r r' r'' : Registry} {dbPath : String} {n m : Nat} {i : Installation}

/-- The installation that is updated is found changed. -/
theorem getElem?_update_self (f : Installation → Installation) (hi : r.installations[n]? = some i) :
    (r.update n f).installations[n]? = some (f i) := by
  rw [getElem?_update, if_pos rfl, hi]
  rfl

/-! ### The plain conduct -/

/-- With plain conduct a subscriber reacts as the registry says. -/
theorem reactionBy_plain (r : Registry) (n : Nat) (issues : List Issue) :
    r.reactionBy .plain n issues = r.reaction n := by
  unfold reactionBy reaction
  cases r.installations[n]? with
  | none => rfl
  | some i => simp [Conduct.plain, Delivery.timeless]

/-- With plain conduct an execution is done as by the registry. -/
theorem executeBy_plain (r : Registry) (n : Nat) (x : Execution) :
    r.executeBy .plain n x = (r.execute n x).2 := by
  have hexamine : r.examineBy Conduct.plain.forget n x = r.examine n x := rfl
  unfold executeBy execute
  rw [hexamine]
  rcases r.examine n x with ⟨issues, examined⟩
  dsimp only
  rw [reactionBy_plain]
  split <;> rfl

/-- With plain conduct a registry is notified as by itself. -/
theorem notifyNowBy_plain (r : Registry) (dbPath : String) (x : Execution) :
    r.notifyNowBy .plain dbPath x = (r.notifyNow dbPath x).2 := by
  unfold notifyNowBy notifyNow
  cases r.installed? dbPath with
  | none => rfl
  | some found => exact executeBy_plain r found.1 x

/-- With plain conduct queued work is done as by the registry. -/
theorem workBy_plain (n : Nat) (r : Registry) : r.workBy .plain n = r.work n := by
  unfold workBy work
  rcases r.take n with ⟨_ | x | _, taken⟩
  · rfl
  · exact executeBy_plain taken n x
  · rfl

/-- The drain of the registry itself is the plain one. -/
theorem drainBy_plain (r : Registry) : r.drainBy .plain = r.drain := by
  have hwork : workBy .plain = work := funext fun n => funext fun r => workBy_plain n r
  have hsettle : settleBy .plain = settle := by
    funext r n
    rw [settleBy, settle, hwork]
  rw [drainBy, drain, hsettle]

/-! ### Nothing gets installed -/

/-- A change of a registry that keeps it well formed and installs no database. -/
structure Wanes (r r' : Registry) : Prop where
  engine : r'.engine = r.engine
  length : r'.installations.length = r.installations.length
  wellFormed : r.WellFormed → r'.WellFormed
  installed : ∀ m d, r'.life? m = some (d, .installed) → r.life? m = some (d, .installed)

namespace Wanes

/-- A registry wanes to itself. -/
theorem refl (r : Registry) : Wanes r r := ⟨rfl, rfl, id, fun _ _ => id⟩

/-- Waning twice is waning. -/
theorem trans (h : Wanes r r') (h' : Wanes r' r'') : Wanes r r'' where
  engine := h'.engine.trans h.engine
  length := h'.length.trans h.length
  wellFormed hr := h'.wellFormed (h.wellFormed hr)
  installed m d hm := h.installed m d (h'.installed m d hm)

/-- Where all lives stay the same, a registry wanes. -/
theorem of_sameLives (he : r'.engine = r.engine) (hl : SameLives r r') : Wanes r r' where
  engine := he
  length := hl.length_eq
  wellFormed hr := by
    refine ⟨fun {d m} hfind => ?_, fun {d m} hlife => ?_⟩
    · rw [hl.databases] at hfind
      rw [hl.life?]
      exact hr.entry hfind
    · rw [hl.life?] at hlife
      rw [hl.databases]
      exact hr.latest hlife
  installed m d hm := by rwa [hl.life?] at hm

end Wanes

/-- Uninstalling begins no life. -/
theorem wanes_uninstall (r : Registry) (dbPath : String) : Wanes r (r.uninstall dbPath).2 := by
  cases hn : r.current? dbPath with
  | none =>
    rw [uninstall_of_current?_eq_none hn]
    exact .refl r
  | some n =>
    have hl := life?_uninstall hn
    rw [uninstall_of_current?_eq_some hn] at hl ⊢
    refine ⟨rfl, List.length_modify _ _ _, fun hr => hr.uninstall rfl hl, fun m d hm => ?_⟩
    rw [hl] at hm
    split at hm
    · simp at hm
    · exact hm

/-- Uninstalling several databases begins no life. -/
theorem wanes_uninstallEach (dbPaths : List String) (r : Registry) :
    Wanes r (r.uninstallEach dbPaths).2 := by
  induction dbPaths generalizing r with
  | nil => exact .refl r
  | cons dbPath rest ih => exact (wanes_uninstall r dbPath).trans (ih _)

/-- The end of an installation begins no life. -/
theorem wanes_finish (r : Registry) (n : Nat) : Wanes r (r.finish n) := by
  cases hdone : r.installations[n]?.any Installation.isDone with
  | false =>
    rw [finish_of_not_isDone hdone]
    exact .refl r
  | true =>
    obtain ⟨d, hlife, hd, hl⟩ := finish_of_isDone hdone
    refine ⟨?_, ?_, fun hr => hr.ended hlife hd hl, fun m d hm => ?_⟩
    · unfold finish
      split
      · rfl
      · split
        · dsimp only
          split <;> rfl
        · rfl
    · unfold finish
      split
      · rfl
      · split
        · dsimp only
          rw [tell_installations]
          split <;> exact List.length_modify _ _ _
        · rfl
    · rw [hl] at hm
      split at hm
      · simp at hm
      · exact hm

/-- A delivery begins no life, whatever the subscriber uninstalls. -/
theorem wanes_publishBy (uninstalls : List String) (r : Registry) (n : Nat) (issues : List Issue) :
    Wanes r (r.publishBy uninstalls n issues).2 := by
  by_cases hn : ∃ i, r.installations[n]? = some i ∧ i.phase = .installed
  · obtain ⟨i, hi, hphase⟩ := hn
    have hdelivered : Wanes r { r with
        deliveries := r.deliveries ++ [⟨n, i.subscriber, i.dbPath, issues⟩] } :=
      .of_sameLives rfl (.of_eq rfl rfl)
    rw [publishBy_of_installed uninstalls issues hi hphase]
    exact hdelivered.trans (wanes_uninstallEach uninstalls _)
  · rw [publishBy_of_not_installed uninstalls issues (by simpa using hn)]
    exact .refl r

/-- Looking at an execution begins no life. -/
theorem wanes_examineBy (c : Conduct) (r : Registry) (n : Nat) (x : Execution) :
    Wanes r (r.examineBy c.forget n x).2 :=
  .of_sameLives (examineBy_engine c.forget r n x) (sameLives_examineBy c.forget r n x)

/-- Doing an execution begins no life. -/
theorem wanes_executeBy (c : Conduct) (r : Registry) (n : Nat) (x : Execution) :
    Wanes r (r.executeBy c n x) := by
  have hexamined := wanes_examineBy c r n x
  unfold executeBy
  dsimp only
  split
  · exact hexamined
  · exact hexamined.trans (wanes_publishBy _ _ n _)

/-- Taking from a queue keeps the engine. -/
theorem take_engine (r : Registry) (n : Nat) : (r.take n).2.engine = r.engine := by
  unfold take
  split
  · rfl
  · split <;> rfl

/-- A check of names keeps the engine. -/
theorem runCheck_engine (r : Registry) (n : Nat) : (r.runCheck n).engine = r.engine := by
  unfold runCheck
  split
  · rfl
  · split <;> rfl

/-- Doing queued work begins no life. -/
theorem wanes_workBy (c : Conduct) (r : Registry) (n : Nat) : Wanes r (r.workBy c n) := by
  have htaken : Wanes r (r.take n).2 := .of_sameLives (take_engine r n) (sameLives_take r n)
  unfold workBy
  generalize r.take n = item at htaken
  rcases item with ⟨_ | x | _, taken⟩
  · exact htaken
  · exact htaken.trans (wanes_executeBy c taken n x)
  · exact htaken.trans (.of_sameLives (runCheck_engine taken n) (sameLives_runCheck taken n))

/-- No task begins a life. -/
theorem wanes_task (c : Conduct) (t : Task) (r : Registry) : Wanes r (t.run c r) := by
  cases t with
  | work n => exact wanes_workBy c r n
  | finish n => exact wanes_finish r n
  | tick time => exact .of_sameLives rfl (.of_eq rfl rfl)

/-- Queueing an execution begins no life. -/
theorem wanes_notify (r : Registry) (dbPath : String) (x : Execution) :
    Wanes r (r.notify dbPath x) := by
  refine .of_sameLives ?_ (sameLives_enqueue r dbPath _)
  unfold notify enqueue
  split <;> rfl

/-- Notifying without queueing begins no life. -/
theorem wanes_notifyNowBy (c : Conduct) (r : Registry) (dbPath : String) (x : Execution) :
    Wanes r (r.notifyNowBy c dbPath x) := by
  unfold notifyNowBy
  split
  · exact wanes_executeBy c r _ x
  · exact .refl r

/-! ### What is done on one installation -/

/-- A change of a registry that leaves an installation as it is, and delivers nothing from it. -/
structure Spares (n : Nat) (r r' : Registry) : Prop where
  installation : r'.installations[n]? = r.installations[n]?
  delivered : r'.deliveredFrom n = r.deliveredFrom n

namespace Spares

/-- Nothing spares every installation. -/
theorem refl (n : Nat) (r : Registry) : Spares n r r := ⟨rfl, rfl⟩

/-- What is spared twice is spared. -/
theorem trans (h : Spares n r r') (h' : Spares n r' r'') : Spares n r r'' :=
  ⟨h'.installation.trans h.installation, h'.delivered.trans h.delivered⟩

/-- Changing another installation spares one. -/
theorem of_modify {f : Installation → Installation} (hm : m ≠ n)
    (hi : r'.installations = r.installations.modify m f) (hd : r'.deliveries = r.deliveries) :
    Spares n r r' := by
  refine ⟨?_, by rw [deliveredFrom, deliveredFrom, hd]⟩
  rw [hi, List.getElem?_modify]
  simp [hm]

end Spares

/-- Taking from one queue spares the other installations. -/
theorem spares_take (r : Registry) (hm : m ≠ n) : Spares n r (r.take m).2 := by
  unfold take
  split
  · exact .refl n r
  · split
    · exact .refl n r
    · exact .of_modify hm rfl rfl

/-- A check of names on one installation spares the others. -/
theorem spares_runCheck (r : Registry) (hm : m ≠ n) : Spares n r (r.runCheck m) := by
  unfold runCheck
  split
  · exact .refl n r
  · split
    · exact .refl n r
    · exact .of_modify hm rfl rfl

/-- The end of one installation spares the others. -/
theorem spares_finish (r : Registry) (hm : m ≠ n) : Spares n r (r.finish m) := by
  refine ⟨finish_installations r (Ne.symm hm), ?_⟩
  unfold finish
  split
  · rfl
  · split
    · dsimp only
      split <;> rfl
    · rfl

/-- In a well-formed registry, an installation that is installed is the one that its subscriber may
uninstall. -/
theorem publishBy_reactionBy (c : Conduct) (hr : r.WellFormed) (issues : List Issue)
    (hi : r.installations[n]? = some i) (hphase : i.phase = .installed) :
    (r.publishBy (r.reactionBy c n issues) n issues).2
      = let delivery : Delivery := ⟨n, i.subscriber, i.dbPath, issues⟩
        let delivered := { r with deliveries := r.deliveries ++ [delivery] }
        if c.uninstalls (r.deliveredFrom n ++ [delivery.timeless]) then
          delivered.update n fun i => { i with phase := .uninstalling }
        else delivered := by
  rw [publishBy_of_installed _ issues hi hphase, reactionBy, hi]
  dsimp only
  split
  · have hlife : r.life? n = some (i.dbPath, .installed) := by
      rw [life?_of_getElem? hi, hphase]
    have hcurrent : r.current? i.dbPath = some n := hr.current?_eq_some_iff.mpr hlife
    have hdelivered : ({ r with
        deliveries := r.deliveries ++ [⟨n, i.subscriber, i.dbPath, issues⟩] } : Registry).current?
          i.dbPath = some n := hcurrent
    rw [uninstallEach, uninstall_of_current?_eq_some hdelivered]
    rfl
  · rfl

/-- In a well-formed registry, an execution on an installation spares all others. -/
theorem spares_executeBy (c : Conduct) (hr : r.WellFormed) (x : Execution) (hm : m ≠ n) :
    Spares n r (r.executeBy c m x) := by
  have hexamined : Spares n r (r.examineBy c.forget m x).2 :=
    ⟨getElem?_examineBy_of_ne c.forget r x (Ne.symm hm), by
      rw [deliveredFrom, deliveredFrom, examineBy_deliveries]⟩
  have hwell := (wanes_examineBy c r m x).wellFormed hr
  unfold executeBy
  generalize r.examineBy c.forget m x = found at hexamined hwell
  obtain ⟨issues, examined⟩ := found
  dsimp only at hexamined hwell ⊢
  split
  · exact hexamined
  · refine hexamined.trans ?_
    by_cases hinstalled : ∃ i, examined.installations[m]? = some i ∧ i.phase = .installed
    · obtain ⟨i, hi, hphase⟩ := hinstalled
      have hother : ∀ delivery : Delivery, delivery.installation = m →
          Spares n examined { examined with deliveries := examined.deliveries ++ [delivery] } := by
        intro delivery hdelivery
        refine ⟨rfl, ?_⟩
        have hnone : [delivery].filter (fun d => d.installation == n) = [] := by
          simp [hdelivery, hm]
        rw [deliveredFrom, List.filter_append, hnone, List.append_nil, deliveredFrom]
      rw [publishBy_reactionBy c hwell issues hi hphase]
      dsimp only
      split
      · exact (hother _ rfl).trans (.of_modify hm rfl rfl)
      · exact hother _ rfl
    · rw [publishBy_of_not_installed _ issues (by simpa using hinstalled)]
      exact .refl n examined

/-- In a well-formed registry, work on an installation spares all others. -/
theorem spares_workBy (c : Conduct) (hr : r.WellFormed) (hm : m ≠ n) :
    Spares n r (r.workBy c m) := by
  have htaken : Spares n r (r.take m).2 := spares_take r hm
  have hwell : (r.take m).2.WellFormed :=
    (Wanes.of_sameLives (take_engine r m) (sameLives_take r m)).wellFormed hr
  unfold workBy
  generalize r.take m = item at htaken hwell
  rcases item with ⟨_ | x | _, taken⟩
  · exact htaken
  · exact htaken.trans (spares_executeBy c hwell x hm)
  · exact htaken.trans (spares_runCheck taken hm)

/-! ### Draining -/

/-- An execution leaves the queue of its installation as it is. -/
theorem queue_executeBy (c : Conduct) (hr : r.WellFormed) (x : Execution)
    (hi : r.installations[n]? = some i) :
    ∃ i', (r.executeBy c n x).installations[n]? = some i' ∧ i'.queue = i.queue := by
  obtain ⟨seen, hexamined⟩ := getElem?_examineBy c.forget r n x n
  rw [hi, Option.map_some] at hexamined
  have hwell := (wanes_examineBy c r n x).wellFormed hr
  unfold executeBy
  generalize r.examineBy c.forget n x = found at hexamined hwell
  obtain ⟨issues, examined⟩ := found
  dsimp only at hexamined hwell ⊢
  split
  · exact ⟨_, hexamined, rfl⟩
  · by_cases hphase : i.phase = .installed
    · rw [publishBy_reactionBy c hwell issues hexamined hphase]
      dsimp only
      split
      · exact ⟨_, getElem?_update_self _ hexamined, rfl⟩
      · exact ⟨_, hexamined, rfl⟩
    · rw [publishBy_of_not_installed _ issues (by rw [hexamined]; simpa using hphase)]
      exact ⟨_, hexamined, rfl⟩

/-- Work takes one item from a queue. -/
theorem queue_workBy (c : Conduct) (hr : r.WellFormed) (hi : r.installations[n]? = some i) :
    ∃ i', (r.workBy c n).installations[n]? = some i' ∧ i'.queue = i.queue.tail := by
  have hwell : (r.take n).2.WellFormed :=
    (Wanes.of_sameLives (take_engine r n) (sameLives_take r n)).wellFormed hr
  have htaken : ∃ i', (r.take n).2.installations[n]? = some i' ∧ i'.queue = i.queue.tail := by
    unfold take
    rw [hi]
    dsimp only
    split
    · next hqueue => exact ⟨i, hi, by rw [hqueue]; rfl⟩
    · next item rest hqueue =>
      exact ⟨{ i with queue := rest }, getElem?_update_self _ hi, by rw [hqueue]; rfl⟩
  obtain ⟨j, hj, hqueue⟩ := htaken
  unfold workBy
  generalize r.take n = item at hwell hj
  rcases item with ⟨_ | x | _, taken⟩
  · exact ⟨j, hj, hqueue⟩
  · obtain ⟨j', hj', hqueue'⟩ := queue_executeBy c hwell x hj
    exact ⟨j', hj', hqueue'.trans hqueue⟩
  · refine ⟨if j.phase != .installed || j.checked then j else { j with checked := true }, ?_, ?_⟩
    · dsimp only at hj ⊢
      unfold runCheck
      rw [hj]
      dsimp only
      split
      · exact hj
      · exact getElem?_update_self _ hj
    · split <;> exact hqueue

/-- Any number of work items begins no life. -/
theorem wanes_repeat_workBy (c : Conduct) (n k : Nat) (r : Registry) :
    Wanes r (Nat.repeat (workBy c n) k r) := by
  induction k with
  | zero => exact .refl r
  | succ k ih => exact ih.trans (wanes_workBy c _ n)

/-- Any number of work items of one installation spares the others. -/
theorem spares_repeat_workBy (c : Conduct) (hr : r.WellFormed) (hm : m ≠ n) (k : Nat) :
    Spares n r (Nat.repeat (workBy c m) k r) := by
  induction k with
  | zero => exact .refl n r
  | succ k ih => exact ih.trans (spares_workBy c ((wanes_repeat_workBy c m k r).wellFormed hr) hm)

/-- Each work item that is done leaves the queue, and nothing else does. -/
theorem queue_repeat_workBy (c : Conduct) (hr : r.WellFormed) (hi : r.installations[n]? = some i)
    (k : Nat) :
    ∃ i', (Nat.repeat (workBy c n) k r).installations[n]? = some i'
      ∧ i'.queue = i.queue.drop k := by
  induction k with
  | zero => exact ⟨i, hi, rfl⟩
  | succ k ih =>
    obtain ⟨j, hj, hqueue⟩ := ih
    obtain ⟨j', hj', hqueue'⟩ := queue_workBy c ((wanes_repeat_workBy c n k r).wellFormed hr) hj
    exact ⟨j', hj', by rw [hqueue', hqueue, List.tail_drop]⟩

/-- An installation without queued work is settled once it was finished. -/
theorem isSettled_finish (hi : r.installations[n]? = some i) (hqueue : i.queue = []) :
    ∃ i', (r.finish n).installations[n]? = some i' ∧ i'.IsSettled := by
  unfold finish
  rw [hi]
  dsimp only
  split
  · refine ⟨{ i with phase := .uninstalled }, ?_, hqueue, by simp⟩
    rw [tell_installations]
    split <;> exact getElem?_update_self _ hi
  · next hdone => exact ⟨i, hi, hqueue, by simpa [Installation.isDone, hqueue] using hdone⟩

/-- Settling an installation begins no life. -/
theorem wanes_settleBy (c : Conduct) (r : Registry) (n : Nat) : Wanes r (r.settleBy c n) :=
  (wanes_repeat_workBy c n _ r).trans (wanes_finish _ n)

/-- Settling one installation spares the others. -/
theorem spares_settleBy (c : Conduct) (hr : r.WellFormed) (hm : m ≠ n) :
    Spares n r (r.settleBy c m) :=
  (spares_repeat_workBy c hr hm _).trans (spares_finish _ hm)

/-- An installation is settled once all its queued work is done and it is over if it was being
uninstalled. -/
theorem isSettled_settleBy (c : Conduct) (hr : r.WellFormed) (hi : r.installations[n]? = some i) :
    ∃ i', (r.settleBy c n).installations[n]? = some i' ∧ i'.IsSettled := by
  obtain ⟨j, hj, hqueue⟩ := queue_repeat_workBy c hr hi (r.queued n)
  refine isSettled_finish hj ?_
  rw [hqueue, queued, hi]
  exact List.drop_length

/-- Once the installations were settled one after the other, all of them are. -/
theorem isSettled_foldl_settleBy (c : Conduct) (hr : r.WellFormed) (k : Nat) :
    Wanes r ((List.range k).foldl (settleBy c) r)
      ∧ ∀ m < k, ∀ i, ((List.range k).foldl (settleBy c) r).installations[m]? = some i →
        i.IsSettled := by
  induction k with
  | zero => exact ⟨.refl r, fun m hm => absurd hm (Nat.not_lt_zero m)⟩
  | succ k ih =>
    obtain ⟨hwanes, hsettled⟩ := ih
    have hwell := hwanes.wellFormed hr
    rw [List.range_succ, List.foldl_append]
    refine ⟨hwanes.trans (wanes_settleBy c _ k), fun m hm i hi => ?_⟩
    rw [List.foldl_cons, List.foldl_nil] at hi
    rcases Nat.lt_succ_iff_lt_or_eq.mp hm with hlt | rfl
    · rw [(spares_settleBy c hwell (Nat.ne_of_gt hlt)).installation] at hi
      exact hsettled m hlt i hi
    · -- An installation that is there after it was settled was there before.
      have hlength := (wanes_settleBy c ((List.range m).foldl (settleBy c) r) m).length
      have hlt := (List.getElem?_eq_some_iff.mp hi).1
      rw [hlength] at hlt
      obtain ⟨i', hi', hsettled'⟩ := isSettled_settleBy c hwell (List.getElem?_eq_getElem hlt)
      rw [hi] at hi'
      obtain rfl := Option.some.inj hi'
      exact hsettled'

/-- Draining leaves nothing to be done, whatever the conduct. -/
theorem isDrained_drainBy (c : Conduct) (hr : r.WellFormed) : (r.drainBy c).IsDrained := by
  obtain ⟨hwanes, hsettled⟩ := isSettled_foldl_settleBy c hr r.installations.length
  intro i hi
  obtain ⟨m, hm⟩ := List.mem_iff_getElem?.mp hi
  have hlt := (List.getElem?_eq_some_iff.mp hm).1
  rw [drainBy, hwanes.length] at hlt
  exact hsettled m hlt i hm

/-- A task is a run of tasks. -/
theorem tasked_task (c : Conduct) (t : Task) (r : Registry) : Tasked c r (t.run c r) :=
  .single ⟨t, rfl⟩

/-- Any number of work items is a run of tasks. -/
theorem tasked_repeat_workBy (c : Conduct) (n k : Nat) (r : Registry) :
    Tasked c r (Nat.repeat (workBy c n) k r) := by
  induction k with
  | zero => exact .refl
  | succ k ih => exact ih.trans (tasked_task c (.work n) _)

/-- Draining is a matter of tasks. -/
theorem tasked_drainBy (c : Conduct) (r : Registry) : Tasked c r (r.drainBy c) := by
  unfold drainBy
  generalize List.range r.installations.length = numbers
  induction numbers generalizing r with
  | nil => exact .refl
  | cons n rest ih =>
    have hworked := tasked_repeat_workBy c n (r.queued n) r
    exact (hworked.trans (tasked_task c (.finish n) _)).trans (ih (r.settleBy c n))

end Registry

end QueryLint
