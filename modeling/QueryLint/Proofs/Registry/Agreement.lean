import QueryLint.Proofs.Registry.Conduct
import QueryLint.Proofs.Registry.Lifecycle

/-!
# The queued and the immediate path agree

What an execution does depends on the installation and on what was delivered from it, and changes
nothing else of them than `Course.serve` says, whenever and on which path it is looked at. A course
that has been served all executions in the queue and all that are still to come is thus the same
before and after each task and each notification (`OnCourse`). When a registry is drained and
nothing is to come, it is what is left, on both paths (`queued_agrees_with_immediate`).
-/

namespace QueryLint

/-! ### Courses -/

/-- An installation, and what was delivered from it apart from the times. -/
structure Course where
  installation : Installation
  delivered : List Delivery

namespace Course

/-- Whether an execution is looked at, and not left out. -/
def Admits (engine : Engine) (v : Course) (x : Execution) : Prop :=
  v.installation.phase = .installed ∧ engine.settings.minElapsedMs ≤ x.elapsedMs
    ∧ v.installation.seen.contains (Fingerprint.ofSql x.sql) = false

instance (engine : Engine) (v : Course) (x : Execution) : Decidable (v.Admits engine x) :=
  inferInstanceAs (Decidable (_ ∧ _ ∧ _))

/-- The course once the statement of an execution is remembered. -/
def remember (c : Conduct) (x : Execution) (v : Course) : Course :=
  let seen := (v.installation.seen.insertBy c.forget (Fingerprint.ofSql x.sql)).2
  { v with installation := { v.installation with seen } }

/-- The course once issues without times were delivered from the installation of a number. -/
def deliver (c : Conduct) (n : Nat) (issues : List Issue) (v : Course) : Course :=
  let delivered := v.delivered ++ [⟨n, v.installation.subscriber, v.installation.dbPath, issues⟩]
  if c.uninstalls delivered then
    { installation := { v.installation with phase := .uninstalling }, delivered }
  else { v with delivered }

/-- The course after an execution on the installation of a number. -/
def serve (c : Conduct) (engine : Engine) (n : Nat) (v : Course) (x : Execution) : Course :=
  if v.Admits engine x then
    let issues := engine.issues v.installation.policy v.installation.dbPath 0 x
    if issues.isEmpty then v.remember c x else (v.remember c x).deliver c n issues
  else v

/-- The course without what is queued. -/
def clear (v : Course) : Course := { v with installation := { v.installation with queue := [] } }

/-- The course once an installation that is being uninstalled is finished. -/
def finished (v : Course) : Course :=
  if v.installation.phase = .uninstalling then
    { v with installation := { v.installation with phase := .uninstalled } }
  else v

variable {c : Conduct} {engine : Engine} {n : Nat} {v : Course}

/-- A database that is not installed does not look at an execution. -/
theorem serve_of_not_installed (h : v.installation.phase ≠ .installed) (x : Execution) :
    v.serve c engine n x = v := if_neg fun hadmits => h hadmits.1

/-- Nor does it look at any later one. -/
theorem foldl_serve_of_not_installed (h : v.installation.phase ≠ .installed) (xs : List Execution) :
    xs.foldl (serve c engine n) v = v := by
  induction xs with
  | nil => rfl
  | cons x rest ih => rw [List.foldl_cons, serve_of_not_installed h, ih]

/-- Delivering does not depend on what was delivered before. -/
theorem clear_deliver (issues : List Issue) :
    (v.deliver c n issues).clear = v.clear.deliver c n issues := by
  unfold deliver clear
  dsimp only
  split <;> rfl

/-- What is queued makes no difference. -/
theorem clear_serve (x : Execution) : (v.serve c engine n x).clear
    = v.clear.serve c engine n x := by
  have hadmits : v.clear.Admits engine x ↔ v.Admits engine x := Iff.rfl
  unfold serve
  simp only [hadmits]
  split
  · split
    · next hnone => exact (if_pos hnone).symm
    · next hsome => exact (clear_deliver _).trans (if_neg hsome).symm
  · rfl

/-- An execution changes neither the queue nor the database of its installation. -/
theorem queue_serve (c : Conduct) (engine : Engine) (n : Nat) (v : Course) (x : Execution) :
    (v.serve c engine n x).installation.queue = v.installation.queue
      ∧ (v.serve c engine n x).installation.dbPath = v.installation.dbPath := by
  unfold serve deliver remember
  dsimp only
  split
  · split
    · exact ⟨rfl, rfl⟩
    · split <;> exact ⟨rfl, rfl⟩
  · exact ⟨rfl, rfl⟩

/-- An installation that is not installed ends the same way, whatever is to come. -/
theorem finished_foldl_serve (c : Conduct) (engine : Engine) (n : Nat)
    (h : v.installation.phase ≠ .installed) (xs : List Execution) :
    (xs.foldl (serve c engine n) v.clear).finished = v.clear.finished := by
  have hclear : v.clear.installation.phase ≠ .installed := h
  rw [foldl_serve_of_not_installed hclear]

end Course

namespace Registry

open Fingerprint (Seen)

variable {c : Conduct} {r r' : Registry} {dbPath : String} {n m : Nat} {i : Installation}
    {v : Course}

/-- The course of the installation of a number. -/
def course? (r : Registry) (n : Nat) : Option Course :=
  r.installations[n]?.map fun i => ⟨i, r.deliveredFrom n⟩

/-- The course of an installation is what it is and what was delivered from it. -/
theorem course?_eq_some_iff :
    r.course? n = some v
      ↔ r.installations[n]? = some v.installation ∧ r.deliveredFrom n = v.delivered := by
  rw [course?, Option.map_eq_some_iff]
  constructor
  · rintro ⟨i, hi, rfl⟩
    exact ⟨hi, rfl⟩
  · rintro ⟨hi, hdelivered⟩
    exact ⟨v.installation, hi, by rw [hdelivered]⟩

/-- What spares an installation leaves its course as it is. -/
theorem Spares.course?_eq (h : Spares n r r') : r'.course? n = r.course? n := by
  rw [course?, course?, h.installation, h.delivered]

/-- But for the time, an execution has the same issues whenever it is looked at. -/
theorem map_timeless_issues (engine : Engine) (policy : Policy) (dbPath : String) (time : Nat)
    (x : Execution) :
    (engine.issues policy dbPath time x).map Issue.timeless = engine.issues policy dbPath 0 x := by
  apply List.ext_getElem?
  intro k
  simp only [Engine.issues, List.getElem?_map, List.getElem?_mapIdx, Option.map_map]
  rfl

/-- Updating an installation updates its course. -/
theorem course?_update (f : Installation → Installation) (hv : r.course? n = some v) :
    (r.update n f).course? n = some { v with installation := f v.installation } := by
  obtain ⟨hi, hdelivered⟩ := course?_eq_some_iff.mp hv
  exact course?_eq_some_iff.mpr ⟨getElem?_update_self f hi, hdelivered⟩

/-- An execution that is admitted is remembered. -/
theorem examineBy_of_admits (c : Conduct) {x : Execution} (hv : r.course? n = some v)
    (h : v.Admits r.engine x) :
    ∃ examined, examined.course? n = some (v.remember c x)
      ∧ r.examineBy c.forget n x
        = (r.engine.issues v.installation.policy v.installation.dbPath r.time x, examined) := by
  obtain ⟨hi, -⟩ := course?_eq_some_iff.mp hv
  refine ⟨_, ?_, examineBy_of_admitted c.forget hi h.1 h.2.1 h.2.2⟩
  exact course?_update _ hv

/-- An execution that is not admitted leaves no trace. -/
theorem examineBy_of_not_admits (forget : Seen.Forgetting) {x : Execution}
    (hv : r.course? n = some v) (h : ¬v.Admits r.engine x) : r.examineBy forget n x = ([], r) := by
  obtain ⟨hi, -⟩ := course?_eq_some_iff.mp hv
  rcases examineBy_eq_or forget r n x with hnone | ⟨j, hj, hphase, htime, hseen⟩
  · exact hnone
  · rw [hi] at hj
    obtain rfl := Option.some.inj hj
    exact absurd ⟨hphase, htime, hseen⟩ h

/-- In a well-formed registry, what is delivered from an installation is added to its course. -/
theorem course?_publishBy (c : Conduct) (hr : r.WellFormed) (issues : List Issue)
    (hv : r.course? n = some v) (hphase : v.installation.phase = .installed) :
    (r.publishBy (r.reactionBy c n issues) n issues).2.course? n
      = some (v.deliver c n (issues.map Issue.timeless)) := by
  obtain ⟨hi, hdelivered⟩ := course?_eq_some_iff.mp hv
  let delivery : Delivery := ⟨n, v.installation.subscriber, v.installation.dbPath, issues⟩
  have hadded : ({ r with deliveries := r.deliveries ++ [delivery] } : Registry).course? n
      = some { v with delivered := v.delivered ++ [delivery.timeless] } := by
    have hkept : [delivery].filter (fun d => d.installation == n) = [delivery] := by
      simp [delivery]
    refine course?_eq_some_iff.mpr ⟨hi, ?_⟩
    rw [deliveredFrom, List.filter_append, hkept, List.map_append, ← deliveredFrom, hdelivered]
    rfl
  rw [publishBy_reactionBy c hr issues hi hphase, Course.deliver, hdelivered]
  dsimp only
  split
  · next huninstalls =>
    exact (course?_update _ hadded).trans (congrArg some (if_pos huninstalls).symm)
  · next hstays => exact hadded.trans (congrArg some (if_neg hstays).symm)

/-- In a well-formed registry, an execution is served to the course of its installation. -/
theorem course?_executeBy (c : Conduct) (hr : r.WellFormed) (x : Execution)
    (hv : r.course? n = some v) :
    (r.executeBy c n x).course? n = some (v.serve c r.engine n x) := by
  unfold executeBy Course.serve
  by_cases hadmits : v.Admits r.engine x
  · obtain ⟨examined, hremembered, hexamined⟩ := examineBy_of_admits c hv hadmits
    have hwell : examined.WellFormed := by
      have hwanes := wanes_examineBy c r n x
      rw [hexamined] at hwanes
      exact hwanes.wellFormed hr
    have htimeless :=
      map_timeless_issues r.engine v.installation.policy v.installation.dbPath r.time x
    rw [hexamined, if_pos hadmits, ← htimeless]
    dsimp only
    rw [List.isEmpty_map]
    split
    · exact hremembered
    · exact course?_publishBy c hwell _ hremembered hadmits.1
  · rw [examineBy_of_not_admits c.forget hv hadmits, if_neg hadmits]
    exact hv

/-- Nothing is taken from an empty queue. -/
theorem take_of_queue_eq_nil (hi : r.installations[n]? = some i) (hqueue : i.queue = []) :
    r.take n = (none, r) := by
  unfold take
  rw [hi]
  dsimp only
  rw [hqueue]

/-- The first item of a queue is taken; it is done only as long as the database is installed. -/
theorem take_of_queue_eq_cons {item : Work} {rest : List Work} (hi : r.installations[n]? = some i)
    (hqueue : i.queue = item :: rest) :
    r.take n = (if i.phase == .installed then some item else none,
      r.update n fun i => { i with queue := rest }) := by
  unfold take
  rw [hi]
  dsimp only
  rw [hqueue]

/-! ### Paths -/

/-- The ways in which an execution reaches an installation. -/
inductive Path where
  | queued
  | immediate
  deriving DecidableEq

/-- A notification on a path. -/
def Path.notify (c : Conduct) (dbPath : String) : Path → Registry → Execution → Registry
  | queued, r, x => r.notify dbPath x
  | immediate, r, x => r.notifyNowBy c dbPath x

/-- A database is notified of some executions in turn, with any tasks before, between and behind the
notifications, until the registry is drained. -/
inductive Serves (c : Conduct) (dbPath : String) (path : Path) :
    Registry → List Execution → Registry → Prop
  | drained {r : Registry} (h : r.IsDrained) : Serves c dbPath path r [] r
  | task {r r' : Registry} {xs : List Execution} (t : Task)
      (h : Serves c dbPath path (t.run c r) xs r') : Serves c dbPath path r xs r'
  | notify {r r' : Registry} {x : Execution} {xs : List Execution}
      (h : Serves c dbPath path (path.notify c dbPath r x) xs r') :
        Serves c dbPath path r (x :: xs) r'

variable {path : Path} {xs coming queued : List Execution} {goal : Course}

/-- Tasks may come before the first notification. -/
theorem Serves.of_tasked (ht : Tasked c r r') {r'' : Registry}
    (h : Serves c dbPath path r' xs r'') : Serves c dbPath path r xs r'' := by
  induction ht using Relation.ReflTransGen.head_induction_on with
  | refl => exact h
  | head hstep _ ih =>
    obtain ⟨t, rfl⟩ := hstep
    exact .task t ih

/-- A notification installs nothing, queued or not. -/
theorem wanes_path (c : Conduct) (dbPath : String) (path : Path) (r : Registry) (x : Execution) :
    Wanes r (path.notify c dbPath r x) := by
  cases path with
  | queued => exact wanes_notify r dbPath x
  | immediate => exact wanes_notifyNowBy c r dbPath x

/-- A database may be notified of all executions first, and the registry drained then. -/
theorem serves_drainBy (c : Conduct) (dbPath : String) (path : Path) (hr : r.WellFormed)
    (xs : List Execution) :
    Serves c dbPath path r xs ((xs.foldl (path.notify c dbPath) r).drainBy c) := by
  induction xs generalizing r with
  | nil => exact .of_tasked (tasked_drainBy c r) (.drained (isDrained_drainBy c hr))
  | cons x rest ih => exact .notify (ih ((wanes_path c dbPath path r x).wellFormed hr))

/-! ### What stays the same on the way -/

/-- A database has no installed installation but that of a number. Its course, when it was served
what is queued and what is to come, is the goal. -/
structure OnCourse (c : Conduct) (engine : Engine) (dbPath : String) (n : Nat) (goal : Course)
    (path : Path) (queued coming : List Execution) (r : Registry) : Prop where
  engine_eq : r.engine = engine
  wellFormed : r.WellFormed
  only : ∀ m, r.life? m = some (dbPath, .installed) → m = n
  /-- On the immediate path nothing is ever queued. -/
  queue : path = .immediate → queued = []
  course : ∃ v, r.course? n = some v ∧ v.installation.dbPath = dbPath
    ∧ v.installation.queue = queued.map .execution
    ∧ ((queued ++ coming).foldl (Course.serve c engine n) v.clear).finished = goal

namespace OnCourse

variable {engine : Engine}

/-- A change that spares the installation changes nothing. -/
theorem spared (h : OnCourse c engine dbPath n goal path queued coming r) (hw : Wanes r r')
    (hs : r'.course? n = r.course? n) : OnCourse c engine dbPath n goal path queued coming r' where
  engine_eq := hw.engine.trans h.engine_eq
  wellFormed := hw.wellFormed h.wellFormed
  only m hm := h.only m (hw.installed m dbPath hm)
  queue := h.queue
  course := by rw [hs]; exact h.course

/-- The database is installed exactly if the installation is. -/
theorem current?_eq (h : OnCourse c engine dbPath n goal path queued coming r)
    (hv : r.course? n = some v) (hdbPath : v.installation.dbPath = dbPath) :
    r.current? dbPath = if v.installation.phase = .installed then some n else none := by
  obtain ⟨hi, -⟩ := course?_eq_some_iff.mp hv
  have hlife := life?_of_getElem? hi
  rw [hdbPath] at hlife
  split
  · next hphase =>
    rw [hphase] at hlife
    exact h.wellFormed.current?_eq_some_iff.mpr hlife
  · next hphase =>
    cases hcurrent : r.current? dbPath with
    | none => rfl
    | some m =>
      have hinstalled := h.wellFormed.current?_eq_some_iff.mp hcurrent
      obtain rfl := h.only m hinstalled
      rw [hlife] at hinstalled
      exact absurd (Prod.mk.inj (Option.some.inj hinstalled)).2 hphase

/-- A change makes the course of the installation another one, which ends where the old one does. -/
theorem changed (h : OnCourse c engine dbPath n goal path queued coming r) (hw : Wanes r r')
    {queued' coming' : List Execution} (hempty : path = .immediate → queued' = [])
    (hv : r'.course? n = some v) (hdbPath : v.installation.dbPath = dbPath)
    (hqueue : v.installation.queue = queued'.map .execution)
    (hgoal : ((queued' ++ coming').foldl (Course.serve c engine n) v.clear).finished = goal) :
    OnCourse c engine dbPath n goal path queued' coming' r' where
  engine_eq := hw.engine.trans h.engine_eq
  wellFormed := hw.wellFormed h.wellFormed
  only m hm := h.only m (hw.installed m dbPath hm)
  queue := hempty
  course := ⟨v, hv, hdbPath, hqueue, hgoal⟩

/-- Work serves the first execution in the queue. -/
theorem work (h : OnCourse c engine dbPath n goal path queued coming r) :
    ∃ queued', OnCourse c engine dbPath n goal path queued' coming (r.workBy c n) := by
  obtain ⟨v, hv, hdbPath, hqueue, hgoal⟩ := h.course
  obtain ⟨hi, -⟩ := course?_eq_some_iff.mp hv
  cases queued with
  | nil =>
    refine ⟨[], ?_⟩
    rw [workBy, take_of_queue_eq_nil hi hqueue]
    exact h
  | cons x rest =>
    have htake := take_of_queue_eq_cons hi hqueue
    have hempty : path = .immediate → rest = [] := fun hpath => by cases h.queue hpath
    have hwanes := wanes_workBy c r n
    refine ⟨rest, ?_⟩
    let taken := r.update n fun i => { i with queue := rest.map .execution }
    let left : Course :=
      { v with installation := { v.installation with queue := rest.map .execution } }
    have hleft : taken.course? n = some left := course?_update _ hv
    -- An item that is taken after the installation began to end is dropped, and the rest will be
    -- too.
    by_cases hphase : v.installation.phase = .installed
    · have hworked : r.workBy c n = taken.executeBy c n x := by
        rw [workBy, htake, hphase]
        rfl
      have hlives : SameLives r taken := .of_modify rfl rfl fun _ => rfl
      have htaken : Wanes r taken := .of_sameLives rfl hlives
      have hwell := htaken.wellFormed h.wellFormed
      have hserved := course?_executeBy c hwell x hleft
      obtain ⟨hqueue', hdbPath'⟩ := Course.queue_serve c engine n left x
      rw [show taken.engine = engine from h.engine_eq] at hserved
      rw [hworked] at hwanes ⊢
      refine h.changed hwanes hempty hserved (hdbPath'.trans hdbPath) hqueue' ?_
      rw [Course.clear_serve]
      exact hgoal
    · have hworked : r.workBy c n = taken := by
        rw [workBy, htake, if_neg (by simpa using hphase)]
      rw [hworked] at hwanes ⊢
      refine h.changed hwanes hempty hleft hdbPath rfl ?_
      have hleft' := Course.finished_foldl_serve c engine n (v := left) hphase (rest ++ coming)
      rw [hleft', ← hgoal, Course.finished_foldl_serve c engine n hphase]
      rfl

/-- The end of the installation is where its course ends anyway. -/
theorem finish (h : OnCourse c engine dbPath n goal path queued coming r) :
    OnCourse c engine dbPath n goal path queued coming (r.finish n) := by
  obtain ⟨v, hv, hdbPath, hqueue, hgoal⟩ := h.course
  obtain ⟨hi, -⟩ := course?_eq_some_iff.mp hv
  cases hdone : v.installation.isDone with
  | false =>
    rw [finish_of_not_isDone (by rw [hi, Option.any_some, hdone])]
    exact h
  | true =>
    have hphase : v.installation.phase = .uninstalling := by
      simp only [Installation.isDone, Bool.and_eq_true, beq_iff_eq] at hdone
      exact hdone.1
    let ended : Course := { v with installation := { v.installation with phase := .uninstalled } }
    have hended : (r.finish n).course? n = some ended := by
      unfold Registry.finish
      rw [hi]
      dsimp only
      rw [if_pos hdone]
      split <;> exact course?_update _ hv
    refine h.changed (wanes_finish r n) h.queue hended hdbPath hqueue ?_
    have hphase' : v.installation.phase ≠ .installed := by rw [hphase]; decide
    have hended' : ended.installation.phase ≠ .installed := by simp [ended]
    rw [Course.finished_foldl_serve c engine n hended', ← hgoal,
      Course.finished_foldl_serve c engine n hphase']
    simp [Course.finished, Course.clear, ended, hphase]

/-- No task leads off the course. -/
theorem task (h : OnCourse c engine dbPath n goal path queued coming r) (t : Task) :
    ∃ queued', OnCourse c engine dbPath n goal path queued' coming (t.run c r) := by
  have hwanes := wanes_task c t r
  cases t with
  | work m =>
    by_cases hm : m = n
    · rw [hm]
      exact h.work
    · exact ⟨queued, h.spared hwanes (spares_workBy c h.wellFormed hm).course?_eq⟩
  | finish m =>
    by_cases hm : m = n
    · rw [hm]
      exact ⟨queued, h.finish⟩
    · exact ⟨queued, h.spared hwanes (spares_finish r hm).course?_eq⟩
  | tick time => exact ⟨queued, h.spared hwanes rfl⟩

/-- No notification on the path leads off the course. -/
theorem notify {x : Execution} (h : OnCourse c engine dbPath n goal path queued (x :: coming) r) :
    ∃ queued', OnCourse c engine dbPath n goal path queued' coming (path.notify c dbPath r x) := by
  obtain ⟨v, hv, hdbPath, hqueue, hgoal⟩ := h.course
  have hwanes := wanes_path c dbPath path r x
  have hcurrent := h.current?_eq hv hdbPath
  -- Installed, the execution is queued or done at once, and either way the goal stays the same.
  by_cases hphase : v.installation.phase = .installed
  · rw [if_pos hphase] at hcurrent
    obtain ⟨⟨m, i⟩, hi, rfl⟩ := Option.map_eq_some_iff.mp hcurrent
    cases path with
    | queued =>
      refine ⟨queued ++ [x], ?_⟩
      have hnotified : r.notify dbPath x
          = r.update m fun i => { i with queue := i.queue ++ [.execution x] } := by
        rw [Registry.notify, enqueue, hi]
      have hlonger := course?_update
        (fun i => { i with queue := i.queue ++ [.execution x] }) hv
      rw [← hnotified] at hlonger
      refine h.changed hwanes (fun hpath => by cases hpath) hlonger hdbPath ?_ ?_
      · rw [hqueue, List.map_append]
        rfl
      · rw [List.append_assoc]
        exact hgoal
    | immediate =>
      obtain rfl := h.queue rfl
      have hserved := course?_executeBy c h.wellFormed x hv
      rw [h.engine_eq] at hserved
      obtain ⟨hqueue', hdbPath'⟩ := Course.queue_serve c engine m v x
      refine ⟨[], h.changed hwanes (fun _ => rfl) ?_ (hdbPath'.trans hdbPath)
        (hqueue'.trans hqueue) ?_⟩
      · rw [Path.notify, notifyNowBy, hi]
        exact hserved
      · rw [Course.clear_serve]
        exact hgoal
  -- Otherwise it is ignored on both paths, and serving it would change nothing.
  · rw [if_neg hphase, current?_eq_none_iff] at hcurrent
    have hignored : path.notify c dbPath r x = r := by
      cases path with
      | queued => rw [Path.notify, Registry.notify, enqueue, hcurrent]
      | immediate => rw [Path.notify, notifyNowBy, hcurrent]
    refine ⟨queued, ?_⟩
    rw [hignored]
    refine h.changed (.refl r) h.queue hv hdbPath hqueue ?_
    rw [← hgoal, Course.finished_foldl_serve c engine n hphase,
      Course.finished_foldl_serve c engine n hphase]

/-- When nothing is to come and nothing left to be done, the goal is reached. -/
theorem arrived (h : OnCourse c engine dbPath n goal path queued [] r) (hr : r.IsDrained) :
    r.course? n = some goal ∧ r.phase dbPath = goal.installation.phase := by
  obtain ⟨v, hv, hdbPath, hqueue, hgoal⟩ := h.course
  obtain ⟨hi, -⟩ := course?_eq_some_iff.mp hv
  obtain ⟨hnone, hphase⟩ := hr v.installation (List.mem_of_getElem? hi)
  -- With nothing queued and nothing left to end, the course is already at its goal.
  obtain rfl : v = goal := by
    rw [hnone] at hqueue
    have hqueued : queued = [] := List.map_eq_nil_iff.mp hqueue.symm
    have hclear : v.clear = v := by
      rw [Course.clear, ← hnone]
    have hfinished : v.finished = v := if_neg hphase
    rw [hqueued, List.nil_append, List.foldl_nil, hclear, hfinished] at hgoal
    exact hgoal
  refine ⟨hv, ?_⟩
  have hcurrent := h.current?_eq hv hdbPath
  by_cases hinstalled : v.installation.phase = .installed
  · rw [if_pos hinstalled] at hcurrent
    rw [hinstalled]
    exact phase_eq_installed_iff.mpr ⟨n, hcurrent⟩
  · rw [if_neg hinstalled] at hcurrent
    have hfinished : v.installation.phase = .uninstalled := by
      cases hp : v.installation.phase with
      | uninstalled => rfl
      | installed => exact absurd hp hinstalled
      | uninstalling => exact absurd hp hphase
    rw [hfinished]
    cases hp : r.phase dbPath with
    | uninstalled => rfl
    | installed =>
      obtain ⟨m, hm⟩ := phase_eq_installed_iff.mp hp
      rw [hcurrent] at hm
      cases hm
    | uninstalling =>
      obtain ⟨m, d, -, hlife⟩ := (phase_eq_iff (by decide)).mp hp
      obtain ⟨j, hj, -, hphase'⟩ := life?_eq_some_iff.mp hlife
      exact absurd hphase' (hr j (List.mem_of_getElem? hj)).2

/-- However a database is notified, the goal is reached. -/
theorem reached (hs : Serves c dbPath path r coming r')
    (h : OnCourse c engine dbPath n goal path queued coming r) :
    r'.course? n = some goal ∧ r'.phase dbPath = goal.installation.phase := by
  induction hs generalizing queued with
  | drained hr => exact h.arrived hr
  | task t _ ih =>
    obtain ⟨queued', h'⟩ := h.task t
    exact ih h'
  | notify _ ih =>
    obtain ⟨queued', h'⟩ := h.notify
    exact ih h'

/-- A well-formed registry in which a database is installed and nothing is queued for it is on
course. -/
theorem start (hr : r.WellFormed) (hi : r.installed? dbPath = some (n, i)) (hqueue : i.queue = [])
    (c : Conduct) (path : Path) (xs : List Execution) :
    OnCourse c r.engine dbPath n
      (xs.foldl (Course.serve c r.engine n) ⟨i, r.deliveredFrom n⟩).finished path
      [] xs r where
  engine_eq := rfl
  wellFormed := hr
  only m hm := by
    have hn : r.current? dbPath = some n := by rw [current?, hi]; rfl
    have hm' := hr.current?_eq_some_iff.mpr hm
    rw [hn] at hm'
    exact (Option.some.inj hm').symm
  queue _ := rfl
  course := by
    obtain ⟨hfind, hget, -⟩ := installed?_eq_some_iff.mp hi
    obtain ⟨p, hlife, -⟩ := hr.entry hfind
    rw [life?_of_getElem? hget] at hlife
    have hclear : Course.clear ⟨i, r.deliveredFrom n⟩ = ⟨i, r.deliveredFrom n⟩ := by
      rw [Course.clear, ← hqueue]
    refine ⟨⟨i, r.deliveredFrom n⟩, course?_eq_some_iff.mpr ⟨hget, rfl⟩,
      (Prod.mk.inj (Option.some.inj hlife)).1, hqueue, ?_⟩
    rw [List.nil_append, hclear]

end OnCourse

end Registry

namespace Run

open Registry

/-- When a database is installed and nothing is queued for it, it makes no difference whether it is
notified of some executions through its queue or at once, once the registry is drained: the same was
delivered in the same order but for the times, and the installation and the phase of the database
are the same. This holds whatever the subscriber does with its database when it gets issues,
whichever statements a full memory forgets, and in whatever order other work is done meanwhile; and
a registry can always be drained. -/
theorem queued_agrees_with_immediate (engine : Engine) (time : Nat) (steps : List Step)
    (c : Conduct) {dbPath : String} {n : Nat} {i : Installation}
    (hi : ((Situation.start engine time).run steps).registry.installed? dbPath = some (n, i))
    (hqueue : i.queue = []) (xs : List Execution) :
    let r := ((Situation.start engine time).run steps).registry
    Serves c dbPath .queued r xs ((xs.foldl (fun r x => r.notify dbPath x) r).drainBy c)
      ∧ Serves c dbPath .immediate r xs
        ((xs.foldl (fun r x => r.notifyNowBy c dbPath x) r).drainBy c)
      ∧ ∀ a b, Serves c dbPath .queued r xs a → Serves c dbPath .immediate r xs b →
        a.deliveredFrom n = b.deliveredFrom n ∧ a.installations[n]? = b.installations[n]?
          ∧ a.phase dbPath = b.phase dbPath := by
  intro r
  have hr : r.WellFormed := (Ledger.run engine time steps).wellFormed
  refine ⟨serves_drainBy c dbPath .queued hr xs, serves_drainBy c dbPath .immediate hr xs,
    fun a b ha hb => ?_⟩
  -- Either path ends at the same goal, which is told by the executions alone.
  obtain ⟨hcourse, hphase⟩ := OnCourse.reached ha (.start hr hi hqueue c .queued xs)
  obtain ⟨hcourse', hphase'⟩ := OnCourse.reached hb (.start hr hi hqueue c .immediate xs)
  obtain ⟨hinstallation, hdelivered⟩ := course?_eq_some_iff.mp hcourse
  obtain ⟨hinstallation', hdelivered'⟩ := course?_eq_some_iff.mp hcourse'
  exact ⟨hdelivered.trans hdelivered'.symm, hinstallation.trans hinstallation'.symm,
    hphase.trans hphase'.symm⟩

/-- A subscriber that uninstalls its database when it gets the issues of the first statement. -/
theorem drains_agree_of_uninstalling :
    let registry := ((Situation.start (.ofConfig .default) 0).run
      [.install "app.db" ⟨"A", true⟩]).registry
    let executions : List Execution :=
      [⟨"SELECT a FROM t WHERE a LIKE 'x'", 1, ""⟩, ⟨"SELECT b FROM t WHERE b LIKE 'y'", 1, ""⟩]
    let queued := (executions.foldl (fun r x => r.notify "app.db" x) registry).drain
    let immediate := (executions.foldl (fun r x => (r.notifyNow "app.db" x).2) registry).drain
    queued.deliveredFrom 0 = immediate.deliveredFrom 0
      ∧ queued.installations[0]? = immediate.installations[0]?
      ∧ queued.phase "app.db" = immediate.phase "app.db" := by
  intro registry executions queued immediate
  have hinstalled : registry.installed? "app.db"
      = some (0, .start "app.db" ⟨"A", true⟩ LintSettings.default.maxSeenStatements) := by rfl
  obtain ⟨hqueued, himmediate, hagree⟩ := queued_agrees_with_immediate (.ofConfig .default) 0
    [.install "app.db" ⟨"A", true⟩] .plain hinstalled rfl executions
  have h := hagree _ _ hqueued himmediate
  simp only [notifyNowBy_plain, drainBy_plain] at h
  exact h

end Run

end QueryLint
