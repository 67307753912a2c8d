import QueryLint.Proofs.Registry.Mirrors
import QueryLint.Proofs.Registry.Shutdown

/-!
# Runs that mirror each other

A step keeps two situations mirrored in which it names the databases as the mirror says
(`Mirrored.step`), and so does a whole run (`Mirrored.run`). If the steps have the same names in
both runs, they yield the same (`Mirrored.sameAnswers`), and the same is delivered, apart from who
gets it (`Mirrored.deliveries_run`).
-/

namespace QueryLint

namespace Registry

/-! ### The clock -/

/-- Taking an item from a queue takes no time. -/
theorem take_time (r : Registry) (n : Nat) : (r.take n).2.time = r.time := by
  unfold take
  split
  · rfl
  · split <;> rfl

/-- A check takes no time. -/
theorem runCheck_time (r : Registry) (n : Nat) : (r.runCheck n).time = r.time := by
  unfold runCheck
  split
  · rfl
  · split <;> rfl

/-- Queueing work takes no time. -/
theorem enqueue_time (r : Registry) (dbPath : String) (w : Work) : (r.enqueue dbPath w).time
    = r.time := by
  unfold enqueue
  split <;> rfl

/-- Looking at an execution takes no time. -/
theorem examineBy_time (forget : Fingerprint.Seen.Forgetting) (r : Registry) (n : Nat)
    (x : Execution) : (r.examineBy forget n x).2.time = r.time := by
  rcases examineBy_eq_or forget r n x with hnone | ⟨i, hi, hphase, htime, hseen⟩
  · rw [hnone]
  · rw [examineBy_of_admitted forget hi hphase htime hseen]
    rfl

/-- Operations on some databases take no time if each of them takes none. -/
theorem foldl_time {op : Registry → String → Registry} (hop : ∀ r d, (op r d).time = r.time)
    (dbPaths : List String) (r : Registry) : (dbPaths.foldl op r).time = r.time := by
  induction dbPaths generalizing r with
  | nil => rfl
  | cons d rest ih => exact (ih (op r d)).trans (hop r d)

/-- Uninstalling some databases takes no time. -/
theorem uninstallEach_time (dbPaths : List String) (r : Registry) :
    (r.uninstallEach dbPaths).2.time = r.time := by
  rw [uninstallEach_snd]
  refine foldl_time (fun r d => ?_) dbPaths r
  unfold uninstall
  split <;> rfl

/-- A delivery takes no time. -/
theorem publishBy_time (uninstalls : List String) (r : Registry) (n : Nat) (issues : List Issue) :
    (r.publishBy uninstalls n issues).2.time = r.time := by
  unfold publishBy
  split
  · rfl
  · split
    · rfl
    · exact uninstallEach_time uninstalls _

/-- Ending an installation takes no time. -/
theorem finish_time (r : Registry) (n : Nat) : (r.finish n).time = r.time := by
  unfold finish
  split
  · rfl
  · split
    · dsimp only [tell]
      split <;> rfl
    · rfl

end Registry

namespace Run

open Registry Mirror

/-! ### Names in steps -/

namespace Step

/-- The databases that a step names. -/
def databases : Step → List String
  | install dbPath _ => [dbPath]
  | uninstall dbPath => [dbPath]
  | setWhitelist dbPath _ => [dbPath]
  | enableChecker dbPath _ => [dbPath]
  | requestCheck dbPath => [dbPath]
  | notify dbPath _ => [dbPath]
  | notifyNow dbPath _ _ => [dbPath]
  | deliver _ uninstalls => uninstalls
  | _ => []

/-- A step with other names for the databases. -/
def rename (name : String → String) : Step → Step
  | install dbPath subscriber => .install (name dbPath) subscriber
  | uninstall dbPath => .uninstall (name dbPath)
  | setWhitelist dbPath whitelist => .setWhitelist (name dbPath) whitelist
  | enableChecker dbPath checker => .enableChecker (name dbPath) checker
  | requestCheck dbPath => .requestCheck (name dbPath)
  | notify dbPath x => .notify (name dbPath) x
  | notifyNow dbPath x forget => .notifyNow (name dbPath) x forget
  | deliver k uninstalls => .deliver k (uninstalls.map name)
  | st => st

/-- A step whose databases are named as they are is the same step. -/
@[simp] theorem rename_id (st : Step) : st.rename id = st := by
  cases st <;> simp [rename]

end Step

namespace Situation

/-- What a step yields: whether a database, or any database, began to be uninstalled, and the
identifiers of the issues that were delivered. -/
def answer (s : Situation) : Step → Answer
  | .uninstall dbPath => .flag (s.registry.uninstall dbPath).1
  | .beginShutdown => .flag s.registry.uninstallAll.1
  | .deliver k uninstalls =>
    match s.pending[k]? with
    | some p =>
      .ids (if (s.registry.publishBy uninstalls p.installation p.issues).1 then
        p.issues.map Issue.id else [])
    | none => .nothing
  | _ => .nothing

end Situation

/-- Two situations that cannot be told apart by what they yield, as long as only certain databases
are named. -/
structure SameAnswers (Named : String → Prop) (s s' : Situation) : Prop where
  phase : ∀ d, Named d → s'.registry.phase d = s.registry.phase d
  isInstalled : ∀ d, Named d → s'.registry.isInstalled d = s.registry.isInstalled d
  installed : s'.registry.installed = s.registry.installed
  checkerNames : s'.registry.checkerNames = s.registry.checkerNames
  answer : ∀ st : Step, (∀ d ∈ st.databases, Named d) → s'.answer st = s.answer st

/-- A step that names only what may be named, and installs no database whose subscriber is
exchanged. -/
structure Mirror.Admits (μ : Mirror) (st : Step) : Prop where
  named : ∀ d ∈ st.databases, μ.Named d
  installs : ∀ d subscriber, st = .install d subscriber → ∀ old, μ.toward d old = old

/-! ### Mirrored situations -/

/-- One situation is seen as the other. -/
structure Mirrored (μ : Mirror) (s s' : Situation) : Prop where
  left : s.registry.Charted
  right : s'.registry.Charted
  registry : Mirrors μ s.registry s'.registry
  pending : Pointwise (fun _ => μ.Awaits s.registry) s.pending s'.pending

/-! ### Steps -/

namespace Situation

/-- An installation keeps its database. -/
theorem path?_step {s : Situation} {n : Nat} {d : String} (h : s.registry.path? n = some d)
    (st : Step) : (s.step st).registry.path? n = some d := by
  rw [path?_eq_map_life?] at h
  obtain ⟨⟨e, p⟩, hlife, rfl⟩ := Option.map_eq_some_iff.mp h
  obtain ⟨q, hlife', -⟩ := life?_step hlife st
  exact path?_of_life? hlife'

/-- Only the clock changes the time. -/
theorem time_step (s : Situation) {st : Step} (h : ∀ time, st ≠ .tick time) :
    (s.step st).registry.time = s.registry.time := by
  cases st with
  | tick time => exact absurd rfl (h time)
  | install dbPath subscriber =>
    simp only [step, Registry.install]
    split <;> rfl
  | uninstall dbPath => exact uninstallEach_time [dbPath] s.registry
  | beginShutdown => exact uninstallEach_time _ s.registry
  | endShutdown => rfl
  | setWhitelist dbPath whitelist =>
    simp only [step, Registry.setWhitelist]
    split <;> rfl
  | enableChecker dbPath checker =>
    simp only [step, Registry.enableChecker]
    split
    · split <;> rfl
    · rfl
  | requestCheck dbPath => exact enqueue_time _ _ _
  | requestChecks => exact foldl_time (fun r d => enqueue_time r d .check) _ _
  | notify dbPath x => exact enqueue_time _ _ _
  | notifyNow dbPath x forget =>
    simp only [step]
    split
    · exact examineBy_time forget _ _ x
    · rfl
  | work n forget =>
    have htake := take_time s.registry n
    simp only [step, work]
    generalize s.registry.take n = item at htake
    rcases item with ⟨_ | x | _, taken⟩
    · exact htake
    · exact (examineBy_time forget taken n x).trans htake
    · exact (runCheck_time taken n).trans htake
  | deliver k uninstalls =>
    simp only [step, deliver]
    split
    · rfl
    · exact publishBy_time uninstalls _ _ _
  | finish n => exact finish_time s.registry n

/-- Only a delivery delivers. -/
theorem deliveries_step_of_ne (s : Situation) {st : Step}
    (h : ∀ k uninstalls, st ≠ .deliver k uninstalls) :
    (s.step st).registry.deliveries = s.registry.deliveries := by
  cases st with
  | deliver k uninstalls => exact absurd rfl (h k uninstalls)
  | install dbPath subscriber =>
    simp only [step, Registry.install]
    split <;> rfl
  | uninstall dbPath => exact (quiet_uninstall _ _).deliveries
  | beginShutdown => exact (quiet_uninstallEach _ _).deliveries
  | endShutdown => rfl
  | setWhitelist dbPath whitelist => exact (quiet_setWhitelist _ _ _).deliveries
  | enableChecker dbPath checker => exact (quiet_enableChecker _ _ _).deliveries
  | requestCheck dbPath => exact (quiet_requestCheck _ _).deliveries
  | requestChecks => exact (quiet_requestChecks _).deliveries
  | notify dbPath x =>
    simp only [step, notify, enqueue]
    split <;> rfl
  | notifyNow dbPath x forget =>
    simp only [step]
    split
    · exact examineBy_deliveries forget _ _ x
    · rfl
  | work n forget =>
    have htake := (quiet_take s.registry n).deliveries
    simp only [step, work]
    generalize s.registry.take n = item at htake
    rcases item with ⟨_ | x | _, taken⟩
    · exact htake
    · exact (examineBy_deliveries forget taken n x).trans htake
    · exact (quiet_runCheck taken n).deliveries.trans htake
  | finish n => exact (quiet_finish _ _).deliveries
  | tick time => rfl

end Situation

namespace Mirrored

variable {μ : Mirror} {s s' : Situation} {st : Step}

/-- A mirrored step ends at the same time. -/
theorem time_eq (h : Mirrored μ s s') (st : Step) :
    (s'.step (st.rename μ.name)).registry.time = (s.step st).registry.time := by
  by_cases htick : ∃ time, st = .tick time
  · obtain ⟨time, rfl⟩ := htick
    rfl
  · have hother : ∀ time, st ≠ .tick time := fun time hst => htick ⟨time, hst⟩
    have hother' : ∀ time, st.rename μ.name ≠ .tick time := by
      intro time hst
      cases st <;> simp [Step.rename] at hst hother
    rw [s'.time_step hother', s.time_step hother, h.registry.time]

/-- What is to be checked of a step that installs nothing. -/
theorem of_step (h : Mirrored μ s s') (hst : ∀ d subscriber, st ≠ .install d subscriber)
    (hreflects : Pointwise μ.Reflects (s.step st).registry.installations
      (s'.step (st.rename μ.name)).registry.installations)
    (hpending : Pointwise (fun _ => μ.Awaits s.registry) (s.step st).pending
      (s'.step (st.rename μ.name)).pending) :
    Mirrored μ (s.step st) (s'.step (st.rename μ.name)) := by
  have hwanes := s.wanes_step hst
  refine ⟨h.left.step st, h.right.step _,
    h.registry.wane hwanes (fun {n d} hn => ?_) ?_ (h.time_eq st) hreflects,
    hpending.mono fun _ p p' _ hp => hp.mono fun hd => Situation.path?_step hd st⟩
  · -- The installation was there before, and kept its database.
    have hlt := hwanes.length ▸ lt_length_of_path? hn
    obtain ⟨i, hi⟩ : ∃ i, s.registry.installations[n]? = some i := ⟨_, List.getElem?_eq_getElem hlt⟩
    have hbefore : s.registry.path? n = some i.dbPath := path?_eq_some_iff.mpr ⟨i, hi, rfl⟩
    rw [hbefore, ← Situation.path?_step hbefore st, hn]
  · rw [s'.engine_step, s.engine_step, h.registry.engine]

/-- Looking at an execution. -/
theorem examine (s s' : Situation) (h : Mirrors μ s.registry s'.registry)
    (hpending : Pointwise (fun _ => μ.Awaits s.registry) s.pending s'.pending)
    (forget : Fingerprint.Seen.Forgetting) (n : Nat) (x : Execution) :
    Pointwise μ.Reflects (s.examine forget n x).registry.installations
        (s'.examine forget n x).registry.installations
      ∧ Pointwise (fun _ => μ.Awaits s.registry) (s.examine forget n x).pending
        (s'.examine forget n x).pending := by
  obtain ⟨hreflects, hissues⟩ := h.examineBy forget n x
  refine ⟨hreflects, ?_⟩
  simp only [Situation.examine]
  rcases hissues with ⟨hnil, hnil'⟩ | ⟨hne, hne', d, hpath, hsame⟩
  · rw [hnil, hnil']
    exact hpending
  · rw [if_neg (by simpa using hne), if_neg (by simpa using hne')]
    exact hpending.concat ⟨d, _, hpath, rfl, hsame⟩

/-- Doing the first item in the queue of an installation. -/
theorem work (h : Mirrored μ s s') (forget : Fingerprint.Seen.Forgetting) (n : Nat) :
    Pointwise μ.Reflects (s.work forget n).registry.installations
      (s'.work forget n).registry.installations
      ∧ Pointwise (fun _ => μ.Awaits s.registry)
        (s.work forget n).pending (s'.work forget n).pending := by
  have hpath := (sameLives_take s.registry n).path?_eq
  obtain ⟨hitem, hreflects⟩ := h.registry.take n
  have htaken : Mirrors μ (s.registry.take n).2 (s'.registry.take n).2 := by
    refine h.registry.wane (wanes_take s.registry n) (fun {m d} hm => (hpath m).symm.trans hm) ?_ ?_
      hreflects
    · rw [take_engine, take_engine, h.registry.engine]
    · rw [take_time, take_time, h.registry.time]
  have hpending : Pointwise (fun _ => μ.Awaits (s.registry.take n).2) s.pending s'.pending :=
    h.pending.mono fun _ p p' _ hp => hp.mono fun hd => (hpath _).trans hd
  unfold Situation.work
  generalize s.registry.take n = result at hpath hitem htaken hpending hreflects
  generalize s'.registry.take n = result' at hitem htaken hreflects
  obtain ⟨item, taken⟩ := result
  obtain ⟨item', taken'⟩ := result'
  obtain rfl : item' = item := hitem
  rcases item' with _ | x | _
  · exact ⟨hreflects, h.pending⟩
  · obtain ⟨hreflects, hawaits⟩ :=
      examine { s with registry := taken } { s' with registry := taken' } htaken hpending forget n x
    exact ⟨hreflects, hawaits.mono fun _ p p' _ hp => hp.mono fun hd => (hpath _).symm.trans hd⟩
  · exact ⟨htaken.runCheck n, h.pending⟩

section Install

variable {d : String} (subscriber : Subscriber) {toward : String → Subscriber → Subscriber}

/-- A database that is installed gets a subscriber, and from then on the same one in both runs. -/
theorem reflects_reinstall (h : Mirrored μ s s') (hd : μ.Named d) {n : Nat}
    (hn : s.registry.current? d = some n) (hself : ∀ subscriber, toward d subscriber = subscriber)
    (hothers : ∀ e, e ≠ d → toward e = μ.toward e) :
    Pointwise (Mirror.Reflects { μ with toward }) (s.registry.install d subscriber).installations
      (s'.registry.install (μ.name d) subscriber).installations := by
  have hn' := (h.registry.current?_eq h.left.wellFormed h.right.wellFormed hd).trans hn
  rw [installations_reinstall h.left.wellFormed hn, installations_reinstall h.right.wellFormed hn']
  refine h.registry.reflects.map fun m i i' hi hreflects => ?_
  obtain ⟨old, rfl, hold⟩ := hreflects
  have hiff : i.phase = .installed ∧ μ.path m i.dbPath ∈ [μ.name d] ↔ i.phase = .installed
      ∧ i.dbPath ∈ [d] := by
    refine and_congr_right fun hphase => ?_
    have hlife : s.registry.life? m = some (i.dbPath, .installed) := by
      rw [life?_of_getElem? hi, hphase]
    rw [List.mem_singleton, List.mem_singleton, h.registry.path_eq_name_iff hlife hd]
  rw [Registry.changeIn, Registry.changeIn, if_congr hiff rfl rfl]
  split
  · next hi =>
    refine ⟨subscriber, rfl, fun _ => ?_⟩
    rw [List.mem_singleton.mp hi.2]
    exact (hself subscriber).symm
  · next hi =>
    refine ⟨old, rfl, fun hphase => ?_⟩
    have hne : i.dbPath ≠ d := fun heq => hi ⟨hphase, List.mem_singleton.mpr heq⟩
    exact (hold hphase).trans (congrFun (hothers i.dbPath hne).symm i.subscriber)

/-- A database that is not installed begins a new installation in both runs. -/
theorem reflects_install (h : Mirrored μ s s') (hd : μ.Named d) (hn : s.registry.current? d = none)
    (hself : ∀ subscriber, toward d subscriber = subscriber)
    (hothers : ∀ e, e ≠ d → toward e = μ.toward e) :
    Pointwise (Mirror.Reflects { μ with toward }) (s.registry.install d subscriber).installations
      (s'.registry.install (μ.name d) subscriber).installations := by
  have hn' := (h.registry.current?_eq h.left.wellFormed h.right.wellFormed hd).trans hn
  rw [install_installations subscriber hn, install_installations subscriber hn', h.registry.engine]
  have hbefore : Pointwise (Mirror.Reflects { μ with toward }) s.registry.installations
      s'.registry.installations := by
    refine h.registry.reflects.mono fun m i i' hi hreflects => ?_
    obtain ⟨old, rfl, hold⟩ := hreflects
    refine ⟨old, rfl, fun hphase => ?_⟩
    have hne : i.dbPath ≠ d := by
      rintro rfl
      have hcurrent : s.registry.current? i.dbPath = some m :=
        h.left.wellFormed.current?_eq_some_iff.mpr (by rw [life?_of_getElem? hi, hphase])
      rw [hn] at hcurrent
      cases hcurrent
    exact (hold hphase).trans (congrFun (hothers i.dbPath hne).symm i.subscriber)
  refine hbefore.concat ⟨subscriber, ?_, fun _ => (hself subscriber).symm⟩
  have hpath : μ.path s.registry.installations.length d = μ.name d :=
    h.registry.begins _ (Nat.le_refl _) d hd
  rw [← hpath]
  rfl

/-- Installing a database in both situations keeps one the mirror of the other, whoever subscribes
from then on. -/
theorem install (h : Mirrored μ s s') (hd : μ.Named d)
    (hself : ∀ subscriber, toward d subscriber = subscriber)
    (hothers : ∀ e, e ≠ d → toward e = μ.toward e) :
    Mirrored { μ with toward } (s.step (.install d subscriber))
      (s'.step (.install (μ.name d) subscriber)) := by
  have hpending :
      Pointwise (fun _ => Mirror.Awaits { μ with toward } (s.registry.install d subscriber))
      s.pending s'.pending :=
    h.pending.mono fun _ p p' _ hp =>
      Mirror.Awaits.mono hp fun hd => Situation.path?_step hd (.install d subscriber)
  have hengine : (s'.registry.install (μ.name d) subscriber).engine
      = (s.registry.install d subscriber).engine := by
    have hleft := s.engine_step (.install d subscriber)
    have hright := s'.engine_step (.install (μ.name d) subscriber)
    exact hright.trans (h.registry.engine.trans hleft.symm)
  have htime := h.time_eq (.install d subscriber)
  refine ⟨h.left.step _, h.right.step _, ?_, hpending⟩
  -- A database that is installed already only gets another subscriber; else an installation begins
  -- in both runs, under the same number.
  cases hn : s.registry.current? d with
  | some n =>
    have hlives := sameLives_install subscriber hn
    have hreflects := h.reflects_reinstall subscriber hd hn hself hothers
    refine ⟨hengine, htime, hreflects, fun m e hm => h.registry.named m e ?_,
      fun m e hm => h.registry.agrees m e ?_,
      fun m hm => h.registry.begins m (hlives.length_eq ▸ hm)⟩
    · rwa [path?_eq_map_life?, ← hlives.life?, ← path?_eq_map_life?]
    · rwa [← hlives.life?]
  | none =>
    have hlife := life?_install subscriber hn
    have hreflects := h.reflects_install subscriber hd hn hself hothers
    have hlength : s.registry.installations.length
        ≤ (s.registry.install d subscriber).installations.length := by
      rw [install_installations subscriber hn, List.length_append]
      exact Nat.le_add_right _ _
    refine ⟨hengine, htime, hreflects, fun m e hm => ?_, fun m e hm => ?_,
      fun m hm => h.registry.begins m (hlength.trans hm)⟩
    · simp only [Situation.step] at hm
      rw [path?_eq_map_life?, hlife] at hm
      split at hm
      · obtain rfl := Option.some.inj hm
        exact hd
      · exact h.registry.named m e ((path?_eq_map_life? _ m).trans hm)
    · simp only [Situation.step] at hm
      rw [hlife] at hm
      split at hm
      -- The installation that just began is the only one that both runs had still to agree on.
      · next hm' =>
        obtain ⟨rfl, -⟩ := Prod.mk.inj (Option.some.inj hm)
        exact h.registry.begins m (Nat.le_of_eq hm'.symm) d hd
      · exact h.registry.agrees m e hm

end Install

/-- A step keeps two situations mirrored. -/
theorem step (h : Mirrored μ s s') (hst : μ.Admits st) :
    Mirrored μ (s.step st) (s'.step (st.rename μ.name)) := by
  have hnamed := hst.named
  have hleft := h.left.wellFormed
  have hright := h.right.wellFormed
  -- Whatever is done to all that is installed of some databases.
  have hsome : ∀ {ds : List String} {f : Installation → Installation}, (∀ d ∈ ds, μ.Named d) →
      IsBlind f →
      Pointwise μ.Reflects (s.registry.installations.map (changeIn ds f))
        (s'.registry.installations.map (changeIn (ds.map μ.name) f)) :=
    fun hds hf => h.registry.changeIn (fun _ _ => h.registry.mem_map_name_iff hds) hf
  -- Whatever is done to all that is installed.
  have hall : ∀ {ds ds' : List String} {f : Installation → Installation},
      (∀ n d, s.registry.life? n = some (d, .installed) → d ∈ ds) →
      (∀ n d, s'.registry.life? n = some (d, .installed) → d ∈ ds') → IsBlind f →
      Pointwise μ.Reflects (s.registry.installations.map (changeIn ds f))
        (s'.registry.installations.map (changeIn ds' f)) := by
    intro ds ds' f hds hds' hf
    refine h.registry.changeIn (fun n d hn => iff_of_true (hds' n _ ?_) (hds n d hn)) hf
    rw [h.registry.life?_eq, hn]
    rfl
  cases st with
  | install d subscriber =>
    exact h.install subscriber (hnamed d List.mem_cons_self)
      (hst.installs d subscriber rfl) fun _ _ => rfl
  | uninstall d =>
    refine h.of_step (by simp) ?_ h.pending
    simp only [Step.rename, Situation.step]
    rw [installations_uninstall hleft, installations_uninstall hright]
    exact hsome hnamed (isBlind_phase (by decide))
  | beginShutdown =>
    refine h.of_step (by simp) ?_ h.pending
    simp only [Step.rename, Situation.step, uninstallAll]
    rw [installations_uninstallEach hleft, installations_uninstallEach hright]
    exact hall (fun n d hn => h.left.mem_installed_iff.mpr ⟨n, hn⟩)
      (fun n d hn => h.right.mem_installed_iff.mpr ⟨n, hn⟩)
      (isBlind_phase (by decide))
  | endShutdown => exact h.of_step (by simp) h.registry.reflects h.pending
  | setWhitelist d whitelist =>
    refine h.of_step (by simp) ?_ h.pending
    simp only [Step.rename, Situation.step]
    rw [installations_setWhitelist hleft, installations_setWhitelist hright]
    exact hsome hnamed (isBlind_policy (·.setWhitelist whitelist))
  | enableChecker d checker =>
    refine h.of_step (by simp) ?_ h.pending
    simp only [Step.rename, Situation.step]
    rw [installations_enableChecker hleft, installations_enableChecker hright]
    exact hsome hnamed (isBlind_policy fun policy => (policy.enable checker).2)
  | requestCheck d =>
    refine h.of_step (by simp) ?_ h.pending
    simp only [Step.rename, Situation.step, requestCheck]
    rw [installations_enqueue hleft, installations_enqueue hright]
    exact hsome hnamed (isBlind_queue (· ++ [.check]))
  | requestChecks =>
    refine h.of_step (by simp) ?_ h.pending
    simp only [Step.rename, Situation.step]
    rw [installations_requestChecks h.left, installations_requestChecks h.right]
    exact hall (fun n d hn => OrderedMap.mem_keys_of_find? (hleft.latest hn))
      (fun n d hn => OrderedMap.mem_keys_of_find? (hright.latest hn))
      (isBlind_queue (· ++ [.check]))
  | notify d x =>
    refine h.of_step (by simp) ?_ h.pending
    simp only [Step.rename, Situation.step, notify]
    rw [installations_enqueue hleft, installations_enqueue hright]
    exact hsome hnamed (isBlind_queue (· ++ [.execution x]))
  -- An execution is looked at in both runs or in none: the current installations agree.
  | notifyNow d x forget =>
    have hcurrent := h.registry.current?_eq hleft hright (hnamed d List.mem_cons_self)
    cases hn : s.registry.current? d with
    | none =>
      refine h.of_step (by simp) ?_ ?_
      all_goals
        simp only [Step.rename, Situation.step, hcurrent, hn]
      · exact h.registry.reflects
      · exact h.pending
    | some n =>
      obtain ⟨hreflects, hpending⟩ := examine s s' h.registry h.pending forget n x
      refine h.of_step (by simp) ?_ ?_
      all_goals
        simp only [Step.rename, Situation.step, hcurrent, hn]
      · exact hreflects
      · exact hpending
  | work n forget =>
    obtain ⟨hreflects, hpending⟩ := h.work forget n
    exact h.of_step (by simp) hreflects hpending
  | deliver k uninstalls =>
    -- What waits at the same place in both runs may differ in its issues only.
    rcases h.pending.getElem?_cases k with ⟨hp, hp'⟩ | ⟨p, p', hp, hp', d, issues, -, rfl, -⟩
    · refine h.of_step (by simp) ?_ ?_
      all_goals
        simp only [Step.rename, Situation.step, Situation.deliver, hp, hp']
      · exact h.registry.reflects
      · exact h.pending
    · refine h.of_step (by simp) ?_ ?_
      all_goals
        simp only [Step.rename, Situation.step, Situation.deliver, hp, hp']
      · exact (h.registry.publishBy hleft hright hnamed p.installation p.issues issues).1
      · exact h.pending.eraseIdx k
  | finish n => exact h.of_step (by simp) (h.registry.finish n) h.pending
  | tick time => exact h.of_step (by simp) h.registry.reflects h.pending

/-! ### Runs -/

/-- A run keeps two situations mirrored. -/
theorem run (h : Mirrored μ s s') {steps : List Step} (hsteps : ∀ st ∈ steps, μ.Admits st) :
    Mirrored μ (s.run steps) (s'.run (steps.map (Step.rename μ.name))) := by
  induction steps using List.reverseRecOn with
  | nil => exact h
  | append_singleton steps last ih =>
    have hbefore := ih fun st hst => hsteps st (List.mem_append_left _ hst)
    rw [List.map_append, List.map_cons, List.map_nil, Situation.run_concat, Situation.run_concat]
    exact hbefore.step (hsteps last (List.mem_append_right _ List.mem_cons_self))

/-! ### The same names in both runs -/

/-- Where steps have the same names in both runs, the same databases are installed. -/
theorem life?_installed_iff (h : Mirrored μ s s') (hname : μ.name = id) {n : Nat} {d : String} :
    s'.registry.life? n = some (d, .installed) ↔ s.registry.life? n = some (d, .installed) := by
  have hsame : ∀ {e}, s.registry.life? n = some (e, .installed) → μ.path n e = e := by
    intro e he
    rw [h.registry.agrees n e he, hname]
    rfl
  rw [h.registry.life?_eq]
  constructor
  · intro hn
    obtain ⟨⟨e, p⟩, hlife, heq⟩ := Option.map_eq_some_iff.mp hn
    obtain ⟨rfl, rfl⟩ := Prod.mk.inj heq
    rw [hlife, hsame hlife]
  · intro hn
    rw [hn, Option.map_some, hsame hn]

/-- A database has the same current installation in both situations if databases are named alike. -/
theorem current?_eq (h : Mirrored μ s s') (hname : μ.name = id) (d : String) :
    s'.registry.current? d = s.registry.current? d := by
  apply Option.ext
  intro n
  rw [h.right.wellFormed.current?_eq_some_iff, h.left.wellFormed.current?_eq_some_iff,
    h.life?_installed_iff hname]

/-- The same databases are installed in both situations if databases are named alike. -/
theorem installed_eq (h : Mirrored μ s s') (hname : μ.name = id) :
    s'.registry.installed = s.registry.installed :=
  h.left.installed_congr h.right fun _ => exists_congr fun _ => h.life?_installed_iff hname

/-- What is delivered at once, if steps have the same names in both runs. -/
theorem publishBy (h : Mirrored μ s s') (hname : μ.name = id) {p p' : Pending}
    (hp : μ.Awaits s.registry p p') (uninstalls : List String)
    (hnamed : ∀ d ∈ uninstalls, μ.Named d) :
    let done := s.registry.publishBy uninstalls p.installation p.issues
    let done' := s'.registry.publishBy uninstalls p.installation p'.issues
    p'.installation = p.installation
      ∧ (done.1 = false ∧ done'.1 = false
          ∧ done.2.deliveries = s.registry.deliveries ∧ done'.2.deliveries = s'.registry.deliveries
        ∨ done.1 = true ∧ done'.1 = true ∧ p'.issues = p.issues ∧ ∃ d : Delivery,
          done.2.deliveries = s.registry.deliveries ++ [d]
          ∧ done'.2.deliveries = s'.registry.deliveries ++ [μ.redirect d]) := by
  obtain ⟨d, issues, hpath, rfl, hissues⟩ := hp
  refine ⟨rfl, ?_⟩
  obtain ⟨-, hpublished⟩ :=
    h.registry.publishBy h.left.wellFormed h.right.wellFormed hnamed p.installation p.issues issues
  rw [hname, List.map_id] at hpublished
  rcases hpublished with hnot | ⟨hdone, hdone', e, subscriber, hlife, hd, hd'⟩
  · exact .inl hnot
  · -- The installation is installed, so its database has the same name in both runs.
    obtain rfl : d = e := Option.some.inj (hpath.symm.trans (path?_of_life? hlife))
    have hsame : μ.path p.installation d = d := by
      rw [h.registry.agrees _ _ hlife, hname]
      rfl
    obtain rfl := hissues hsame
    exact .inr ⟨hdone, hdone', rfl, _, hd, hd'⟩

/-- A step answers the same in both situations if databases are named alike. -/
theorem answer_eq (h : Mirrored μ s s') (hname : μ.name = id)
    (hnamed : ∀ d ∈ st.databases, μ.Named d) : s'.answer st = s.answer st := by
  cases st with
  | uninstall d =>
    have hcurrent := h.current?_eq hname d
    simp only [Situation.answer]
    cases hn : s.registry.current? d with
    | none =>
      rw [uninstall_of_current?_eq_none hn, uninstall_of_current?_eq_none (hcurrent.trans hn)]
    | some n =>
      rw [uninstall_of_current?_eq_some hn, uninstall_of_current?_eq_some (hcurrent.trans hn)]
  | beginShutdown => simp only [Situation.answer, uninstallAll_fst, h.installed_eq hname]
  | deliver k uninstalls =>
    simp only [Situation.answer]
    rcases h.pending.getElem?_cases k with ⟨hp, hp'⟩ | ⟨p, p', hp, hp', hawaits⟩
    · rw [hp, hp']
    · rw [hp, hp']
      obtain ⟨hinstallation, hpublished⟩ := h.publishBy hname hawaits uninstalls hnamed
      simp only [hinstallation]
      rcases hpublished with ⟨hnot, hnot', -⟩ | ⟨hdone, hdone', hissues, -⟩
      · rw [hnot, hnot', if_neg Bool.false_ne_true, if_neg Bool.false_ne_true]
      · rw [hdone, hdone', if_pos rfl, if_pos rfl, hissues]
  | _ => rfl

/-- Situations that are mirrored under the same names cannot be told apart, if their databases stand
at the same place. -/
theorem sameAnswers (h : Mirrored μ s s') (hname : μ.name = id)
    (hphase : ∀ d, μ.Named d → s'.registry.phase d = s.registry.phase d) :
    SameAnswers μ.Named s s' where
  phase := hphase
  isInstalled d _ := by
    rw [Bool.eq_iff_iff, isInstalled_iff h.right.wellFormed, isInstalled_iff h.left.wellFormed]
    exact exists_congr fun _ => h.life?_installed_iff hname
  installed := h.installed_eq hname
  checkerNames := by rw [checkerNames, checkerNames, h.registry.engine]
  answer _ hnamed := h.answer_eq hname hnamed

/-- A step delivers the same in both situations, but for who gets it. -/
theorem deliveries_step (h : Mirrored μ s s') (hname : μ.name = id)
    (hnamed : ∀ d ∈ st.databases, μ.Named d) :
    ∃ more, (s.step st).registry.deliveries = s.registry.deliveries ++ more
      ∧ (s'.step st).registry.deliveries = s'.registry.deliveries ++ more.map μ.redirect := by
  by_cases hdeliver : ∃ k uninstalls, st = .deliver k uninstalls
  · obtain ⟨k, uninstalls, rfl⟩ := hdeliver
    simp only [Situation.step, Situation.deliver]
    rcases h.pending.getElem?_cases k with ⟨hp, hp'⟩ | ⟨p, p', hp, hp', hawaits⟩
    · rw [hp, hp']
      exact ⟨[], (List.append_nil _).symm, (List.append_nil _).symm⟩
    · rw [hp, hp']
      obtain ⟨hinstallation, hpublished⟩ := h.publishBy hname hawaits uninstalls hnamed
      simp only [hinstallation]
      rcases hpublished with ⟨-, -, hnot, hnot'⟩ | ⟨-, -, -, d, hd, hd'⟩
      · exact ⟨[], by rw [hnot, List.append_nil], by rw [hnot', List.map_nil, List.append_nil]⟩
      · exact ⟨[d], hd, hd'⟩
  · have hother : ∀ k uninstalls, st ≠ .deliver k uninstalls := fun k uninstalls hst =>
      hdeliver ⟨k, uninstalls, hst⟩
    refine ⟨[], ?_, ?_⟩
    · rw [s.deliveries_step_of_ne hother, List.append_nil]
    · rw [s'.deliveries_step_of_ne hother, List.map_nil, List.append_nil]

/-- The same is delivered in both runs, apart from who gets it. -/
theorem deliveries_run (h : Mirrored μ s s') (hname : μ.name = id) (steps : List Step)
    (hsteps : ∀ st ∈ steps, μ.Admits st) :
    Mirrored μ (s.run steps) (s'.run steps)
      ∧ ∃ more, (s.run steps).registry.deliveries = s.registry.deliveries ++ more
        ∧ (s'.run steps).registry.deliveries = s'.registry.deliveries ++ more.map μ.redirect := by
  induction steps using List.reverseRecOn with
  | nil => exact ⟨h, [], (List.append_nil _).symm, (List.append_nil _).symm⟩
  | append_singleton steps last ih =>
    have hlast := hsteps last (List.mem_append_right _ List.mem_cons_self)
    obtain ⟨hbefore, first, hfirst, hfirst'⟩ :=
      ih fun st hst => hsteps st (List.mem_append_left _ hst)
    obtain ⟨more, hmore, hmore'⟩ := hbefore.deliveries_step hname hlast.named
    have hafter := hbefore.step hlast
    rw [hname, Step.rename_id] at hafter
    rw [Situation.run_concat, Situation.run_concat]
    refine ⟨hafter, first ++ more, ?_, ?_⟩
    · rw [hmore, hfirst, List.append_assoc]
    · rw [hmore', hfirst', List.map_append, List.append_assoc]

end Mirrored

end Run

end QueryLint
