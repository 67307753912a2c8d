import QueryLint.Proofs.Registry.Entries
import QueryLint.Proofs.Registry.Provenance

/-!
# What a shutdown waits for

A shutdown begins to end the installations that are installed, and returns when they are over
(`Returns`). It always can, as the work that they have queued is dropped (`exists_returns`). What
was being uninstalled when the shutdown began is not waited for: it may be over when the shutdown
returns, or not. So a shutdown leaves every database uninstalled, whatever else goes on, exactly if
nothing was being uninstalled before (`shutdown_ends_what_it_begins`).
-/

namespace QueryLint

namespace Registry

variable {r : Registry} {dbPath : String} {n m : Nat}

/-- Every installation is over, so no database is installed or being uninstalled. -/
def IsOver (r : Registry) : Prop := ∀ n d p, r.life? n = some (d, p) → p = .uninstalled

/-- Every database is uninstalled in a registry that is over. -/
theorem IsOver.phase_eq (h : r.IsOver) (dbPath : String) : r.phase dbPath = .uninstalled := by
  by_contra hphase
  obtain ⟨n, d, -, hlife⟩ := (phase_eq_iff hphase).mp rfl
  exact hphase (h n d _ hlife)

/-- Uninstalling some databases begins to end those of their installations that are installed. -/
theorem life?_uninstallEach (hr : r.WellFormed) (dbPaths : List String) (m : Nat) :
    (r.uninstallEach dbPaths).2.life? m
      = (r.life? m).map fun l =>
        if l.2 = .installed ∧ l.1 ∈ dbPaths then (l.1, .uninstalling) else l := by
  rw [life?, installations_uninstallEach hr, List.getElem?_map, life?, Option.map_map,
    Option.map_map]
  refine Option.map_congr fun i _ => ?_
  by_cases hi : i.phase = .installed ∧ i.dbPath ∈ dbPaths
  · exact (congrArg Installation.life (if_pos hi)).trans (if_pos hi).symm
  · exact (congrArg Installation.life (if_neg hi)).trans (if_neg hi).symm

/-- A shutdown begins to end all installations that are installed. -/
theorem life?_uninstallAll (hr : r.WellFormed) (m : Nat) :
    r.uninstallAll.2.life? m
      = (r.life? m).map fun l => if l.2 = .installed then (l.1, .uninstalling) else l := by
  rw [uninstallAll, life?_uninstallEach hr]
  refine Option.map_congr fun l hl => if_congr (and_iff_left_of_imp fun hp => ?_) rfl rfl
  have hinstalled : r.life? m = some (l.1, .installed) := hp ▸ hl
  exact mem_installed_iff.mpr ⟨OrderedMap.mem_keys_of_find? (hr.latest hinstalled),
    (isInstalled_iff hr).mpr ⟨m, hinstalled⟩⟩

/-- No database is listed as installed exactly when no installation is installed. -/
theorem installed_eq_nil_iff (hr : r.WellFormed) :
    r.installed = [] ↔ ∀ n d, r.life? n ≠ some (d, .installed) := by
  constructor
  · intro hnil n d hlife
    have hempty := isEmpty_installed_of_isInstalled hr ((isInstalled_iff hr).mpr ⟨n, hlife⟩)
    rw [hnil] at hempty
    cases hempty
  · intro hnone
    refine List.eq_nil_iff_forall_not_mem.mpr fun d hd => ?_
    obtain ⟨n, hn⟩ := (isInstalled_iff hr).mp (mem_installed_iff.mp hd).2
    exact hnone n d hn

/-- A shutdown that has nothing to wait for changes nothing. -/
theorem shutdown_of_installed_eq_nil (h : r.installed = []) : r.shutdown = r.tell .shutDown := by
  unfold shutdown uninstallAll
  rw [h]
  rfl

/-- A shutdown that has something to wait for runs all queued work. -/
theorem shutdown_of_installed_ne_nil (h : r.installed ≠ []) :
    r.shutdown = (r.uninstallAll.2.drainBy .plain).tell .shutDown := by
  have hstarted : r.uninstallAll.1 = true := by
    rw [uninstallAll_fst]
    simpa using h
  unfold shutdown
  rw [drainBy_plain]
  generalize r.uninstallAll = result at hstarted
  obtain ⟨started, ending⟩ := result
  obtain rfl : started = true := hstarted
  rfl

/-- All queued work was run, so nothing that a shutdown waited for is left. -/
theorem isOver_shutdown_of_installed_ne_nil (hr : r.WellFormed) (h : r.installed ≠ []) :
    r.shutdown.IsOver := by
  intro n d p hp
  have hnone : r.uninstallAll.2.life? n ≠ some (d, .installed) := by
    intro hlife
    rw [life?_uninstallAll hr] at hlife
    obtain ⟨l, -, hl⟩ := Option.map_eq_some_iff.mp hlife
    split at hl
    · cases hl
    · next hp => exact hp (congrArg Prod.snd hl)
  have hwell : r.uninstallAll.2.WellFormed := (wanes_uninstallEach r.installed r).wellFormed hr
  rw [shutdown_of_installed_ne_nil h, (sameLives_tell _ _).life?] at hp
  obtain ⟨i, hi, -, hphase⟩ := life?_eq_some_iff.mp hp
  cases p with
  | installed => exact absurd ((wanes_drainBy .plain hwell).installed n d hp) hnone
  | uninstalling =>
    exact absurd hphase (isDrained_drainBy .plain hwell i (List.mem_of_getElem? hi)).2
  | uninstalled => rfl

/-- A shutdown that runs all queued work while it waits leaves everything over exactly if it has
something to wait for, or nothing is being uninstalled. -/
theorem isOver_shutdown_iff (hr : r.WellFormed) :
    r.shutdown.IsOver ↔ r.installed ≠ [] ∨ ∀ n d, r.life? n ≠ some (d, .uninstalling) := by
  by_cases hinstalled : r.installed = []
  · have hlife : ∀ n, r.shutdown.life? n = r.life? n := by
      rw [shutdown_of_installed_eq_nil hinstalled]
      exact (sameLives_tell r .shutDown).life?
    have hno := (installed_eq_nil_iff hr).mp hinstalled
    simp only [hinstalled, ne_eq, not_true_eq_false, false_or, IsOver, hlife]
    constructor
    · intro hover n d huninstalling
      cases hover n d _ huninstalling
    · intro hnot n d p hp
      cases p with
      | installed => exact absurd hp (hno n d)
      | uninstalling => exact absurd hp (hnot n d)
      | uninstalled => rfl
  · exact iff_of_true (isOver_shutdown_of_installed_ne_nil hr hinstalled) (.inl hinstalled)

end Registry

namespace Run

open Registry

variable {s : Situation} {dbPath : String} {n : Nat}

/-! ### What is over -/

/-- What is over stays over. -/
theorem Evolves.life?_of_uninstalled {r r' : Registry} {events : List Event}
    (he : Evolves r events r') (hn : r.life? n = some (dbPath, .uninstalled)) :
    r'.life? n = some (dbPath, .uninstalled) := by
  induction he with
  | keep hl => rw [hl.life?, hn]
  | examine _ _ hl => rw [hl.life?, hn]
  | reinstall _ hl => rw [hl.life?, hn]
  | install _ _ hl => rw [hl, if_neg (Nat.ne_of_lt (lt_length_of_life? hn)), hn]
  | ignore _ => exact hn
  | uninstall hm _ hl =>
    obtain ⟨-, d, hlife⟩ := current?_eq_some_iff.mp hm
    rw [hl, if_neg, hn]
    rintro rfl
    rw [hn] at hlife
    cases hlife
  | ended hm _ hl =>
    rw [hl, if_neg, hn]
    rintro rfl
    rw [hn] at hm
    cases hm
  | trans _ _ ih ih' => exact ih' (ih hn)

/-- An installation that is over stays so. -/
theorem Situation.life?_run_of_uninstalled (hn : s.registry.life? n = some (dbPath, .uninstalled))
    (more : List Step) : (s.run more).registry.life? n = some (dbPath, .uninstalled) := by
  induction more using List.reverseRecOn with
  | nil => exact hn
  | append_singleton more last ih =>
    obtain ⟨events, -, he⟩ := (s.run more).evolves_step last
    rw [run_concat]
    exact he.life?_of_uninstalled ih

/-! ### Steps that install nothing -/

/-- No step installs a database. -/
def InstallsNothing (steps : List Step) : Prop :=
  ∀ dbPath subscriber, .install dbPath subscriber ∉ steps

namespace Situation

/-- A step that installs no database installs nothing. -/
theorem wanes_step (s : Situation) {st : Step}
    (h : ∀ dbPath subscriber, st ≠ .install dbPath subscriber) :
    Wanes s.registry (s.step st).registry := by
  have hkept : SameLives s.registry (s.step st).registry → Wanes s.registry (s.step st).registry :=
    Wanes.of_sameLives (s.engine_step st)
  cases st with
  | install dbPath subscriber => exact absurd rfl (h dbPath subscriber)
  | uninstall dbPath => exact wanes_uninstall s.registry dbPath
  | beginShutdown => exact wanes_uninstallEach s.registry.installed s.registry
  | endShutdown => exact hkept (sameLives_tell _ _)
  | setWhitelist dbPath whitelist => exact hkept (sameLives_setWhitelist _ _ _)
  | enableChecker dbPath checker => exact hkept (sameLives_enableChecker _ _ _)
  | requestCheck dbPath => exact hkept (sameLives_enqueue _ _ _)
  | requestChecks => exact hkept (sameLives_requestChecks _)
  | notify dbPath x => exact hkept (sameLives_enqueue _ _ _)
  | notifyNow dbPath x forget =>
    refine hkept ?_
    simp only [step]
    split
    · exact sameLives_examineBy forget _ _ x
    · exact .refl _
  | work n forget =>
    refine hkept ?_
    have htake := sameLives_take s.registry n
    simp only [step, work]
    generalize s.registry.take n = item at htake
    rcases item with ⟨_ | x | _, taken⟩
    · exact htake
    · exact htake.trans (sameLives_examineBy forget _ _ x)
    · exact htake.trans (sameLives_runCheck _ _)
  | deliver k uninstalls =>
    simp only [step, deliver]
    split
    · exact .refl _
    · exact wanes_publishBy uninstalls _ _ _
  | finish n => exact wanes_finish s.registry n
  | tick time => exact hkept (.of_eq rfl rfl)

/-- Nor do steps of which none installs a database. -/
theorem wanes_run (s : Situation) {steps : List Step} (h : InstallsNothing steps) :
    Wanes s.registry (s.run steps).registry := by
  induction steps using List.reverseRecOn with
  | nil => exact .refl _
  | append_singleton steps last ih =>
    have hlast : ∀ dbPath subscriber, last ≠ .install dbPath subscriber := by
      rintro dbPath subscriber rfl
      exact h dbPath subscriber (List.mem_append_right _ List.mem_cons_self)
    rw [run_concat]
    exact (ih fun dbPath subscriber hmem => h dbPath subscriber (List.mem_append_left _ hmem)).trans
      (wanes_step _ hlast)

end Situation

/-! ### Ending one installation after the other -/

/-- What is queued for an installation that is not installed is dropped. -/
theorem step_work_of_not_installed (hn : ∀ d, s.registry.life? n ≠ some (d, .installed)) :
    (s.step (.work n .oldest)).registry = s.registry.workBy .plain n := by
  have hdropped : (s.registry.take n).1 = none := by
    unfold Registry.take
    split
    · rfl
    · next i hi =>
      split
      · rfl
      · refine if_neg fun hphase => hn i.dbPath ?_
        rw [life?_of_getElem? hi, eq_of_beq hphase]
  simp only [Situation.step, Situation.work, workBy]
  generalize s.registry.take n = item at hdropped
  obtain ⟨_, taken⟩ := item
  obtain rfl := hdropped
  rfl

/-- The steps that do what an installation has queued, and end it. -/
def ending (n : Nat) (s : Situation) : List Step :=
  List.replicate (s.registry.queued n) (.work n .oldest) ++ [.finish n]

/-- The steps that end an installation settle it. -/
theorem run_ending (hn : ∀ d, s.registry.life? n ≠ some (d, .installed)) :
    (s.run (ending n s)).registry = s.registry.settleBy .plain n := by
  have hworked : ∀ k, (s.run (List.replicate k (.work n .oldest))).registry
      = Nat.repeat (workBy .plain n) k s.registry := by
    intro k
    induction k with
    | zero => rfl
    | succ k ih =>
      have hkept : ∀ d, (s.run (List.replicate k (.work n .oldest))).registry.life? n
          ≠ some (d, .installed) := by
        rw [ih]
        exact fun d hlife => hn d ((wanes_repeat_workBy .plain n k s.registry).installed n d hlife)
      rw [List.replicate_succ', Situation.run_concat, step_work_of_not_installed hkept, ih]
      rfl
  rw [ending, Situation.run_concat, settleBy, ← hworked]
  rfl

/-- An installation that is being uninstalled can be ended while all others are left alone. -/
theorem life?_run_ending (hr : s.registry.WellFormed)
    (hn : s.registry.life? n = some (dbPath, .uninstalling)) (m : Nat) :
    (s.run (ending n s)).registry.life? m
      = if m = n then some (dbPath, .uninstalled) else s.registry.life? m := by
  have hrun : (s.run (ending n s)).registry = s.registry.settleBy .plain n :=
    run_ending fun d hlife => by
      rw [hn] at hlife
      cases hlife
  split
  · next hm =>
    subst hm
    obtain ⟨p, hlife, hinstalled⟩ := Situation.life?_run hn (ending m s)
    obtain ⟨i, hi, -⟩ := life?_eq_some_iff.mp hn
    obtain ⟨i', hi', -, hphase⟩ := isSettled_settleBy .plain hr hi
    have hlife' := life?_of_getElem? hi'
    rw [hrun, hlife'] at hlife
    obtain ⟨rfl, rfl⟩ := Prod.mk.inj (Option.some.inj hlife)
    rw [hrun, hlife']
    cases hp : i'.phase with
    | installed => cases hinstalled hp
    | uninstalling => exact absurd hp hphase
    | uninstalled => rfl
  · next hm =>
    rw [hrun, life?, life?, (spares_settleBy .plain hr (Ne.symm hm)).installation]

/-- None of these steps installs a database. -/
theorem installsNothing_ending (n : Nat) (s : Situation) : InstallsNothing (ending n s) := by
  intro dbPath subscriber hmem
  rcases List.mem_append.mp hmem with hmem | hmem
  · cases List.eq_of_mem_replicate hmem
  · cases List.mem_singleton.mp hmem

/-- Some installations that are being uninstalled can be ended while all others are left alone. -/
theorem exists_endings (hr : s.registry.WellFormed) (ns : List Nat) :
    ∃ steps, InstallsNothing steps ∧ ∀ m, (s.run steps).registry.life? m
      = (s.registry.life? m).map fun l =>
        if m ∈ ns ∧ l.2 = .uninstalling then (l.1, .uninstalled) else l := by
  induction ns generalizing s with
  | nil =>
    refine ⟨[], fun _ _ hmem => absurd hmem List.not_mem_nil, fun m => ?_⟩
    simp
  | cons n ns ih =>
    by_cases hn : ∃ d, s.registry.life? n = some (d, .uninstalling)
    · obtain ⟨d, hn⟩ := hn
      have hfirst := life?_run_ending hr hn
      obtain ⟨steps, hnothing, hlife⟩ :=
        ih ((s.wanes_run (installsNothing_ending n s)).wellFormed hr)
      refine ⟨ending n s ++ steps, fun dbPath subscriber hmem => ?_, fun m => ?_⟩
      · rcases List.mem_append.mp hmem with hmem | hmem
        · exact installsNothing_ending n s dbPath subscriber hmem
        · exact hnothing dbPath subscriber hmem
      · rw [Situation.run_append, hlife, hfirst]
        by_cases hm : m = n
        · simp [hm, hn]
        · simp [hm]
    · -- There is nothing to be ended.
      obtain ⟨steps, hnothing, hlife⟩ := ih hr
      refine ⟨steps, hnothing, fun m => (hlife m).trans ?_⟩
      refine Option.map_congr fun l hl => ?_
      have hne : l.2 = .uninstalling → m ≠ n := by
        rintro hp rfl
        exact hn ⟨l.1, hp ▸ hl⟩
      by_cases hp : l.2 = .uninstalling
      · simp [hp, hne hp]
      · simp [hp]

/-! ### Shutdowns -/

/-- The situation when a shutdown returned during which some steps were made. -/
def Situation.shutDown (during : List Step) (s : Situation) : Situation :=
  ((s.step .beginShutdown).run during).step .endShutdown

/-- A shutdown that begins in a situation may return after some steps: nothing was installed
meanwhile, and the installations that it began to end are over. -/
structure Returns (s : Situation) (during : List Step) : Prop where
  installsNothing : InstallsNothing during
  ended : ∀ n d, s.registry.life? n = some (d, .installed) →
    ((s.step .beginShutdown).run during).registry.life? n = some (d, .uninstalled)

/-- A shutdown can return, and leave all installations that it did not begin to end as they were. -/
theorem exists_returns (hr : s.registry.WellFormed) :
    ∃ during, Returns s during ∧ ∀ n d p, s.registry.life? n = some (d, p) → p ≠ .installed →
      (s.shutDown during).registry.life? n = some (d, p) := by
  have hbegun : ∀ m, (s.step .beginShutdown).registry.life? m
      = (s.registry.life? m).map fun l => if l.2 = .installed then (l.1, .uninstalling) else l :=
    life?_uninstallAll hr
  have hwell : (s.step .beginShutdown).registry.WellFormed :=
    (s.wanes_step fun _ _ h => by cases h).wellFormed hr
  let own := (List.range s.registry.installations.length).filter fun n =>
    (s.registry.life? n).any fun l => l.2 = .installed
  obtain ⟨during, hnothing, hlife⟩ := exists_endings hwell own
  have hown : ∀ {n d p}, s.registry.life? n = some (d, p) → (n ∈ own ↔ p = .installed) := by
    intro n d p hn
    simp [own, hn, lt_length_of_life? hn]
  refine ⟨during, ⟨hnothing, fun n d hn => ?_⟩, fun n d p hn hp => ?_⟩
  · rw [hlife, hbegun, hn]
    simp [(hown hn).mpr rfl]
  · have hreturned : (s.shutDown during).registry.life? n
        = ((s.step .beginShutdown).run during).registry.life? n := (sameLives_tell _ _).life? n
    rw [hreturned, hlife, hbegun, hn]
    simp [mt (hown hn).mp hp, hp]

/-- A shutdown is a run: it begins, other steps happen meanwhile, and it ends. -/
theorem Situation.shutDown_eq_run (s : Situation) (during : List Step) :
    s.shutDown during = s.run (.beginShutdown :: during ++ [.endShutdown]) := by
  rw [run_concat]
  rfl

/-- A shutdown that returns has installed nothing. -/
theorem Returns.wanes {during : List Step} (h : Returns s during) :
    Wanes s.registry (s.shutDown during).registry := by
  rw [Situation.shutDown_eq_run]
  refine s.wanes_run fun dbPath subscriber hmem => ?_
  simp only [List.cons_append, List.mem_cons, List.mem_append, reduceCtorEq, List.not_mem_nil,
    false_or, or_false] at hmem
  exact h.installsNothing dbPath subscriber hmem

/-- When a shutdown returns, what is not over was being uninstalled before it began. -/
theorem Returns.life?_shutDown {during : List Step} (h : Returns s during) {d : String} {p : Phase}
    (hn : (s.shutDown during).registry.life? n = some (d, p)) :
    p = .uninstalled ∨ p = .uninstalling ∧ s.registry.life? n = some (d, .uninstalling) := by
  -- The installation was there before, as none has begun since.
  have hlt := lt_length_of_life? hn
  rw [h.wanes.length] at hlt
  obtain ⟨⟨d', q⟩, hbefore⟩ := Option.ne_none_iff_exists'.mp
    (mt life?_eq_none_iff.mp (Nat.not_le_of_lt hlt))
  have hafter := hn
  rw [Situation.shutDown_eq_run] at hafter
  obtain ⟨p', hlife, hinstalled⟩ :=
    Situation.life?_run hbefore (.beginShutdown :: during ++ [.endShutdown])
  obtain ⟨rfl, rfl⟩ := Prod.mk.inj (Option.some.inj (hafter.symm.trans hlife))
  cases q with
  | installed =>
    have hended : (s.shutDown during).registry.life? n = some (d, .uninstalled) :=
      ((sameLives_tell _ _).life? n).trans (h.ended n d hbefore)
    exact .inl (Prod.mk.inj (Option.some.inj (hn.symm.trans hended))).2
  | uninstalling =>
    cases p with
    | installed => cases hinstalled rfl
    | uninstalling => exact .inr ⟨rfl, hbefore⟩
    | uninstalled => exact .inl rfl
  | uninstalled =>
    have hover :=
      Situation.life?_run_of_uninstalled hbefore (.beginShutdown :: during ++ [.endShutdown])
    exact .inl (Prod.mk.inj (Option.some.inj (hlife.symm.trans hover))).2

/-- What a shutdown ends is what it begins to end. From every situation of a run a shutdown can
return, whatever was being uninstalled before. Whenever it does, each installation is over or was
already being uninstalled when it began, and so for the databases. Hence a shutdown always leaves
every database uninstalled and nothing being uninstalled exactly if nothing was being uninstalled
before, and one that runs all queued work while it waits does so also if there was anything to wait
for. -/
theorem shutdown_ends_what_it_begins (engine : Engine) (time : Nat) (before : List Step) :
    let s := (Situation.start engine time).run before
    (∃ during, Returns s during)
    ∧ (∀ during, Returns s during →
        (∀ n d p, (s.shutDown during).registry.life? n = some (d, p) →
          p = .uninstalled ∨ p = .uninstalling ∧ s.registry.life? n = some (d, .uninstalling))
        ∧ ∀ d, (s.shutDown during).registry.phase d = .uninstalled
          ∨ (s.shutDown during).registry.phase d = .uninstalling
            ∧ ∃ n, s.registry.life? n = some (d, .uninstalling))
    ∧ ((∀ during, Returns s during → (s.shutDown during).registry.IsOver
          ∧ ∀ d, (s.shutDown during).registry.phase d = .uninstalled)
        ↔ ∀ n d, s.registry.life? n ≠ some (d, .uninstalling))
    ∧ (s.registry.shutdown.IsOver
        ↔ s.registry.installed ≠ [] ∨ ∀ n d, s.registry.life? n ≠ some (d, .uninstalling)) := by
  intro s
  have hr : s.registry.WellFormed := (Ledger.run engine time before).wellFormed
  obtain ⟨least, hleast, hkept⟩ := exists_returns hr
  refine ⟨⟨least, hleast⟩,
    fun during hduring => ⟨fun n d p hn => hduring.life?_shutDown hn, fun d => ?_⟩,
    ⟨fun hall n d hn => ?_, fun hnone during hduring => ?_⟩, isOver_shutdown_iff hr⟩
  · by_cases hphase : (s.shutDown during).registry.phase d = .uninstalled
    · exact .inl hphase
    · obtain ⟨n, d', hfind, hlife⟩ := (phase_eq_iff hphase).mp rfl
      obtain ⟨p, hentry, -⟩ := (hduring.wanes.wellFormed hr).entry hfind
      obtain ⟨rfl, -⟩ := Prod.mk.inj (Option.some.inj (hentry.symm.trans hlife))
      obtain ⟨huninstalling, hbefore⟩ := (hduring.life?_shutDown hlife).resolve_left hphase
      exact .inr ⟨huninstalling, n, hbefore⟩
  · cases (hall least hleast).1 n d _ (hkept n d _ hn (by decide))
  · have hover : (s.shutDown during).registry.IsOver := by
      intro n d p hn
      rcases hduring.life?_shutDown hn with hp | ⟨-, hbefore⟩
      · exact hp
      · exact absurd hbefore (hnone n d)
    exact ⟨hover, hover.phase_eq⟩

/-- A database was installed while another one was being uninstalled. A shutdown ends the first
one. -/
theorem shutdown_ends_what_it_begins_of_two :
    let before : List Step := [.install "a.db" ⟨"A", false⟩, .uninstall "a.db",
      .install "b.db" ⟨"B", false⟩, .notify "b.db" ⟨"SELECT a FROM t", 1, ""⟩]
    let s := (Situation.start (.ofConfig .default) 0).run before
    Returns s [.work 1 .oldest, .finish 1]
    ∧ (s.shutDown [.work 1 .oldest, .finish 1]).registry.phase "b.db" = .uninstalled := by
  intro before s
  have hfirst : s.registry.life? 0 = some ("a.db", .uninstalling) := by rfl
  have hsecond : s.registry.life? 1 = some ("b.db", .installed) := by rfl
  have hcases : ∀ n l, s.registry.life? n = some l → n = 0 ∨ n = 1 := by
    intro n l hn
    have hlt : n < 2 := lt_length_of_life? hn
    omega
  have hreturns : Returns s [.work 1 .oldest, .finish 1] := by
    refine ⟨fun _ _ hmem => by simp at hmem, fun n d hn => ?_⟩
    rcases hcases n _ hn with rfl | rfl
    · rw [hfirst] at hn
      cases hn
    · rw [hsecond] at hn
      cases hn
      decide +kernel
  obtain ⟨-, hleft, -⟩ := shutdown_ends_what_it_begins (.ofConfig .default) 0 before
  refine ⟨hreturns, ((hleft _ hreturns).2 "b.db").resolve_right ?_⟩
  rintro ⟨-, n, hn⟩
  rcases hcases n _ hn with rfl | rfl
  · have hdb := congrArg Prod.fst (Option.some.inj (hfirst.symm.trans hn))
    exact absurd hdb (by decide)
  · cases hsecond.symm.trans hn

/-- A shutdown returns at once while two databases are being uninstalled. -/
theorem shutdown_leaves_uninstalling :
    let s := (Situation.start (.ofConfig .default) 0).run
      [.install "a.db" ⟨"A", false⟩, .install "b.db" ⟨"B", false⟩, .uninstall "a.db",
        .uninstall "b.db"]
    Returns s [] ∧ (s.shutDown []).registry.phase "a.db" = .uninstalling
      ∧ s.registry.shutdown.phase "a.db" = .uninstalling
      ∧ s.registry.shutdown.phase "b.db" = .uninstalling := by
  intro s
  have hnone : s.registry.installed = [] := by decide +kernel
  have hwell : s.registry.WellFormed := (Ledger.run _ _ _).wellFormed
  refine ⟨⟨fun _ _ hmem => absurd hmem List.not_mem_nil, fun n d hn => ?_⟩, ?_⟩
  · exact absurd hn ((installed_eq_nil_iff hwell).mp hnone n d)
  · decide +kernel

end Run

end QueryLint
