import QueryLint.Proofs.Registry.Lives

/-!
# How lives change

`Evolves r events r'` says that the lives of databases change from `r` to `r'` while some events
happen. Every step of a run is such a change, whatever else it does (`evolves_step`), so an
invariant that only speaks of lives and of the history has to be checked for the constructors of
`Evolves` alone.
-/

namespace QueryLint.Run

open Registry

/-- The lives of databases change from one registry to another while some events happen. -/
inductive Evolves : Registry → List Event → Registry → Prop
  | keep {r r' : Registry} (hl : SameLives r r') : Evolves r [] r'
  | examine {r r' : Registry} (n : Nat) (x : Execution) (hl : SameLives r r') :
      Evolves r [.examine n x] r'
  /-- A database that is installed is installed again. -/
  | reinstall {r r' : Registry} {dbPath : String} {n : Nat} (hn : r.current? dbPath = some n)
      (hl : SameLives r r') : Evolves r [.install dbPath n] r'
  | install {r r' : Registry} {dbPath : String} (hn : r.current? dbPath = none)
      (hd : r'.databases = r.databases.insert dbPath r.installations.length)
      (hl : ∀ m, r'.life? m
        = if m = r.installations.length then some (dbPath, .installed) else r.life? m) :
      Evolves r [.install dbPath r.installations.length] r'
  /-- A database that is not installed is uninstalled. -/
  | ignore {r : Registry} {dbPath : String} (hn : r.current? dbPath = none) :
      Evolves r [.uninstall dbPath none] r
  | uninstall {r r' : Registry} {dbPath : String} {n : Nat} (hn : r.current? dbPath = some n)
      (hd : r'.databases = r.databases)
      (hl : ∀ m, r'.life? m
        = if m = n then (r.life? m).map fun l => (l.1, .uninstalling) else r.life? m) :
      Evolves r [.uninstall dbPath (some n)] r'
  | ended {r r' : Registry} {dbPath : String} {n : Nat}
      (hn : r.life? n = some (dbPath, .uninstalling))
      (hd : r'.databases
        = if r.databases.find? dbPath = some n then r.databases.erase dbPath else r.databases)
      (hl : ∀ m, r'.life? m = if m = n then some (dbPath, .uninstalled) else r.life? m) :
      Evolves r [.ended n] r'
  | trans {r r' r'' : Registry} {events more : List Event} :
      Evolves r events r' → Evolves r' more r'' → Evolves r (events ++ more) r''

variable {r r' : Registry} {events : List Event}

/-- What keeps all lives may come before. -/
theorem Evolves.after_keep (hl : SameLives r r') {r'' : Registry} (h : Evolves r' events r'') :
    Evolves r events r'' := by
  have := (Evolves.keep hl).trans h
  rwa [List.nil_append] at this

/-- Installing a database is told by one event: a new installation, or a new subscriber for the
current one. -/
theorem evolves_install (r : Registry) (dbPath : String) (subscriber : Subscriber) :
    Evolves r [.install dbPath ((r.current? dbPath).getD r.installations.length)]
      (r.install dbPath subscriber) := by
  cases hn : r.current? dbPath with
  | none => exact .install hn (install_databases subscriber hn) (life?_install subscriber hn)
  | some n => exact .reinstall hn (sameLives_install subscriber hn)

/-- Uninstalling a database is told by one event, which names the installation that it begins to
end. -/
theorem evolves_uninstall (r : Registry) (dbPath : String) :
    Evolves r [.uninstall dbPath (r.current? dbPath)] (r.uninstall dbPath).2 := by
  cases hn : r.current? dbPath with
  | none =>
    rw [uninstall_of_current?_eq_none hn]
    exact .ignore hn
  | some n =>
    refine .uninstall hn ?_ (life?_uninstall hn)
    rw [uninstall_of_current?_eq_some hn]
    rfl

/-- Uninstalling some databases is told by one event for each of them. -/
theorem evolves_uninstallEach (dbPaths : List String) (r : Registry) :
    Evolves r (uninstallEvents dbPaths r) (r.uninstallEach dbPaths).2 := by
  induction dbPaths generalizing r with
  | nil => exact .keep (.refl r)
  | cons dbPath rest ih => exact (evolves_uninstall r dbPath).trans (ih _)

/-- What happens to the lives of databases does not depend on what else a registry holds. -/
theorem uninstallEvents_congr (hl : SameLives r r') (dbPaths : List String) :
    uninstallEvents dbPaths r' = uninstallEvents dbPaths r := by
  induction dbPaths generalizing r r' with
  | nil => rfl
  | cons dbPath rest ih =>
    simp only [uninstallEvents, hl.current?_eq, List.cons.injEq, true_and]
    apply ih
    cases hn : r.current? dbPath with
    | none =>
      have hn' : r'.current? dbPath = none := by rw [hl.current?_eq, hn]
      rw [uninstall_of_current?_eq_none hn, uninstall_of_current?_eq_none hn']
      exact hl
    | some n =>
      have hn' : r'.current? dbPath = some n := by rw [hl.current?_eq, hn]
      refine ⟨?_, fun m => ?_⟩
      · rw [uninstall_of_current?_eq_some hn, uninstall_of_current?_eq_some hn']
        exact hl.databases
      · rw [life?_uninstall hn, life?_uninstall hn', hl.life?]

/-- A delivery is told by what its subscriber uninstalls; a dropped one by nothing. -/
theorem evolves_publishBy (uninstalls : List String) (r : Registry) (n : Nat)
    (issues : List Issue) :
    Evolves r (if (r.publishBy uninstalls n issues).1 then uninstallEvents uninstalls r else [])
      (r.publishBy uninstalls n issues).2 := by
  by_cases hn : ∃ i, r.installations[n]? = some i ∧ i.phase = .installed
  · obtain ⟨i, hi, hphase⟩ := hn
    have hl : SameLives r { r with
        deliveries := r.deliveries ++ [⟨n, i.subscriber, i.dbPath, issues⟩] } := .of_eq rfl rfl
    rw [publishBy_of_installed uninstalls issues hi hphase, if_pos rfl, ← uninstallEvents_congr hl]
    exact (evolves_uninstallEach uninstalls _).after_keep hl
  · rw [publishBy_of_not_installed uninstalls issues (by simpa using hn)]
    exact .keep (.refl r)

/-- Ending an installation is told by one event, if nothing is left to do. -/
theorem evolves_finish (r : Registry) (n : Nat) :
    Evolves r (if r.installations[n]?.any Installation.isDone then [.ended n] else [])
      (r.finish n) := by
  cases hdone : r.installations[n]?.any Installation.isDone with
  | false =>
    rw [finish_of_not_isDone hdone]
    exact .keep (.refl r)
  | true =>
    obtain ⟨dbPath, hn, hd, hl⟩ := finish_of_isDone hdone
    exact .ended hn hd hl

namespace Situation

/-- Looking at an execution is told by one event. -/
theorem evolves_examine (forget : Fingerprint.Seen.Forgetting) (n : Nat) (x : Execution)
    (s : Situation) : Evolves s.registry [.examine n x] (s.examine forget n x).registry :=
  .examine n x (sameLives_examineBy forget s.registry n x)

/-- An item of a queue is told by the events that it adds. -/
theorem evolves_work (forget : Fingerprint.Seen.Forgetting) (n : Nat) (s : Situation) :
    ∃ events, (s.work forget n).history = s.history ++ events
      ∧ Evolves s.registry events (s.work forget n).registry := by
  have hl := sameLives_take s.registry n
  unfold work
  generalize s.registry.take n = item at hl
  obtain ⟨item, taken⟩ := item
  cases item with
  | none => exact ⟨[], by simp, .keep hl⟩
  | some item =>
    cases item with
    | execution x =>
      exact ⟨[.examine n x], rfl,
        .after_keep hl (evolves_examine forget n x { s with registry := taken })⟩
    | check => exact ⟨[], by simp, .keep (hl.trans (sameLives_runCheck taken n))⟩

/-- Every step changes lives as its events say. -/
theorem evolves_step (s : Situation) (st : Step) :
    ∃ events, (s.step st).history = s.history ++ events
      ∧ Evolves s.registry events (s.step st).registry := by
  cases st with
  | install dbPath subscriber => exact ⟨_, rfl, evolves_install s.registry dbPath subscriber⟩
  | uninstall dbPath => exact ⟨_, rfl, evolves_uninstall s.registry dbPath⟩
  | beginShutdown => exact ⟨_, rfl, evolves_uninstallEach s.registry.installed s.registry⟩
  | endShutdown => exact ⟨[], by simp [step], .keep (sameLives_tell _ _)⟩
  | setWhitelist dbPath whitelist =>
    exact ⟨[], by simp [step], .keep (sameLives_setWhitelist _ dbPath whitelist)⟩
  | enableChecker dbPath checker =>
    exact ⟨[], by simp [step], .keep (sameLives_enableChecker _ dbPath checker)⟩
  | requestCheck dbPath => exact ⟨[], by simp [step], .keep (sameLives_enqueue _ dbPath _)⟩
  | requestChecks => exact ⟨[], by simp [step], .keep (sameLives_requestChecks _)⟩
  | notify dbPath x => exact ⟨[], by simp [step], .keep (sameLives_enqueue _ dbPath _)⟩
  | notifyNow dbPath x forget =>
    simp only [step]
    split
    · next n _ => exact ⟨_, rfl, evolves_examine forget n x s⟩
    · exact ⟨[], by simp, .keep (.refl _)⟩
  | work n forget => exact evolves_work forget n s
  | deliver k uninstalls =>
    simp only [step, deliver]
    split
    · exact ⟨[], by simp, .keep (.refl _)⟩
    · next p _ => exact ⟨_, rfl, evolves_publishBy uninstalls s.registry p.installation p.issues⟩
  | finish n => exact ⟨_, rfl, evolves_finish s.registry n⟩
  | tick time => exact ⟨[], by simp [step], .keep (.of_eq rfl rfl)⟩

end Situation

end QueryLint.Run
