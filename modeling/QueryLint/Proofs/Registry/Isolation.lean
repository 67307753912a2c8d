import QueryLint.Proofs.Registry.Alike
import QueryLint.Proofs.Registry.Filtering

/-!
# Databases are isolated

A run is a list of steps: calls for some database, work in the background of its installations, and
operations on all databases. A step that names another database changes nothing in the share of a
database (`Alike.call_of_ne`), and a step about the database yields the same and does the same in
all registries with the same share (`Alike.call`). So the steps about others may be left out
(`databases_isolated`).

The operations on all databases go through lists in which the others stand between. Two such lists
are followed side by side, each of them alone where it names another database (`foldl_rel`).

A shutdown needs more care. It waits for the installations that it ends itself, and so it depends on
whether any database is installed. If one is, it also ends what else is being uninstalled; if none
is, it does not (`shutdown_ends_by_others`). The theorem excludes this case only (`EndsAlone`).
-/

namespace QueryLint

/-! ### Two lists that differ in what does not matter -/

section Folds

variable {α β σ : Type} {R : σ → σ → Prop} {f : σ → α → σ} {p p' : α → Bool} {r r' : σ}

/-- A relation between two registries survives a fold on the right if no member of the list is one
of those that could break it. -/
theorem foldl_rel_right (hright : ∀ {r r' a}, p' a = false → R r r' → R r (f r' a)) {l : List α}
    (hl : ∀ a ∈ l, p' a = false) (h : R r r') : R r (l.foldl f r') := by
  induction l generalizing r' with
  | nil => exact h
  | cons a rest ih =>
    exact ih (fun b hb => hl b (List.mem_cons_of_mem a hb)) (hright (hl a List.mem_cons_self) h)

/-- Two folds stay related if each of them may go on alone where something does not count, and both
go on together where something counts that has the same key in both. -/
theorem foldl_rel (key key' : α → β) (hleft : ∀ {r r' a}, p a = false → R r r' → R (f r a) r')
    (hright : ∀ {r r' a}, p' a = false → R r r' → R r (f r' a))
    (hboth : ∀ {r r' a a'}, p a → p' a' → key a = key' a' → R r r' → R (f r a) (f r' a'))
    {l l' : List α} (hl : (l.filter p).map key = (l'.filter p').map key') (h : R r r') :
    R (l.foldl f r) (l'.foldl f r') := by
  induction l generalizing l' r r' with
  | nil =>
    have hnone := List.map_eq_nil_iff.mp hl.symm
    exact foldl_rel_right hright (fun a ha => by simpa using List.filter_eq_nil_iff.mp hnone a ha) h
  | cons a rest ih =>
    cases ha : p a with
    | false =>
      rw [List.filter_cons_of_neg (by simp [ha])] at hl
      exact ih hl (hleft ha h)
    | true =>
      rw [List.filter_cons_of_pos ha, List.map_cons] at hl
      obtain ⟨a', rest', hfilter, hkey, hrest⟩ := List.map_eq_cons_iff.mp hl.symm
      obtain ⟨before, behind, rfl, hbefore, ha', rfl⟩ := List.filter_eq_cons_iff.mp hfilter
      have hskipped : R r (before.foldl f r') :=
        foldl_rel_right hright (fun b hb => by simpa using hbefore b hb) h
      rw [List.foldl_append, List.foldl_cons, List.foldl_cons]
      exact ih hrest.symm (hboth ha ha' hkey.symm hskipped)

end Folds

namespace Registry

variable {c : Conduct} {r r' s s' : Registry} {dbPath other : String} {n n' m m' : Nat}
  {i : Installation}

/-! ### Operations on all databases -/

/-- Uninstalls all databases and waits until the installations that this ends are over. -/
def shutdownBy (c : Conduct) (r : Registry) : Registry :=
  let (started, ending) := r.uninstallAll
  (if started then ending.drainBy c else ending).tell .shutDown

/-- Under the plain conduct shutting down is the registry's own `shutdown`. -/
theorem shutdownBy_plain (r : Registry) : r.shutdownBy .plain = r.shutdown := by
  unfold shutdownBy shutdown
  rcases r.uninstallAll with ⟨started, ending⟩
  dsimp only
  rw [drainBy_plain]

/-- A notice installs nothing. -/
theorem wanes_tell (r : Registry) (notice : Notice) : Wanes r (r.tell notice) :=
  .of_sameLives rfl (sameLives_tell r notice)

/-- Requesting checks installs nothing. -/
theorem wanes_requestChecks (r : Registry) : Wanes r r.requestChecks := by
  unfold requestChecks
  generalize r.databases.keys = dbPaths
  induction dbPaths generalizing r with
  | nil => exact .refl r
  | cons dbPath rest ih => exact (wanes_enqueue r dbPath .check).trans (ih _)

/-- Doing all queued work installs nothing, however the subscribers behave. -/
theorem wanes_drainBy (c : Conduct) (hr : r.WellFormed) : Wanes r (r.drainBy c) :=
  (isSettled_foldl_settleBy c hr _).1

/-- Shutting down installs nothing, however the subscribers behave. -/
theorem wanes_shutdownBy (c : Conduct) (hr : r.WellFormed) : Wanes r (r.shutdownBy c) := by
  have hending : Wanes r r.uninstallAll.2 := wanes_uninstallEach r.installed r
  have hwell := hending.wellFormed hr
  unfold shutdownBy
  generalize r.uninstallAll = result at hending hwell
  obtain ⟨started, ending⟩ := result
  refine .trans ?_ (wanes_tell _ _)
  split
  · exact hending.trans (wanes_drainBy c hwell)
  · exact hending

/-- Uninstalling each of some databases is uninstalling one after the other. -/
theorem uninstallEach_snd (dbPaths : List String) (r : Registry) :
    (r.uninstallEach dbPaths).2 = dbPaths.foldl (fun r d => (r.uninstall d).2) r := by
  induction dbPaths generalizing r with
  | nil => rfl
  | cons d rest ih => exact ih _

/-- The installed databases are the known ones whose current installation is installed. -/
theorem mem_installed_iff :
    dbPath ∈ r.installed ↔ dbPath ∈ r.databases.keys ∧ r.isInstalled dbPath = true := by
  rw [installed, List.mem_mergeSort, List.mem_filter]

/-- The entries of a database in the map, as keys. -/
theorem filter_keys (dbPath : String) (r : Registry) :
    r.databases.keys.filter (fun d => d == dbPath)
      = List.replicate (r.share dbPath).entries.length dbPath := by
  rw [List.eq_replicate_iff]
  constructor
  · rw [OrderedMap.keys, List.filter_map, List.length_map, share, List.length_map]
    rfl
  · exact fun d hd => eq_of_beq (List.mem_filter.mp hd).2

/-- A database that is installed is listed as often as it is named by the map, and another one is
not. -/
theorem filter_installed (dbPath : String) (r : Registry) :
    r.installed.filter (fun d => d == dbPath)
      = if r.isInstalled dbPath then List.replicate (r.share dbPath).entries.length dbPath
        else [] := by
  have hcount : r.installed.count dbPath = (r.databases.keys.filter r.isInstalled).count dbPath :=
    (List.mergeSort_perm _ _).count_eq dbPath
  have hkeys : r.databases.keys.count dbPath = (r.share dbPath).entries.length := by
    rw [List.count_eq_length_filter, filter_keys, List.length_replicate]
  rw [List.filter_beq, hcount]
  split
  · next h => rw [List.count_filter h, hkeys]
  · next h =>
    rw [List.count_eq_zero.mpr fun hmem => h (List.mem_filter.mp hmem).2]
    rfl

/-- A database that is listed as installed is uninstalled first, so a shutdown has something to wait
for exactly if one is. -/
theorem uninstallAll_fst (r : Registry) : r.uninstallAll.1 = !r.installed.isEmpty := by
  rw [uninstallAll]
  cases hinstalled : r.installed with
  | nil => rfl
  | cons d rest =>
    have hd : r.isInstalled d = true := by
      have hmem : d ∈ r.installed := by rw [hinstalled]; exact List.mem_cons_self
      exact (mem_installed_iff.mp hmem).2
    have hbegun : (r.uninstall d).1 = true := by
      obtain ⟨⟨n, i⟩, hi⟩ := Option.isSome_iff_exists.mp hd
      rw [uninstall, hi]
    rw [uninstallEach]
    simp [hbegun]

/-- An installation that does not exist has nothing to do. -/
theorem settleBy_of_path?_eq_none (c : Conduct) (hn : r.path? n = none) : r.settleBy c n = r := by
  have hnone : r.installations[n]? = none := Option.map_eq_none_iff.mp hn
  have hdone : r.installations[n]?.any Installation.isDone = false := by rw [hnone]; rfl
  rw [settleBy, queued, hnone]
  exact finish_of_not_isDone hdone

/-- An installation on which nothing is left to be done is settled as it is. -/
theorem settleBy_of_isSettled (c : Conduct) (hi : r.installations[n]? = some i) (h : i.IsSettled) :
    r.settleBy c n = r := by
  have hdone : r.installations[n]?.any Installation.isDone = false := by
    rw [hi, Option.any_some]
    simp [Installation.isDone, h.2]
  rw [settleBy, queued, hi]
  dsimp only
  rw [h.1]
  exact finish_of_not_isDone hdone

/-- Settling an installation changes no databases of installations. -/
theorem path?_settleBy (c : Conduct) (hr : r.WellFormed) (n m : Nat) :
    (r.settleBy c n).path? m = r.path? m := by
  cases hn : r.path? n with
  | none => rw [settleBy_of_path?_eq_none c hn]
  | some d => exact (touches_settleBy c hr hn).path?_eq m

namespace Alike

/-- Two registries stay alike when each of them tells something. -/
theorem tell (h : Alike dbPath r r') (notice notice' : Notice) :
    Alike dbPath (r.tell notice) (r'.tell notice') :=
  h.of_touches (.silent _ _) (wanes_tell r notice) (.silent _ _) (wanes_tell r' notice') h.share_eq

/-- Something is done for the databases of two lists one after the other, each of which names the
database as often as the other one. -/
theorem foldl (h : Alike dbPath r r') {f : Registry → String → Registry}
    {dbPaths dbPaths' : List String}
    (hother : ∀ {r r' d}, d ≠ dbPath → Alike dbPath r r' → Alike dbPath (f r d) r')
    (hself : ∀ {r r'}, Alike dbPath r r' → Alike dbPath (f r dbPath) (f r' dbPath))
    (hsame : dbPaths.filter (fun d => d == dbPath) = dbPaths'.filter fun d => d == dbPath) :
    Alike dbPath (dbPaths.foldl f r) (dbPaths'.foldl f r') := by
  have hkeys : (dbPaths.filter fun d => d == dbPath).map id
      = (dbPaths'.filter fun d => d == dbPath).map id := congrArg (List.map id) hsame
  refine foldl_rel id id (fun hd h => hother (by simpa using hd) h)
    (fun hd h => (hother (by simpa using hd) h.symm).symm)
      (fun {r r' d d'} hd hd' _ h => ?_) hkeys h
  rw [eq_of_beq hd, eq_of_beq hd']
  exact hself h

/-- Two registries stay alike when checks are requested in both. -/
theorem requestChecks (h : Alike dbPath r r') : Alike dbPath r.requestChecks r'.requestChecks := by
  refine h.foldl (fun {r r' d} hne h => ?_) (fun h => h.enqueue .check) ?_
  · exact h.of_touches_ne (touches_enqueue h.left.wellFormed d .check)
      (wanes_enqueue r d .check) hne
  · rw [filter_keys, filter_keys, h.share_eq]

/-- Settling an installation does not matter if it is one of another database, or if nothing is left
to be done on it. -/
theorem settleBy_left (h : Alike dbPath r r') (c : Conduct)
    (hn : ∀ i, r.installations[n]? = some i → i.dbPath = dbPath → i.IsSettled) :
    Alike dbPath (r.settleBy c n) r' := by
  cases hpath : r.path? n with
  | none => rwa [settleBy_of_path?_eq_none c hpath]
  | some other =>
    by_cases hne : other = dbPath
    · obtain ⟨i, hi, hown⟩ := path?_eq_some_iff.mp hpath
      rwa [settleBy_of_isSettled c hi (hn i hi (hown.trans hne))]
    · exact h.of_touches_ne (touches_settleBy c h.left.wellFormed hpath) (wanes_settleBy c r n) hne

/-- Two registries stay alike when both do all queued work, if the conduct cannot tell how other
databases are numbered. -/
theorem drainBy (h : Alike dbPath r r') (hc : c.IsBlind) :
    Alike dbPath (r.drainBy c) (r'.drainBy c) := by
  -- While the registries are drained, the numbers keep their databases.
  let Stays (s s' : Registry) : Prop :=
    Alike dbPath s s' ∧ (∀ m, s.path? m = r.path? m) ∧ ∀ m, s'.path? m = r'.path? m
  have hleft : ∀ {s s' : Registry} {n}, (r.path? n == some dbPath) = false → Stays s s' →
      Stays (s.settleBy c n) s' := by
    rintro s s' n hn ⟨hs, hpath, hpath'⟩
    refine ⟨hs.settleBy_left c fun i hi hown => ?_,
      fun m => (path?_settleBy c hs.left.wellFormed n m).trans (hpath m), hpath'⟩
    rw [← hpath, path?_eq_some_iff.mpr ⟨i, hi, hown⟩] at hn
    simp at hn
  have hright : ∀ {s s' : Registry} {n}, (r'.path? n == some dbPath) = false → Stays s s' →
      Stays s (s'.settleBy c n) := by
    rintro s s' n hn ⟨hs, hpath, hpath'⟩
    refine ⟨(hs.symm.settleBy_left c fun i hi hown => ?_).symm, hpath,
      fun m => (path?_settleBy c hs.right.wellFormed n m).trans (hpath' m)⟩
    rw [← hpath', path?_eq_some_iff.mpr ⟨i, hi, hown⟩] at hn
    simp at hn
  have hboth : ∀ {s s' : Registry} {n n'}, (r.path? n == some dbPath) = true →
      (r'.path? n' == some dbPath) = true → r.rank dbPath n = r'.rank dbPath n' → Stays s s' →
      Stays (s.settleBy c n) (s'.settleBy c n') := by
    rintro s s' n n' hn hn' hrank ⟨hs, hpath, hpath'⟩
    have hpair : Paired dbPath s s' n n' :=
      ⟨(hpath n).trans (eq_of_beq hn), (hpath' n').trans (eq_of_beq hn'), by
        rw [rank_congr hpath, rank_congr hpath', hrank]⟩
    exact ⟨hs.settleBy hpair hc,
      fun m => (path?_settleBy c hs.left.wellFormed n m).trans (hpath m),
      fun m => (path?_settleBy c hs.right.wellFormed n' m).trans (hpath' m)⟩
  have hnumbers : (r.numbersOf dbPath).map (r.rank dbPath)
      = (r'.numbersOf dbPath).map (r'.rank dbPath) := by
    rw [map_rank_numbersOf, map_rank_numbersOf, h.share_eq]
  have hstays : Stays (r.drainBy c) (r'.drainBy c) :=
    foldl_rel (r.rank dbPath) (r'.rank dbPath) hleft hright hboth hnumbers
      ⟨h, fun _ => rfl, fun _ => rfl⟩
  exact hstays.1

/-- Draining a registry does not matter if nothing is left to be done on the database. -/
theorem drainBy_left (h : Alike dbPath r r') (c : Conduct)
    (hsettled : ∀ i ∈ (r.share dbPath).installations, i.IsSettled) :
    Alike dbPath (r.drainBy c) r' := by
  unfold Registry.drainBy
  generalize List.range r.installations.length = numbers
  rw [h.share_eq] at hsettled
  induction numbers generalizing r with
  | nil => exact h
  | cons n rest ih =>
    refine ih (h.settleBy_left c fun i hi hown => hsettled i ?_)
    rw [← h.share_eq]
    exact List.mem_filter.mpr ⟨List.mem_of_getElem? hi, beq_iff_eq.mpr hown⟩

/-- Two registries stay alike when all databases are uninstalled in both. -/
theorem uninstallAll (h : Alike dbPath r r') :
    Alike dbPath r.uninstallAll.2 r'.uninstallAll.2 := by
  rw [Registry.uninstallAll, Registry.uninstallAll, uninstallEach_snd, uninstallEach_snd]
  refine h.foldl (fun {r r' d} hne h => ?_) (fun h => h.uninstall.2) ?_
  · exact h.of_touches_ne (touches_uninstall h.left.wellFormed d) (wanes_uninstall r d) hne
  · rw [filter_installed, filter_installed, h.isInstalled_eq, h.share_eq]

end Alike

/-! ### Shutdowns -/

/-- No other database decides whether a shutdown waits for the installations of a database that are
being uninstalled: it waits anyway as the database is installed, it waits for nothing as no database
is, or there is no such installation. -/
def EndsAlone (dbPath : String) (r : Registry) : Prop :=
  r.isInstalled dbPath = true ∨ r.installed = []
    ∨ ∀ i ∈ r.installations, i.dbPath = dbPath → i.phase ≠ .uninstalling

instance (dbPath : String) (r : Registry) : Decidable (r.EndsAlone dbPath) :=
  inferInstanceAs (Decidable (_ ∨ _ ∨ _))

/-- All databases that are installed are the same. -/
def HasOnly (dbPath : String) (r : Registry) : Prop :=
  ∀ m d, r.life? m = some (d, .installed) → d = dbPath

/-- If only one database is installed, that stays so as long as nothing gets installed. -/
theorem HasOnly.wanes (h : HasOnly dbPath r) (hw : Wanes r r') : HasOnly dbPath r' :=
  fun m d hm => h m d (hw.installed m d hm)

/-- A database is installed exactly when one of its installations is. -/
theorem isInstalled_iff (hr : r.WellFormed) :
    r.isInstalled dbPath = true ↔ ∃ n, r.life? n = some (dbPath, .installed) := by
  have hcurrent : r.isInstalled dbPath = (r.current? dbPath).isSome := by
    rw [isInstalled, current?, Option.isSome_map]
  rw [hcurrent, Option.isSome_iff_exists]
  exact exists_congr fun n => hr.current?_eq_some_iff

/-- If a database is installed, the list of the installed ones is not empty. -/
theorem isEmpty_installed_of_isInstalled (hr : r.WellFormed) (h : r.isInstalled dbPath = true) :
    r.installed.isEmpty = false := by
  obtain ⟨n, hn⟩ := (isInstalled_iff hr).mp h
  have hkey := OrderedMap.mem_keys_of_find? (hr.latest hn)
  exact List.isEmpty_eq_false_iff_exists_mem.mpr ⟨dbPath, mem_installed_iff.mpr ⟨hkey, h⟩⟩

/-- If no other database is installed, and this one is not either, then none is. -/
theorem HasOnly.installed_eq_nil (h : HasOnly dbPath r) (hr : r.WellFormed)
    (hnot : r.isInstalled dbPath = false) : r.installed = [] := by
  refine List.eq_nil_iff_forall_not_mem.mpr fun d hd => ?_
  have hinstalled := (mem_installed_iff.mp hd).2
  obtain ⟨n, hn⟩ := (isInstalled_iff hr).mp hinstalled
  rw [h n d hn, hnot] at hinstalled
  cases hinstalled

/-- An installation of a database that is not installed, and that is not being uninstalled, is
settled. -/
theorem isSettled_of_not_uninstalling (hr : r.Consistent) (hnot : r.isInstalled dbPath = false)
    (hi : i ∈ r.installations) (hpath : i.dbPath = dbPath) (hphase : i.phase ≠ .uninstalling) :
    i.IsSettled := by
  refine ⟨hr.tidy i hi ?_, hphase⟩
  cases hp : i.phase with
  | uninstalled => rfl
  | uninstalling => exact absurd hp hphase
  | installed =>
    obtain ⟨n, hn⟩ := List.mem_iff_getElem?.mp hi
    have hlife := life?_of_getElem? hn
    rw [hpath, hp] at hlife
    rw [(isInstalled_iff hr.wellFormed).mpr ⟨n, hlife⟩] at hnot
    cases hnot

namespace Alike

/-- A shutdown does the same to a database when there are other databases and when there are
none. -/
theorem shutdownBy (h : Alike dbPath r r') (hc : c.IsBlind) (hends : r.EndsAlone dbPath)
    (honly : r'.HasOnly dbPath) : Alike dbPath (r.shutdownBy c) (r'.shutdownBy c) := by
  have hending := h.uninstallAll
  have hstarted := uninstallAll_fst r
  have hstarted' := uninstallAll_fst r'
  -- If the database is installed, both shutdowns wait for its end.
  cases hinstalled : r.isInstalled dbPath with
  | true =>
    have hinstalled' := h.isInstalled_eq.symm.trans hinstalled
    rw [isEmpty_installed_of_isInstalled h.left.wellFormed hinstalled] at hstarted
    rw [isEmpty_installed_of_isInstalled h.right.wellFormed hinstalled'] at hstarted'
    simp only [Registry.shutdownBy, hstarted, hstarted']
    exact (hending.drainBy hc).tell _ _
  | false =>
    have hnone' :=
      honly.installed_eq_nil h.right.wellFormed (h.isInstalled_eq.symm.trans hinstalled)
    have hstays : r'.uninstallAll.2 = r' := by
      rw [Registry.uninstallAll, hnone']
      rfl
    rw [hnone'] at hstarted'
    -- Else the one without neighbours returns at once, and the other one finds nothing to end.
    rcases hends with hyes | hnone | hphase
    · rw [hyes] at hinstalled
      cases hinstalled
    · rw [hnone] at hstarted
      simp only [Registry.shutdownBy, hstarted, hstarted']
      exact hending.tell _ _
    · simp only [Registry.shutdownBy, hstarted']
      refine tell ?_ _ _
      split
      · refine hending.drainBy_left c fun i hi => ?_
        rw [hending.share_eq, hstays, ← h.share_eq] at hi
        obtain ⟨hmem, hpath⟩ := List.mem_filter.mp hi
        exact isSettled_of_not_uninstalling h.left hinstalled hmem (eq_of_beq hpath)
          (hphase i hmem (eq_of_beq hpath))
      · exact hending

end Alike

/-! ### Runs -/

/-- The identifiers of the issues that are delivered when an execution is looked at at once. -/
def idsBy (c : Conduct) (r : Registry) (dbPath : String) (x : Execution) : List String :=
  match r.installed? dbPath with
  | some (n, _) => (r.examineBy c.forget n x).1.map Issue.id
  | none => []

/-- Under the plain conduct a notification returns what `notifyNow` returns. -/
theorem idsBy_plain (r : Registry) (dbPath : String) (x : Execution) :
    r.idsBy .plain dbPath x = (r.notifyNow dbPath x).1 := by
  unfold idsBy notifyNow
  cases r.installed? dbPath with
  | none => rfl
  | some found =>
    obtain ⟨n, i⟩ := found
    rcases examineBy_eq_or .oldest r n x with hnone | ⟨j, hj, hphase, htime, hseen⟩
    · simp [Conduct.plain, execute, examine, hnone]
    · dsimp only
      rw [execute_fst hj hphase htime hseen, Conduct.plain,
        examineBy_of_admitted .oldest hj hphase htime hseen]

/-- Does something on an installation of a database, which are numbered among themselves. -/
def atRank (dbPath : String) (k : Nat) (f : Nat → Registry → Registry) (r : Registry) : Registry :=
  match (r.numbersOf dbPath)[k]? with
  | some n => f n r
  | none => r

/-- What may be called for one database, and what may go on in the background of its installations,
which are numbered among themselves. -/
inductive Call where
  | install (subscriber : Subscriber)
  | uninstall
  | setWhitelist (whitelist : Whitelist)
  | enableChecker (checker : String)
  | requestCheck
  | notify (x : Execution)
  | notifyNow (x : Execution)
  | phase
  | isInstalled
  /-- The first item in the queue of an installation is done. -/
  | work (k : Nat)
  /-- An installation ends, if it has no work left. -/
  | finish (k : Nat)

/-- What a call yields. -/
inductive Answer where
  | nothing
  | flag (b : Bool)
  | phase (p : Phase)
  | ids (ids : List String)
  deriving DecidableEq

/-- The registry after a call for a database. -/
def Call.run (c : Conduct) (dbPath : String) (r : Registry) : Call → Registry
  | install subscriber => r.install dbPath subscriber
  | uninstall => (r.uninstall dbPath).2
  | setWhitelist whitelist => r.setWhitelist dbPath whitelist
  | enableChecker checker => r.enableChecker dbPath checker
  | requestCheck => r.requestCheck dbPath
  | notify x => r.notify dbPath x
  | notifyNow x => r.notifyNowBy c dbPath x
  | phase => r
  | isInstalled => r
  | work k => r.atRank dbPath k (workBy c)
  | finish k => r.atRank dbPath k Registry.finish

/-- What a call for a database yields: where it stands once it was installed, whether it began to be
uninstalled, which issues were delivered, or what was asked for. -/
def Call.answer (c : Conduct) (dbPath : String) (r : Registry) : Call → Answer
  | install subscriber => .phase ((r.install dbPath subscriber).phase dbPath)
  | uninstall => .flag (r.uninstall dbPath).1
  | notifyNow x => .ids (r.idsBy c dbPath x)
  | phase => .phase (r.phase dbPath)
  | isInstalled => .flag (r.isInstalled dbPath)
  | _ => .nothing

/-- A step of a run. -/
inductive Act where
  | call (dbPath : String) (call : Call)
  | requestChecks
  /-- All queued work runs, and all installations that are being uninstalled end. -/
  | drain
  | shutdown
  /-- The clock is set. -/
  | tick (time : Nat)

namespace Act

/-- The registry after a step. -/
def run (c : Conduct) (r : Registry) : Act → Registry
  | .call dbPath f => f.run c dbPath r
  | requestChecks => r.requestChecks
  | drain => r.drainBy c
  | shutdown => r.shutdownBy c
  | tick time => { r with time }

/-- What a step yields. -/
def answer (c : Conduct) (r : Registry) : Act → Answer
  | .call dbPath f => f.answer c dbPath r
  | _ => .nothing

/-- Whether a step is about a database or about all of them. -/
def concerns (dbPath : String) : Act → Bool
  | call d _ => d == dbPath
  | tick _ => false
  | _ => true

end Act

/-- The registry after some steps. -/
def after (c : Conduct) (acts : List Act) (r : Registry) : Registry :=
  acts.foldl (Act.run c) r

/-- What the steps yield that concern a database. -/
def answers (c : Conduct) (dbPath : String) : List Act → Registry → List Answer
  | [], _ => []
  | act :: rest, r =>
    if act.concerns dbPath then act.answer c r :: answers c dbPath rest (act.run c r)
    else answers c dbPath rest (act.run c r)

/-- What was delivered from a database, apart from the times and from how the installations are
numbered. -/
def batches (dbPath : String) (r : Registry) : List Delivery :=
  (r.deliveries.filter fun d => d.dbPath == dbPath).map fun d => d.timeless.numberless

/-- The batches of a database are those of its share. -/
theorem batches_eq (dbPath : String) (r : Registry) :
    r.batches dbPath = (r.share dbPath).deliveries.map Delivery.numberless := by
  rw [batches, share, List.map_map]
  rfl

/-! ### Steps -/

/-- The numbers of a database's installations are numbers of installations at its path. -/
theorem path?_of_mem_numbersOf (h : (r.numbersOf dbPath)[m]? = some n) : r.path? n = some dbPath :=
  eq_of_beq (List.mem_filter.mp (List.mem_of_getElem? h)).2

namespace Alike

/-- The installations of a database are numbered among themselves in the same way in both
registries. -/
theorem numbersOf_cases (h : Alike dbPath r r') (k : Nat) :
    ((r.numbersOf dbPath)[k]? = none ∧ (r'.numbersOf dbPath)[k]? = none)
      ∨ ∃ n n', (r.numbersOf dbPath)[k]? = some n ∧ (r'.numbersOf dbPath)[k]? = some n'
        ∧ Paired dbPath r r' n n' := by
  have hranks : (r.numbersOf dbPath)[k]?.map (r.rank dbPath)
      = (r'.numbersOf dbPath)[k]?.map (r'.rank dbPath) := by
    rw [← List.getElem?_map, map_rank_numbersOf, h.share_eq, ← map_rank_numbersOf,
      List.getElem?_map]
  cases hn : (r.numbersOf dbPath)[k]? with
  | none =>
    rw [hn, Option.map_none] at hranks
    exact .inl ⟨rfl, Option.map_eq_none_iff.mp hranks.symm⟩
  | some n =>
    rw [hn, Option.map_some] at hranks
    obtain ⟨n', hn', hrank⟩ := Option.map_eq_some_iff.mp hranks.symm
    exact .inr ⟨n, n', rfl, hn', path?_of_mem_numbersOf hn, path?_of_mem_numbersOf hn', hrank.symm⟩

/-- Doing the same to installations of the same rank keeps two registries alike. -/
theorem atRank (h : Alike dbPath r r') {f : Nat → Registry → Registry} {k : Nat}
    (hf : ∀ {n n'}, Paired dbPath r r' n n' → Alike dbPath (f n r) (f n' r')) :
    Alike dbPath (r.atRank dbPath k f) (r'.atRank dbPath k f) := by
  unfold Registry.atRank
  rcases h.numbersOf_cases k with ⟨hnone, hnone'⟩ | ⟨n, n', hn, hn', hpair⟩
  · rw [hnone, hnone']
    exact h
  · rw [hn, hn']
    exact hf hpair

/-- A notification returns the same identifiers in two registries that are alike. -/
theorem idsBy_eq (h : Alike dbPath r r') (c : Conduct) (x : Execution) :
    r.idsBy c dbPath x = r'.idsBy c dbPath x := by
  unfold idsBy
  rcases h.installed?_cases with ⟨hnone, hnone'⟩ | ⟨n, n', i, hi, hi', hn⟩
  · rw [hnone, hnone']
  · have htimeless : ∀ issues : List Issue,
        issues.map Issue.id = (issues.map Issue.timeless).map Issue.id := by
      intro issues
      rw [List.map_map]
      rfl
    rw [hi, hi']
    dsimp only
    rw [htimeless, (h.examineBy hn c x).1, ← htimeless]

/-- A call for a database yields the same in both registries, and does the same. -/
theorem call (h : Alike dbPath r r') (hc : c.IsBlind) (f : Call) :
    f.answer c dbPath r = f.answer c dbPath r'
      ∧ Alike dbPath (f.run c dbPath r) (f.run c dbPath r') := by
  cases f with
  | install subscriber =>
    exact ⟨congrArg Answer.phase (h.install subscriber).phase_eq, h.install subscriber⟩
  | uninstall => exact ⟨congrArg Answer.flag h.uninstall.1, h.uninstall.2⟩
  | setWhitelist whitelist => exact ⟨rfl, h.setWhitelist whitelist⟩
  | enableChecker checker => exact ⟨rfl, h.enableChecker checker⟩
  | requestCheck => exact ⟨rfl, h.enqueue .check⟩
  | notify x => exact ⟨rfl, h.enqueue (.execution x)⟩
  | notifyNow x => exact ⟨congrArg Answer.ids (h.idsBy_eq c x), h.notifyNowBy hc x⟩
  | phase => exact ⟨congrArg Answer.phase h.phase_eq, h⟩
  | isInstalled => exact ⟨congrArg Answer.flag h.isInstalled_eq, h⟩
  | work k => exact ⟨rfl, h.atRank fun hn => h.workBy hn hc⟩
  | finish k => exact ⟨rfl, h.atRank fun hn => h.finish hn⟩

end Alike

/-- Doing something to an installation of a database touches that database only, and installs
nothing. -/
theorem touches_atRank {f : Nat → Registry → Registry} {k : Nat}
    (hf : ∀ {n}, r.path? n = some dbPath → Touches dbPath r (f n r) ∧ Wanes r (f n r)) :
    Touches dbPath r (r.atRank dbPath k f) ∧ Wanes r (r.atRank dbPath k f) := by
  unfold atRank
  split
  · next n hn => exact hf (path?_of_mem_numbersOf hn)
  · exact ⟨.refl dbPath r, .refl r⟩

/-- Apart from installing it anew, a call for a database only touches the database, and installs
none. -/
theorem touches_call (c : Conduct) (hr : r.WellFormed) (dbPath : String) (f : Call) :
    (∃ subscriber, f = .install subscriber ∧ r.current? dbPath = none)
      ∨ Touches dbPath r (f.run c dbPath r) ∧ Wanes r (f.run c dbPath r) := by
  cases f with
  | install subscriber =>
    cases hn : r.current? dbPath with
    | none => exact .inl ⟨subscriber, rfl, rfl⟩
    | some n => exact .inr ⟨touches_install hr subscriber hn, wanes_install subscriber hn⟩
  | uninstall => exact .inr ⟨touches_uninstall hr dbPath, wanes_uninstall r dbPath⟩
  | setWhitelist whitelist =>
    exact .inr ⟨touches_setWhitelist hr dbPath whitelist, wanes_setWhitelist r dbPath whitelist⟩
  | enableChecker checker =>
    exact .inr ⟨touches_enableChecker hr dbPath checker, wanes_enableChecker r dbPath checker⟩
  | requestCheck => exact .inr ⟨touches_enqueue hr dbPath .check, wanes_enqueue r dbPath .check⟩
  | notify x =>
    exact .inr ⟨touches_enqueue hr dbPath (.execution x), wanes_enqueue r dbPath (.execution x)⟩
  | notifyNow x => exact .inr ⟨touches_notifyNowBy c hr dbPath x, wanes_notifyNowBy c r dbPath x⟩
  | phase => exact .inr ⟨.refl dbPath r, .refl r⟩
  | isInstalled => exact .inr ⟨.refl dbPath r, .refl r⟩
  | work k => exact .inr (touches_atRank fun hn => ⟨touches_workBy c hr hn, wanes_workBy c r _⟩)
  | finish k => exact .inr (touches_atRank fun hn => ⟨touches_finish hn, wanes_finish r _⟩)

namespace Alike

/-- A call for another database in one of the registries does not matter. -/
theorem call_of_ne (h : Alike dbPath r r') (c : Conduct) (hne : other ≠ dbPath) (f : Call) :
    Alike dbPath (f.run c other r) r' := by
  rcases touches_call c h.left.wellFormed other f with ⟨subscriber, rfl, hn⟩ | ⟨htouches, hwanes⟩
  · exact ⟨consistent_install subscriber hn h.left, h.right,
      (share_install_of_ne subscriber hn h.left hne).trans h.share_eq⟩
  · exact h.of_touches_ne htouches hwanes hne

/-- A step that does not concern the database may be left out. -/
theorem act_of_not_concerns (h : Alike dbPath r r') (c : Conduct) {act : Act}
    (hact : act.concerns dbPath = false) : Alike dbPath (act.run c r) r' := by
  cases act with
  | call other f => exact h.call_of_ne c (by simpa [Act.concerns] using hact) f
  | tick time =>
    exact h.of_touches (.silent time r.notices) (.of_sameLives rfl (.of_eq rfl rfl))
      (.refl dbPath r')
      (.refl r') h.share_eq
  | requestChecks | drain | shutdown => cases hact

/-- A step that concerns the database yields the same in both registries, and does the same. -/
theorem act (h : Alike dbPath r r') (hc : c.IsBlind) {act : Act} (hact : act.concerns dbPath = true)
    (hends : act = .shutdown → r.EndsAlone dbPath) (honly : r'.HasOnly dbPath) :
    act.answer c r = act.answer c r' ∧ Alike dbPath (act.run c r) (act.run c r') := by
  cases act with
  | call other f =>
    obtain rfl : other = dbPath := by simpa [Act.concerns] using hact
    exact h.call hc f
  | requestChecks => exact ⟨rfl, h.requestChecks⟩
  | drain => exact ⟨rfl, h.drainBy hc⟩
  | shutdown => exact ⟨rfl, h.shutdownBy hc (hends rfl) honly⟩
  | tick time => cases hact

end Alike

/-- Steps that concern a database install no other one. -/
theorem HasOnly.act (h : HasOnly dbPath r) (hr : r.WellFormed) (c : Conduct) {act : Act}
    (hact : act.concerns dbPath = true) : HasOnly dbPath (act.run c r) := by
  cases act with
  | call other f =>
    obtain rfl : other = dbPath := by simpa [Act.concerns] using hact
    rcases touches_call c hr other f with ⟨subscriber, rfl, hn⟩ | ⟨-, hwanes⟩
    · intro m d hm
      rw [Act.run, Call.run, life?_install subscriber hn] at hm
      split at hm
      · cases hm
        rfl
      · exact h m d hm
    · exact h.wanes hwanes
  | requestChecks => exact h.wanes (wanes_requestChecks r)
  | drain => exact h.wanes (wanes_drainBy c hr)
  | shutdown => exact h.wanes (wanes_shutdownBy c hr)
  | tick time => cases hact

/-! ### Runs -/

/-- The steps that do not concern a database may be left out of a run. -/
theorem Alike.acts (h : Alike dbPath r r') (hc : c.IsBlind) (honly : r'.HasOnly dbPath)
    {acts : List Act}
    (hends : ∀ before behind, acts = before ++ .shutdown :: behind →
      (r.after c before).EndsAlone dbPath) :
    let own := acts.filter (Act.concerns dbPath)
    answers c dbPath acts r = answers c dbPath own r'
      ∧ Alike dbPath (r.after c acts) (r'.after c own) := by
  induction acts generalizing r r' with
  | nil => exact ⟨rfl, h⟩
  | cons act rest ih =>
    have hrest : ∀ before behind, rest = before ++ .shutdown :: behind →
        ((act.run c r).after c before).EndsAlone dbPath :=
      fun before behind heq => hends (act :: before) behind (by rw [heq]; rfl)
    cases hact : act.concerns dbPath with
    | false =>
      have hskipped := ih (h.act_of_not_concerns c hact) honly hrest
      rw [List.filter_cons_of_neg (by simp [hact]), answers, if_neg (by simp [hact])]
      exact hskipped
    | true =>
      obtain ⟨hanswer, hdone⟩ := h.act hc hact (fun heq => hends [] rest (by rw [heq]; rfl)) honly
      obtain ⟨hanswers, hafter⟩ := ih hdone (honly.act h.right.wellFormed c hact) hrest
      rw [List.filter_cons_of_pos hact]
      dsimp only
      rw [answers, if_pos hact, answers, if_pos hact, hanswer, hanswers]
      exact ⟨rfl, hafter⟩

/-- Two new registries are alike, whenever they begin. -/
theorem Alike.new (engine : Engine) (time time' : Nat) (dbPath : String) :
    Alike dbPath (.new engine time) (.new engine time') :=
  ⟨.new engine time, .new engine time', rfl⟩

/-- Databases are isolated. Leave out all steps of a run that name another database, and set the
clock as you like. All steps about the database still yield the same: whether it is installed, where
it stands, whether it began to be uninstalled, and which issues were delivered. And the same batches
are delivered from it in the same order, apart from the times. Subscribers may uninstall their own
databases.

A shutdown waits only for installations that it ends itself. So if the database is not installed at
a shutdown and an installation of it is still being uninstalled, no other database may be
installed. -/
theorem databases_isolated (engine : Engine) (time time' : Nat) (hc : c.IsBlind) (dbPath : String)
    (acts : List Act)
    (hends : ∀ before behind, acts = before ++ .shutdown :: behind →
      ((new engine time).after c before).EndsAlone dbPath) :
    let own := acts.filter (Act.concerns dbPath)
    answers c dbPath acts (new engine time) = answers c dbPath own (new engine time')
      ∧ ((new engine time).after c acts).batches dbPath
        = ((new engine time').after c own).batches dbPath := by
  have honly : (new engine time').HasOnly dbPath := by
    intro m d hm
    simp [new, life?] at hm
  obtain ⟨hanswers, halike⟩ := (Alike.new engine time time' dbPath).acts hc honly hends
  refine ⟨hanswers, ?_⟩
  rw [batches_eq, halike.share_eq, ← batches_eq]

/-- Two databases have the same statement queued when all are shut down, and one of them is notified
of it again later. -/
theorem databases_isolated_of_two :
    let x : Execution := ⟨"SELECT a FROM t WHERE a LIKE 'x'", 1, ""⟩
    let acts : List Act :=
      [.call "b.db" (.install ⟨"B", false⟩), .call "a.db" (.install ⟨"A", false⟩),
        .call "b.db" (.notify x), .call "a.db" (.notify x), .shutdown,
        .call "a.db" (.install ⟨"A", true⟩), .call "b.db" .phase, .call "a.db" (.notifyNow x),
        .call "a.db" .phase]
    let all := (new (.ofConfig .default) 0).after .plain acts
    (all.batches "a.db").map (fun d => (d.subscriber.name, d.issues.map Issue.type))
        = [("A", ["fuzzy_match"])]
      ∧ (answers .plain "a.db" acts (new (.ofConfig .default) 0)).getLast?
        = some (.phase .uninstalling) := by
  intro x acts all
  have hends : ∀ before behind, acts = before ++ .shutdown :: behind →
      ((new (.ofConfig .default) 0).after .plain before).EndsAlone "a.db" := by
    intro before behind heq
    rcases before with _ | ⟨_, _ | ⟨_, _ | ⟨_, _ | ⟨_, _ | ⟨_, before⟩⟩⟩⟩⟩
    all_goals simp [acts] at heq
    · obtain ⟨rfl, rfl, rfl, rfl, -⟩ := heq
      exact .inl (by decide +kernel)
    · obtain ⟨-, -, -, -, -, heq⟩ := heq
      have hmem : Act.shutdown ∈ before ++ .shutdown :: behind := by simp
      simp [← heq] at hmem
  obtain ⟨hanswers, hbatches⟩ := databases_isolated (.ofConfig .default) 0 1 Conduct.isBlind_plain
    "a.db" acts hends
  rw [hanswers, hbatches]
  decide +kernel

/-- Whether a shutdown ends an installation that was being uninstalled before depends on another
database. -/
theorem shutdown_ends_by_others :
    let acts : List Act :=
      [.call "a.db" (.install ⟨"A", false⟩), .call "a.db" .uninstall,
        .call "b.db" (.install ⟨"B", false⟩), .shutdown, .call "a.db" .phase]
    let own := acts.filter (Act.concerns "a.db")
    answers .plain "a.db" acts (new (.ofConfig .default) 0)
        = [.phase .installed, .flag true, .nothing, .phase .uninstalled]
      ∧ answers .plain "a.db" own (new (.ofConfig .default) 0)
        = [.phase .installed, .flag true, .nothing, .phase .uninstalling] := by
  decide +kernel

end Registry

end QueryLint
