import QueryLint.Proofs.Registry.Operations

/-!
# The lives of databases

What the lives of the databases in a registry depend on is the map from databases to installations,
and of each installation its database and its phase (`Registry.life?`). Most operations change
neither (`SameLives`). A registry is well formed if its map names, for each database, an
installation of that database that is not over, and names every installation that is installed.
-/

namespace QueryLint

/-- The database of an installation, and where it stands. -/
def Installation.life (i : Installation) : String × Phase := (i.dbPath, i.phase)

namespace Registry

open Fingerprint (Seen)

variable {r r' r'' : Registry} {dbPath : String} {n m : Nat} {i : Installation}

/-! ### Lives -/

/-- The life of the installation of a number. -/
def life? (r : Registry) (n : Nat) : Option (String × Phase) :=
  r.installations[n]?.map Installation.life

/-- The life of an installation is its database and its phase. -/
theorem life?_eq_some_iff {p : Phase} :
    r.life? n = some (dbPath, p)
      ↔ ∃ i, r.installations[n]? = some i ∧ i.dbPath = dbPath ∧ i.phase = p := by
  simp [life?, Installation.life]

/-- An installation that exists has a life. -/
theorem life?_of_getElem? (h : r.installations[n]? = some i) :
    r.life? n = some (i.dbPath, i.phase) := by
  rw [life?, h]
  rfl

/-- Only numbers that were not given out have no life. -/
theorem life?_eq_none_iff : r.life? n = none ↔ r.installations.length ≤ n := by
  simp [life?]

/-- Only installations that exist have a life. -/
theorem lt_length_of_life? {l : String × Phase} (h : r.life? n = some l) :
    n < r.installations.length := by
  by_contra hn
  rw [life?_eq_none_iff.mpr (Nat.le_of_not_lt hn)] at h
  cases h

/-- The current installation of a database is the one of its entry, as long as that is installed. -/
theorem current?_eq_some_iff :
    r.current? dbPath = some n
      ↔ r.databases.find? dbPath = some n ∧ ∃ d, r.life? n = some (d, .installed) := by
  simp only [current?, Option.map_eq_some_iff, Prod.exists, exists_and_right, exists_eq_right,
    installed?_eq_some_iff, life?_eq_some_iff]
  constructor
  · rintro ⟨i, hn, hi, hp⟩
    exact ⟨hn, i.dbPath, i, hi, rfl, hp⟩
  · rintro ⟨hn, _, i, hi, _, hp⟩
    exact ⟨i, hn, hi, hp⟩

/-- Two registries in which the lives of all databases are the same. -/
structure SameLives (r r' : Registry) : Prop where
  databases : r'.databases = r.databases
  life? : ∀ n, r'.life? n = r.life? n

namespace SameLives

/-- Nothing changes if nothing is done. -/
theorem refl (r : Registry) : SameLives r r := ⟨rfl, fun _ => rfl⟩

/-- Two changes of no life in a row change none. -/
theorem trans (h : SameLives r r') (h' : SameLives r' r'') : SameLives r r'' :=
  ⟨h'.databases.trans h.databases, fun n => (h'.life? n).trans (h.life? n)⟩

/-- What is not told by the installations and by the map of databases does not matter. -/
theorem of_eq (hi : r'.installations = r.installations) (hd : r'.databases = r.databases) :
    SameLives r r' := by
  refine ⟨hd, fun n => ?_⟩
  rw [Registry.life?, Registry.life?, hi]

/-- Changing an installation in anything but its database and its phase keeps all lives. -/
theorem of_modify {f : Installation → Installation}
    (hi : r'.installations = r.installations.modify n f) (hd : r'.databases = r.databases)
    (hf : ∀ i, (f i).life = i.life) : SameLives r r' := by
  refine ⟨hd, fun m => ?_⟩
  rw [Registry.life?, hi, List.getElem?_modify, Registry.life?]
  cases r.installations[m]? with
  | none => rfl
  | some i =>
    simp only [Option.map_eq_map, Option.map_some]
    split
    · rw [hf]
    · rfl

/-- If no life changes, no installation begins. -/
theorem length_eq (h : SameLives r r') : r'.installations.length = r.installations.length := by
  apply Nat.le_antisymm
  · exact life?_eq_none_iff.mp ((h.life? _).trans (life?_eq_none_iff.mpr (Nat.le_refl _)))
  · exact life?_eq_none_iff.mp ((h.life? _).symm.trans (life?_eq_none_iff.mpr (Nat.le_refl _)))

/-- If no life changes, the current installations stay. -/
theorem current?_eq (h : SameLives r r') (dbPath : String) :
    r'.current? dbPath = r.current? dbPath := by
  apply Option.ext
  intro n
  rw [current?_eq_some_iff, current?_eq_some_iff, h.databases, h.life?]

end SameLives

/-! ### Operations that keep all lives -/

/-- A notice changes no life. -/
theorem sameLives_tell (r : Registry) (notice : Notice) : SameLives r (r.tell notice) :=
  .of_eq rfl rfl

/-- Setting a whitelist changes no life. -/
theorem sameLives_setWhitelist (r : Registry) (dbPath : String) (whitelist : Whitelist) :
    SameLives r (r.setWhitelist dbPath whitelist) := by
  unfold setWhitelist
  split
  · exact .of_modify rfl rfl fun _ => rfl
  · exact .refl r

/-- Enabling a checker changes no life. -/
theorem sameLives_enableChecker (r : Registry) (dbPath checker : String) :
    SameLives r (r.enableChecker dbPath checker) := by
  unfold enableChecker
  split
  · dsimp only
    split <;> exact .of_modify rfl rfl fun _ => rfl
  · exact .refl r

/-- Queueing work changes no life. -/
theorem sameLives_enqueue (r : Registry) (dbPath : String) (w : Work) :
    SameLives r (r.enqueue dbPath w) := by
  unfold enqueue
  split
  · exact .of_modify rfl rfl fun _ => rfl
  · exact .refl r

/-- Requesting checks changes no life. -/
theorem sameLives_requestChecks (r : Registry) : SameLives r r.requestChecks := by
  unfold requestChecks
  generalize r.databases.keys = dbPaths
  induction dbPaths generalizing r with
  | nil => exact .refl r
  | cons dbPath rest ih => exact (sameLives_enqueue r dbPath .check).trans (ih _)

/-- Taking an item from a queue changes no life. -/
theorem sameLives_take (r : Registry) (n : Nat) : SameLives r (r.take n).2 := by
  unfold take
  split
  · exact .refl r
  · split
    · exact .refl r
    · exact .of_modify rfl rfl fun _ => rfl

/-- A check changes no life. -/
theorem sameLives_runCheck (r : Registry) (n : Nat) : SameLives r (r.runCheck n) := by
  unfold runCheck
  split
  · exact .refl r
  · split
    · exact .refl r
    · exact .of_modify rfl rfl fun _ => rfl

/-- Looking at an execution changes no life. -/
theorem sameLives_examineBy (forget : Seen.Forgetting) (r : Registry) (n : Nat) (x : Execution) :
    SameLives r (r.examineBy forget n x).2 := by
  unfold examineBy
  split
  · exact .refl r
  · split
    · exact .refl r
    · dsimp only
      split
      · exact .refl r
      · exact .of_modify rfl rfl fun _ => rfl

/-! ### Operations that change lives -/

/-- Installing an installed database changes no life. -/
theorem sameLives_install (subscriber : Subscriber) (h : r.current? dbPath = some n) :
    SameLives r (r.install dbPath subscriber) := by
  obtain ⟨⟨k, i⟩, hi, -⟩ := Option.map_eq_some_iff.mp h
  unfold install
  rw [hi]
  exact .of_modify rfl rfl fun _ => rfl

/-- Installing a database that is not installed begins one life, and changes no other. -/
theorem life?_install (subscriber : Subscriber) (h : r.current? dbPath = none) (m : Nat) :
    (r.install dbPath subscriber).life? m
      = if m = r.installations.length then some (dbPath, .installed) else r.life? m := by
  rw [life?, install_installations subscriber h, life?]
  split
  · next hm =>
    rw [hm, List.getElem?_concat_length]
    rfl
  · next hm =>
    rw [List.getElem?_append]
    split
    · rfl
    · next hlt =>
      rw [List.getElem?_eq_none (by simp; omega), List.getElem?_eq_none (by omega)]

/-- Uninstalling an installed database begins the end of its current installation, and changes no
other. -/
theorem life?_uninstall (h : r.current? dbPath = some n) (m : Nat) :
    (r.uninstall dbPath).2.life? m
      = if m = n then (r.life? m).map fun l => (l.1, .uninstalling) else r.life? m := by
  rw [uninstall_of_current?_eq_some h, life?, getElem?_update, life?]
  split
  · next hm =>
    rw [if_pos hm.symm, Option.map_map, Option.map_map]
    rfl
  · next hm => rw [if_neg (Ne.symm hm)]

/-- An installation that has no work left is over, and its database is forgotten unless it was
installed again. -/
theorem finish_of_isDone (h : r.installations[n]?.any Installation.isDone = true) :
    ∃ dbPath, r.life? n = some (dbPath, .uninstalling)
      ∧ (r.finish n).databases
        = (if r.databases.find? dbPath = some n then r.databases.erase dbPath else r.databases)
      ∧ ∀ m, (r.finish n).life? m
        = if m = n then some (dbPath, .uninstalled) else r.life? m := by
  obtain ⟨i, hi, hdone⟩ := (Option.any_eq_true _ _).mp h
  have hphase : i.phase = .uninstalling := by
    simp only [Installation.isDone, Bool.and_eq_true, beq_iff_eq] at hdone
    exact hdone.1
  refine ⟨i.dbPath, ?_, ?_, fun m => ?_⟩
  · rw [life?_of_getElem? hi, hphase]
  · unfold finish
    rw [hi]
    dsimp only
    rw [if_pos hdone]
    by_cases hcur : r.databases.find? i.dbPath = some n
    · simp [hcur]
    · simp [hcur]
  · have hinst : (r.finish n).installations
        = r.installations.modify n fun i => { i with phase := .uninstalled } := by
      unfold finish
      rw [hi]
      dsimp only
      rw [if_pos hdone, tell_installations]
      split <;> rfl
    rw [life?, hinst, List.getElem?_modify, life?]
    by_cases hm : m = n
    · subst hm
      rw [hi]
      simp [Installation.life]
    · rw [if_neg hm]
      simp [Ne.symm hm]

/-- The end of an installation takes no other from its database. -/
theorem finish_find? (hm : m ≠ n) (hi : r.find? dbPath = some (m, i)) :
    (r.finish n).find? dbPath = some (m, i) := by
  obtain ⟨hfind, hget⟩ := find?_eq_some_iff.mp hi
  refine find?_eq_some_iff.mpr ⟨?_, (finish_installations r hm).trans hget⟩
  cases hdone : r.installations[n]?.any Installation.isDone with
  | false => rwa [finish_of_not_isDone hdone]
  | true =>
    obtain ⟨d, -, hd, -⟩ := finish_of_isDone hdone
    rw [hd]
    split
    · next hfindn =>
      have hne : dbPath ≠ d := by
        rintro rfl
        rw [hfindn] at hfind
        exact hm (Option.some.inj hfind).symm
      rw [OrderedMap.find?_erase, if_neg (by simpa using hne)]
      exact hfind
    · exact hfind

/-! ### Well-formed registries -/

/-- The map of databases names installations of these databases that are not over, and names every
installation that is installed. -/
structure WellFormed (r : Registry) : Prop where
  entry : ∀ {dbPath n}, r.databases.find? dbPath = some n →
    ∃ p, r.life? n = some (dbPath, p) ∧ p ≠ .uninstalled
  latest : ∀ {dbPath n}, r.life? n = some (dbPath, .installed) →
    r.databases.find? dbPath = some n

/-- In a well-formed registry the current installation of a database is the one that is
installed. -/
theorem WellFormed.current?_eq_some_iff (hr : r.WellFormed) :
    r.current? dbPath = some n ↔ r.life? n = some (dbPath, .installed) := by
  rw [Registry.current?_eq_some_iff]
  constructor
  · rintro ⟨hfind, d, hlife⟩
    obtain ⟨p, hentry, -⟩ := hr.entry hfind
    rw [hlife] at hentry
    cases hentry
    exact hlife
  · intro hlife
    exact ⟨hr.latest hlife, dbPath, hlife⟩

namespace WellFormed

/-- Installing a database anew keeps a registry well formed. -/
theorem install (hr : r.WellFormed) (hn : r.current? dbPath = none)
    (hd : r'.databases = r.databases.insert dbPath r.installations.length)
    (hl : ∀ m, r'.life? m
      = if m = r.installations.length then some (dbPath, .installed) else r.life? m) :
    r'.WellFormed := by
  refine ⟨fun {d m} hfind => ?_, fun {d m} hlife => ?_⟩
  · rw [hd, OrderedMap.find?_insert] at hfind
    split at hfind
    · next heq =>
      cases hfind
      refine ⟨.installed, ?_, by decide⟩
      rw [hl, if_pos rfl, eq_of_beq heq]
    · obtain ⟨p, hp, hne⟩ := hr.entry hfind
      refine ⟨p, ?_, hne⟩
      rw [hl, if_neg (Nat.ne_of_lt (lt_length_of_life? hp))]
      exact hp
  · rw [hl] at hlife
    split at hlife
    · next hm =>
      cases hlife
      rw [hd, OrderedMap.find?_insert, hm, if_pos (beq_self_eq_true dbPath)]
    · have hne : d ≠ dbPath := by
        rintro rfl
        rw [hr.current?_eq_some_iff.mpr hlife] at hn
        cases hn
      rw [hd, OrderedMap.find?_insert, if_neg (by simpa using hne)]
      exact hr.latest hlife

/-- Beginning to end an installation keeps a registry well formed. -/
theorem uninstall (hr : r.WellFormed) (hd : r'.databases = r.databases)
    (hl : ∀ m, r'.life? m
      = if m = n then (r.life? m).map fun l => (l.1, .uninstalling) else r.life? m) :
    r'.WellFormed := by
  refine ⟨fun {d m} hfind => ?_, fun {d m} hlife => ?_⟩
  · rw [hd] at hfind
    obtain ⟨p, hp, hne⟩ := hr.entry hfind
    rw [hl, hp]
    split
    · exact ⟨.uninstalling, rfl, by decide⟩
    · exact ⟨p, rfl, hne⟩
  · rw [hl] at hlife
    split at hlife
    · simp at hlife
    · rw [hd]
      exact hr.latest hlife

/-- The end of an installation takes it out of the map of databases, and nothing else. -/
theorem find?_ended (hr : r.WellFormed) (hn : r.life? n = some (dbPath, .uninstalling))
    (hd : r'.databases
      = if r.databases.find? dbPath = some n then r.databases.erase dbPath else r.databases)
    (d : String) :
    r'.databases.find? d
      = if r.databases.find? d = some n then none else r.databases.find? d := by
  have heq : r.databases.find? d = some n → d = dbPath := by
    intro hfind
    obtain ⟨p, hp, -⟩ := hr.entry hfind
    rw [hn] at hp
    cases hp
    rfl
  rw [hd]
  by_cases hfind : r.databases.find? d = some n
  · obtain rfl := heq hfind
    rw [if_pos hfind, if_pos hfind, OrderedMap.find?_erase, if_pos (beq_self_eq_true d)]
  · rw [if_neg hfind]
    split
    · next hfindn =>
      have hne : d ≠ dbPath := by
        rintro rfl
        exact hfind hfindn
      rw [OrderedMap.find?_erase, if_neg (by simpa using hne)]
    · rfl

/-- The end of an installation keeps a registry well formed. -/
theorem ended (hr : r.WellFormed) (hn : r.life? n = some (dbPath, .uninstalling))
    (hd : r'.databases
      = if r.databases.find? dbPath = some n then r.databases.erase dbPath else r.databases)
    (hl : ∀ m, r'.life? m = if m = n then some (dbPath, .uninstalled) else r.life? m) :
    r'.WellFormed := by
  refine ⟨fun {d m} hfind => ?_, fun {d m} hlife => ?_⟩
  · rw [hr.find?_ended hn hd] at hfind
    split at hfind
    · cases hfind
    · next hne =>
      have hm : m ≠ n := by
        rintro rfl
        exact hne hfind
      rw [hl, if_neg hm]
      exact hr.entry hfind
  · rw [hl] at hlife
    split at hlife
    · simp at hlife
    · next hm =>
      have hfind := hr.latest hlife
      rw [hr.find?_ended hn hd, if_neg (by rw [hfind]; simpa using hm)]
      exact hfind

end WellFormed

/-- The phase of a database is that of the installation that the map names. -/
theorem phase_eq_iff {p : Phase} (hp : p ≠ .uninstalled) :
    r.phase dbPath = p
      ↔ ∃ n d, r.databases.find? dbPath = some n ∧ r.life? n = some (d, p) := by
  unfold phase
  constructor
  · intro h
    split at h
    · next n i hfind =>
      obtain ⟨hn, hi⟩ := find?_eq_some_iff.mp hfind
      exact ⟨n, i.dbPath, hn, by rw [life?_of_getElem? hi, h]⟩
    · exact absurd h.symm hp
  · rintro ⟨n, d, hn, hlife⟩
    obtain ⟨i, hi, -, hphase⟩ := life?_eq_some_iff.mp hlife
    rw [find?_eq_some_iff.mpr ⟨hn, hi⟩]
    exact hphase

/-- A database is installed exactly when it has a current installation. -/
theorem phase_eq_installed_iff :
    r.phase dbPath = .installed ↔ ∃ n, r.current? dbPath = some n := by
  rw [phase_eq_iff (by decide)]
  simp only [Registry.current?_eq_some_iff]
  constructor
  · rintro ⟨n, d, hn, hlife⟩
    exact ⟨n, hn, d, hlife⟩
  · rintro ⟨n, hn, d, hlife⟩
    exact ⟨n, d, hn, hlife⟩

/-- A call of `uninstall` begins to end an installation exactly if the database is installed. -/
theorem uninstall_eq_true_iff :
    (r.uninstall dbPath).1 = true ↔ r.phase dbPath = .installed := by
  rw [phase_eq_installed_iff]
  cases hn : r.current? dbPath with
  | none => simp [uninstall_of_current?_eq_none hn]
  | some n => simp [uninstall_of_current?_eq_some hn]

end Registry

end QueryLint
