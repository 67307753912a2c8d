import Mathlib.Data.List.Sort
import QueryLint.Proofs.Registry.Isolation

/-!
# What the map of databases adds

Nothing: which installation the map names for a database is told by the installations. It is the
last one of the database, as long as that is not over (`Charted`). So where a database stands can be
read from the installations alone (`Charted.phase_eq_iff`, `installed_congr`), and the operations on
databases are changes of the installations that are installed, whatever the order of the map is
(`installations_uninstallEach`, `installations_requestChecks`).
-/

namespace QueryLint.Registry

open Run

variable {r r' : Registry} {dbPath d : String} {n m : Nat} {p : Phase}

/-! ### The map is told by the installations -/

/-- No later installation than that of a number is one of a database. -/
def IsLast (r : Registry) (dbPath : String) (n : Nat) : Prop := ∀ m, n < m → r.path? m ≠ some dbPath

/-- The map of databases names for each database its last installation, unless that is over, and
names each database once. -/
structure Charted (r : Registry) : Prop where
  wellFormed : r.WellFormed
  nodup : r.databases.keys.Nodup
  isLast : ∀ {dbPath n}, r.databases.find? dbPath = some n → r.IsLast dbPath n
  named : ∀ {dbPath n p}, r.life? n = some (dbPath, p) → p ≠ .uninstalled → r.IsLast dbPath n →
    r.databases.find? dbPath = some n

/-- The path of an installation is told by its life. -/
theorem path?_eq_map_life? (r : Registry) (n : Nat) : r.path? n = (r.life? n).map Prod.fst := by
  rw [path?, life?, Option.map_map]
  rfl

/-- What changes no life changes no path. -/
theorem SameLives.path?_eq (hl : SameLives r r') (n : Nat) : r'.path? n = r.path? n := by
  rw [path?_eq_map_life?, hl.life?, path?_eq_map_life?]

/-- Whether an installation is the last one depends on the paths only. -/
theorem isLast_congr (h : ∀ m, r'.path? m = r.path? m) : r'.IsLast dbPath n ↔ r.IsLast dbPath n :=
  forall_congr' fun m => by rw [h]

namespace Charted

/-- The map of a new registry is charted: nothing is in it. -/
theorem new (engine : Engine) (time : Nat) : (Registry.new engine time).Charted where
  wellFormed := (Consistent.new engine time).wellFormed
  nodup := List.nodup_nil
  isLast := by simp [Registry.new, OrderedMap.empty, OrderedMap.find?]
  named := by simp [Registry.new, life?]

/-- A map stays charted if neither it nor the lives of the installations change. -/
theorem of_sameLives (hr : r.Charted) (hl : SameLives r r') : r'.Charted := by
  refine ⟨⟨fun hfind => ?_, fun hlife => ?_⟩, hl.databases ▸ hr.nodup, fun hfind => ?_,
    fun hlife hp hlast => ?_⟩
  · rw [hl.life?]
    exact hr.wellFormed.entry (hl.databases ▸ hfind)
  · rw [hl.databases]
    exact hr.wellFormed.latest (hl.life? _ ▸ hlife)
  · exact (isLast_congr hl.path?_eq).mpr (hr.isLast (hl.databases ▸ hfind))
  · rw [hl.databases]
    exact hr.named (hl.life? _ ▸ hlife) hp ((isLast_congr hl.path?_eq).mp hlast)

/-- A new installation of a database is the last one. -/
theorem install (hr : r.Charted) (hn : r.current? dbPath = none)
    (hd : r'.databases = r.databases.insert dbPath r.installations.length)
    (hl : ∀ m, r'.life? m = if m = r.installations.length then some (dbPath, .installed)
      else r.life? m) :
    r'.Charted where
  wellFormed := hr.wellFormed.install hn hd hl
  nodup := by
    have hkeys : r'.databases.keys = OrderedMap.addKey r.databases.keys dbPath := by
      rw [hd, OrderedMap.keys_insert]
      rfl
    rw [hkeys]
    exact OrderedMap.nodup_addKey hr.nodup dbPath
  isLast := by
    intro d n hfind m hlt hpath
    rw [hd, OrderedMap.find?_insert] at hfind
    rw [path?_eq_map_life?, hl] at hpath
    split at hfind
    · cases hfind
      rw [if_neg (Nat.ne_of_gt hlt), ← path?_eq_map_life?] at hpath
      exact Nat.lt_asymm hlt (lt_length_of_path? hpath)
    · next hne =>
      split at hpath
      · obtain rfl := Option.some.inj hpath
        exact hne (beq_self_eq_true dbPath)
      · rw [← path?_eq_map_life?] at hpath
        exact hr.isLast hfind m hlt hpath
  named := by
    intro d n p hlife hp hlast
    rw [hl] at hlife
    rw [hd, OrderedMap.find?_insert]
    split at hlife
    -- The new installation is the last one of its database, and the map names it.
    · next hm =>
      obtain ⟨rfl, rfl⟩ := Prod.mk.inj (Option.some.inj hlife)
      rw [if_pos (beq_self_eq_true dbPath), hm]
    -- An older one of the same database is not the last one any more.
    · have hlt := lt_length_of_life? hlife
      have hdb : d ≠ dbPath := by
        rintro rfl
        refine hlast r.installations.length hlt ?_
        rw [path?_eq_map_life?, hl, if_pos rfl]
        rfl
      rw [if_neg (by simpa using hdb)]
      refine hr.named hlife hp fun m hm hpath => hlast m hm ?_
      rw [path?_eq_map_life?, hl, if_neg (Nat.ne_of_lt (lt_length_of_path? hpath)),
        ← path?_eq_map_life?]
      exact hpath

/-- A map stays charted when a database is uninstalled: its entry stays until the end. -/
theorem uninstall (hr : r.Charted) (hn : r.current? dbPath = some n)
    (hd : r'.databases = r.databases)
    (hl : ∀ m, r'.life? m = if m = n then (r.life? m).map fun l => (l.1, .uninstalling)
      else r.life? m) : r'.Charted := by
  have hpath : ∀ m, r'.path? m = r.path? m := fun m => by
    rw [path?_eq_map_life?, hl, path?_eq_map_life?]
    split
    · rw [Option.map_map]
      rfl
    · rfl
  refine ⟨hr.wellFormed.uninstall hd hl, hd ▸ hr.nodup, fun hfind => ?_,
    fun {d m p} hlife hp hlast => ?_⟩
  · exact (isLast_congr hpath).mpr (hr.isLast (hd ▸ hfind))
  · rw [hd]
    have hbefore : ∃ q, r.life? m = some (d, q) ∧ q ≠ .uninstalled := by
      rw [hl] at hlife
      split at hlife
      · next hm =>
        rw [hm, hr.wellFormed.current?_eq_some_iff.mp hn] at hlife
        cases hlife
        exact ⟨.installed, hm ▸ hr.wellFormed.current?_eq_some_iff.mp hn, by decide⟩
      · exact ⟨p, hlife, hp⟩
    obtain ⟨q, hlife, hq⟩ := hbefore
    exact hr.named hlife hq ((isLast_congr hpath).mp hlast)

/-- A map stays charted when an installation ends: its entry goes, unless a later one has taken it
over. -/
theorem ended (hr : r.Charted) (hn : r.life? n = some (dbPath, .uninstalling))
    (hd : r'.databases
      = if r.databases.find? dbPath = some n then r.databases.erase dbPath else r.databases)
    (hl : ∀ m, r'.life? m = if m = n then some (dbPath, .uninstalled) else r.life? m) :
    r'.Charted := by
  have hpath : ∀ m, r'.path? m = r.path? m := fun m => by
    rw [path?_eq_map_life?, hl, path?_eq_map_life?]
    split
    · next hm =>
      rw [hm, hn]
      rfl
    · rfl
  have hfind := hr.wellFormed.find?_ended hn hd
  refine ⟨hr.wellFormed.ended hn hd hl, ?_, fun {d m} hm => ?_, fun {d m p} hlife hp hlast => ?_⟩
  · rw [hd]
    split
    · exact hr.nodup.sublist (List.filter_sublist.map Prod.fst)
    · exact hr.nodup
  · rw [hfind] at hm
    split at hm
    · cases hm
    · exact (isLast_congr hpath).mpr (hr.isLast hm)
  · rw [hl] at hlife
    split at hlife
    · cases hlife
      exact absurd rfl hp
    · next hm =>
      have hnamed := hr.named hlife hp ((isLast_congr hpath).mp hlast)
      rw [hfind, hnamed, if_neg (by simpa using hm)]

/-- However lives change, the map is told by the installations. -/
theorem evolve {events : List Event} (hr : r.Charted) (he : Evolves r events r') : r'.Charted := by
  induction he with
  | keep hl => exact hr.of_sameLives hl
  | examine _ _ hl => exact hr.of_sameLives hl
  | reinstall _ hl => exact hr.of_sameLives hl
  | install hn hd hl => exact hr.install hn hd hl
  | ignore _ => exact hr
  | uninstall hn hd hl => exact hr.uninstall hn hd hl
  | ended hn hd hl => exact hr.ended hn hd hl
  | trans _ _ ih ih' => exact ih' (ih hr)

/-- By the cases of a step: every step keeps the map charted. -/
theorem step {s : Situation} (hs : s.registry.Charted) (st : Step) :
    (s.step st).registry.Charted := by
  obtain ⟨events, -, he⟩ := s.evolves_step st
  exact hs.evolve he

/-- By induction on the run: the map is charted after every run. -/
theorem run (engine : Engine) (time : Nat) (steps : List Step) :
    ((Situation.start engine time).run steps).registry.Charted := by
  induction steps using List.reverseRecOn with
  | nil => exact .new engine time
  | append_singleton steps last ih =>
    rw [Situation.run_concat]
    exact ih.step last

/-- A database that is not uninstalled stands where its last installation stands. -/
theorem phase_eq_iff (hr : r.Charted) (hp : p ≠ .uninstalled) :
    r.phase dbPath = p ↔ ∃ n, r.life? n = some (dbPath, p) ∧ r.IsLast dbPath n := by
  rw [Registry.phase_eq_iff hp]
  constructor
  · rintro ⟨n, d, hfind, hlife⟩
    obtain ⟨q, hentry, -⟩ := hr.wellFormed.entry hfind
    obtain ⟨rfl, -⟩ := Prod.mk.inj (Option.some.inj (hlife.symm.trans hentry))
    exact ⟨n, hlife, hr.isLast hfind⟩
  · rintro ⟨n, hlife, hlast⟩
    exact ⟨n, dbPath, hr.named hlife hp hlast, hlife⟩

/-- A database stands at the same place in two registries that agree on its installations, or on
those from one of them on. -/
theorem phase_congr (hr : r.Charted) (hr' : r'.Charted) (first : Nat)
    (hfirst : first = 0 ∨ r.path? first = some dbPath)
    (h : ∀ n, first ≤ n → ∀ p, r'.life? n = some (dbPath, p) ↔ r.life? n = some (dbPath, p)) :
    r'.phase dbPath = r.phase dbPath := by
  have hpath : ∀ n, first ≤ n → (r'.path? n = some dbPath ↔ r.path? n = some dbPath) := by
    intro n hn
    simp only [path?_eq_map_life?, Option.map_eq_some_iff, Prod.exists, exists_and_right,
      exists_eq_right]
    exact exists_congr fun p => h n hn p
  have hiff : ∀ p, p ≠ .uninstalled → (r'.phase dbPath = p ↔ r.phase dbPath = p) := by
    intro p hp
    rw [hr'.phase_eq_iff hp, hr.phase_eq_iff hp]
    refine exists_congr fun n => ?_
    by_cases hn : first ≤ n
    · refine and_congr (h n hn p) (forall_congr' fun m => forall_congr' fun hlt => not_congr ?_)
      exact hpath m (hn.trans (Nat.le_of_lt hlt))
    · -- An earlier installation is not the last one.
      have hlt := Nat.lt_of_not_le hn
      have hpath' : r.path? first = some dbPath :=
        hfirst.resolve_left fun hzero => Nat.not_lt_zero n (hzero ▸ hlt)
      exact iff_of_false (fun hlast => hlast.2 first hlt ((hpath first (Nat.le_refl _)).mpr hpath'))
        fun hlast => hlast.2 first hlt hpath'
  by_cases hp : r.phase dbPath = .uninstalled
  · rw [hp]
    by_contra hp'
    exact hp' (((hiff _ hp').mp rfl).symm.trans hp)
  · exact (hiff _ hp).mpr rfl

/-- The databases that are installed are told by the installations. -/
theorem mem_installed_iff (hr : r.Charted) : d ∈ r.installed
    ↔ ∃ n, r.life? n = some (d, .installed) := by
  rw [Registry.mem_installed_iff, ← isInstalled_iff hr.wellFormed, and_iff_right_iff_imp]
  intro h
  obtain ⟨n, hn⟩ := (isInstalled_iff hr.wellFormed).mp h
  exact OrderedMap.mem_keys_of_find? (hr.wellFormed.latest hn)

/-- No database is listed twice as installed. -/
theorem nodup_installed (hr : r.Charted) : r.installed.Nodup :=
  (List.mergeSort_perm _ _).nodup_iff.mpr (hr.nodup.filter _)

/-- Which databases are installed, and in which order, is told by the lives of the installations. -/
theorem installed_congr (hr : r.Charted) (hr' : r'.Charted)
    (h : ∀ d, (∃ n, r'.life? n = some (d, .installed)) ↔ ∃ n, r.life? n = some (d, .installed)) :
    r'.installed = r.installed := by
  have hperm : r'.installed.Perm r.installed := by
    refine (List.perm_ext_iff_of_nodup hr'.nodup_installed hr.nodup_installed).mpr fun d => ?_
    rw [hr'.mem_installed_iff, hr.mem_installed_iff, h]
  have hsorted : ∀ r : Registry, r.installed.Pairwise (· ≤ ·) := fun r => by
    refine (List.pairwise_mergeSort (fun a b c hab hbc => ?_) (fun a b => ?_) _).imp
      of_decide_eq_true
    · exact decide_eq_true (String.le_trans (of_decide_eq_true hab) (of_decide_eq_true hbc))
    · simpa using String.le_total a b
  exact hperm.eq_of_pairwise (fun a b _ _ => String.le_antisymm) (hsorted r') (hsorted r)

end Charted

/-! ### Changes of what is installed -/

/-- A change of an installation that is installed, if its database is one of some. -/
def changeIn (dbPaths : List String) (f : Installation → Installation) (i : Installation) :
    Installation :=
  if i.phase = .installed ∧ i.dbPath ∈ dbPaths then f i else i

/-- An operation that changes the current installation of a database changes all installations of
the database that are installed. -/
theorem map_changeIn_of_current? (hr : r.WellFormed) {f : Installation → Installation}
    (hnone : r.current? d = none → r'.installations = r.installations)
    (hsome : ∀ n, r.current? d = some n → r'.installations = r.installations.modify n f) :
    r'.installations = r.installations.map (changeIn [d] f) := by
  have hiff : ∀ {n i}, r.installations[n]? = some i →
      (i.phase = .installed ∧ i.dbPath ∈ [d] ↔ r.current? d = some n) := by
    intro n i hi
    rw [hr.current?_eq_some_iff, life?_of_getElem? hi, Option.some.injEq, Prod.mk.injEq,
      List.mem_singleton, and_comm]
  refine List.ext_getElem? fun m => ?_
  rw [List.getElem?_map]
  cases hm : r.installations[m]? with
  | none =>
    have hlength : r'.installations.length = r.installations.length := by
      cases hn : r.current? d with
      | none => rw [hnone hn]
      | some n => rw [hsome n hn, List.length_modify]
    rw [List.getElem?_eq_none_iff] at hm
    exact List.getElem?_eq_none (hlength ▸ hm)
  | some i =>
    rw [Option.map_some, changeIn, if_congr (hiff hm) rfl rfl]
    cases hn : r.current? d with
    | none => rw [hnone hn, hm, if_neg (by simp)]
    | some n =>
      rw [hsome n hn, List.getElem?_modify, hm]
      by_cases h : n = m <;> simp [h]

/-- Changing what is installed of some databases one after the other. -/
theorem installations_foldl {f : Installation → Installation} {op : Registry → String → Registry}
    (hop : ∀ r d, r.WellFormed →
      (op r d).WellFormed ∧ (op r d).installations = r.installations.map (changeIn [d] f))
    (hpath : ∀ i, (f i).dbPath = i.dbPath) (hr : r.WellFormed) (dbPaths : List String)
    (honce : dbPaths.Nodup ∨ ∀ i, (f i).phase ≠ .installed) :
    (dbPaths.foldl op r).installations = r.installations.map (changeIn dbPaths f) := by
  induction dbPaths generalizing r with
  | nil =>
    refine (List.map_id'' (fun i => ?_) _).symm
    simp [changeIn]
  | cons d rest ih =>
    obtain ⟨hwell, hfirst⟩ := hop r d hr
    rw [List.foldl_cons, ih hwell (honce.imp_left fun h => h.of_cons), hfirst, List.map_map]
    refine List.map_congr_left fun i _ => ?_
    simp only [Function.comp_apply, changeIn, List.mem_cons, List.not_mem_nil, or_false]
    by_cases hi : i.phase = .installed ∧ i.dbPath = d
    · -- What was changed first is not changed again.
      have hagain : ¬((f i).phase = .installed ∧ (f i).dbPath ∈ rest) := by
        rintro ⟨hinstalled, hmem⟩
        rcases honce with hnodup | hphase
        · rw [hpath, hi.2] at hmem
          exact (List.nodup_cons.mp hnodup).1 hmem
        · exact hphase i hinstalled
      rw [if_pos hi, if_neg hagain, if_pos ⟨hi.1, .inl hi.2⟩]
    · rw [if_neg hi]
      refine if_congr (and_congr_right fun hinstalled => ?_) rfl rfl
      simp [mt (And.intro hinstalled) hi]

/-- Uninstalling a database changes the phase of its current installation only. -/
theorem installations_uninstall (hr : r.WellFormed) (d : String) :
    (r.uninstall d).2.installations
      = r.installations.map (changeIn [d] fun i => { i with phase := .uninstalling }) := by
  refine map_changeIn_of_current? hr (fun hn => ?_) fun n hn => ?_
  · rw [uninstall_of_current?_eq_none hn]
  · rw [uninstall_of_current?_eq_some hn]
    rfl

/-- Uninstalling some databases changes the phases of their current installations only. -/
theorem installations_uninstallEach (hr : r.WellFormed) (dbPaths : List String) :
    (r.uninstallEach dbPaths).2.installations
      = r.installations.map (changeIn dbPaths fun i => { i with phase := .uninstalling }) := by
  rw [uninstallEach_snd]
  refine installations_foldl (f := fun i => { i with phase := .uninstalling }) (fun r d hr => ?_)
    (fun _ => rfl) hr dbPaths (.inr fun _ => by simp)
  exact ⟨(wanes_uninstall r d).wellFormed hr, installations_uninstall hr d⟩

/-- Queueing work for a database adds it to the queue of its current installation only. -/
theorem installations_enqueue (hr : r.WellFormed) (d : String) (w : Work) :
    (r.enqueue d w).installations
      = r.installations.map (changeIn [d] fun i => { i with queue := i.queue ++ [w] }) := by
  refine map_changeIn_of_current? hr (fun hn => ?_) fun n hn => ?_
  · rw [enqueue, current?_eq_none_iff.mp hn]
  · obtain ⟨⟨n, i⟩, hi, rfl⟩ := Option.map_eq_some_iff.mp hn
    rw [enqueue, hi]
    rfl

/-- Requesting checks adds one to the queue of every current installation. -/
theorem installations_requestChecks (hr : r.Charted) :
    r.requestChecks.installations
      = r.installations.map
        (changeIn r.databases.keys fun i => { i with queue := i.queue ++ [.check] }) := by
  refine installations_foldl (f := fun i => { i with queue := i.queue ++ [.check] })
    (fun r d hr => ?_)
    (fun _ => rfl) hr.wellFormed _ (.inl hr.nodup)
  exact ⟨(wanes_enqueue r d .check).wellFormed hr, installations_enqueue hr d .check⟩

/-- Setting a whitelist changes the policy of the database's current installation only. -/
theorem installations_setWhitelist (hr : r.WellFormed) (d : String) (whitelist : Whitelist) :
    (r.setWhitelist d whitelist).installations
      = r.installations.map
        (changeIn [d] fun i => { i with policy := i.policy.setWhitelist whitelist }) := by
  refine map_changeIn_of_current? hr (fun hn => ?_) fun n hn => ?_
  · rw [setWhitelist, current?_eq_none_iff.mp hn]
  · obtain ⟨⟨n, i⟩, hi, rfl⟩ := Option.map_eq_some_iff.mp hn
    rw [setWhitelist, hi]
    rfl

/-- Enabling a checker changes the policy of the database's current installation only. -/
theorem installations_enableChecker (hr : r.WellFormed) (d checker : String) :
    (r.enableChecker d checker).installations
      = r.installations.map
        (changeIn [d] fun i => { i with policy := (i.policy.enable checker).2 }) := by
  refine map_changeIn_of_current? hr (fun hn => ?_) fun n hn => ?_
  · rw [enableChecker, current?_eq_none_iff.mp hn]
  · obtain ⟨⟨n, i⟩, hi, rfl⟩ := Option.map_eq_some_iff.mp hn
    rw [enableChecker, hi]
    dsimp only
    split <;> rfl

/-- Installing an installed database changes the subscriber of its current installation only. -/
theorem installations_reinstall (hr : r.WellFormed) (hn : r.current? d = some n)
    (subscriber : Subscriber) :
    (r.install d subscriber).installations
      = r.installations.map (changeIn [d] fun i => { i with subscriber }) := by
  refine map_changeIn_of_current? hr (fun hnone => ?_) fun n hn => ?_
  · rw [hn] at hnone
    cases hnone
  · obtain ⟨⟨n, i⟩, hi, rfl⟩ := Option.map_eq_some_iff.mp hn
    rw [install, hi]
    rfl

end QueryLint.Registry
