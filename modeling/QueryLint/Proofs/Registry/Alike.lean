import QueryLint.Proofs.Registry.Neighbours

/-!
# Registries with the same share of a database

Two registries may hold the same of one database and differ in all others (`Alike`). The
installations of the database then have different numbers in them, but the same ranks (`Paired`).
Whatever is called for the database, and whatever goes on in the background of one of its
installations, does the same in both: there is one lemma for each operation.

A subscriber may react to what was delivered before. It must not tell how the installations of other
databases are numbered (`Conduct.IsBlind`).
-/

namespace QueryLint

/-- A conduct that cannot tell how the installations of other databases are numbered. -/
def Conduct.IsBlind (c : Conduct) : Prop :=
  ∀ deliveries deliveries' : List Delivery,
    deliveries.map Delivery.numberless = deliveries'.map Delivery.numberless →
      c.uninstalls deliveries = c.uninstalls deliveries'

/-- Plain conduct looks at the last delivery only, and not at its number. -/
theorem Conduct.isBlind_plain : Conduct.plain.IsBlind := by
  intro deliveries deliveries' h
  have hlast : deliveries.getLast?.map Delivery.numberless
      = deliveries'.getLast?.map Delivery.numberless := by
    rw [← List.getLast?_map, h, List.getLast?_map]
  have huninstalls : ∀ d : Option Delivery, d.any (fun d => d.subscriber.uninstalls)
      = (d.map Delivery.numberless).any fun d => d.subscriber.uninstalls := by
    intro d
    cases d <;> rfl
  dsimp only [plain]
  rw [huninstalls, hlast, ← huninstalls]

namespace Registry

/-! ### Registries with the same share of a database -/

/-- Two consistent registries with the same share of a database. -/
structure Alike (dbPath : String) (r r' : Registry) : Prop where
  left : r.Consistent
  right : r'.Consistent
  share_eq : r.share dbPath = r'.share dbPath

/-- Numbers that the same installation of a database has in two registries. -/
structure Paired (dbPath : String) (r r' : Registry) (n n' : Nat) : Prop where
  left : r.path? n = some dbPath
  right : r'.path? n' = some dbPath
  rank_eq : r.rank dbPath n = r'.rank dbPath n'

variable {c : Conduct} {r r' s s' : Registry} {dbPath other : String} {n n' m m' : Nat}
  {i : Installation}

/-- What touches another database keeps two installations paired. -/
theorem Paired.touched (h : Paired dbPath r r' n n') (ht : Touches other r s)
    (ht' : Touches other r' s') : Paired dbPath s s' n n' where
  left := (ht.path?_eq n).trans h.left
  right := (ht'.path?_eq n').trans h.right
  rank_eq := by rw [rank_congr ht.path?_eq, h.rank_eq, rank_congr ht'.path?_eq]

/-- Different installations have different numbers in both registries. -/
theorem Paired.eq_iff (h : Paired dbPath r r' n n') (hm : Paired dbPath r r' m m') :
    m = n ↔ m' = n' := by
  constructor
  · rintro rfl
    exact rank_inj hm.right h.right (hm.rank_eq.symm.trans h.rank_eq)
  · rintro rfl
    exact rank_inj hm.left h.left (hm.rank_eq.trans h.rank_eq.symm)

namespace Alike

/-- Alike registries have the same engine. -/
theorem engine_eq (h : Alike dbPath r r') : r.engine = r'.engine := congrArg Share.engine h.share_eq

/-- Being alike is symmetric. -/
theorem symm (h : Alike dbPath r r') : Alike dbPath r' r := ⟨h.right, h.left, h.share_eq.symm⟩

/-- What concerns another database in one of the registries does not matter. -/
theorem of_touches_ne (h : Alike dbPath r r') (ht : Touches other r s) (hw : Wanes r s)
    (hne : other ≠ dbPath) : Alike dbPath s r' where
  left := ht.consistent h.left (hw.wellFormed h.left.wellFormed)
  right := h.right
  share_eq := (ht.share_eq hne).trans h.share_eq

/-- The database itself may change in both registries. -/
theorem of_touches (h : Alike dbPath r r') (ht : Touches dbPath r s) (hw : Wanes r s)
    (ht' : Touches dbPath r' s') (hw' : Wanes r' s') (hs : s.share dbPath = s'.share dbPath) :
    Alike dbPath s s' where
  left := ht.consistent h.left (hw.wellFormed h.left.wellFormed)
  right := ht'.consistent h.right (hw'.wellFormed h.right.wellFormed)
  share_eq := hs

/-- Paired installations of alike registries are the same. -/
theorem exists_installation (h : Alike dbPath r r') (hn : Paired dbPath r r' n n') :
    ∃ i, r.installations[n]? = some i ∧ r'.installations[n']? = some i ∧ i.dbPath = dbPath := by
  obtain ⟨i, hi, hpath⟩ := path?_eq_some_iff.mp hn.left
  obtain ⟨i', hi', hpath'⟩ := path?_eq_some_iff.mp hn.right
  have hshare := getElem?_share hi hpath
  rw [h.share_eq, hn.rank_eq, getElem?_share hi' hpath'] at hshare
  exact ⟨i, hi, hi'.trans hshare, hpath⟩

/-- The map of databases names the same installation in both registries. -/
theorem find?_cases (h : Alike dbPath r r') :
    (r.databases.find? dbPath = none ∧ r'.databases.find? dbPath = none)
      ∨ ∃ n n', r.databases.find? dbPath = some n ∧ r'.databases.find? dbPath = some n'
        ∧ Paired dbPath r r' n n' := by
  have hfirst : ∀ r : Registry,
      (r.databases.find? dbPath).map (r.rank dbPath) = (r.share dbPath).entries.head? := by
    intro r
    rw [OrderedMap.find?_eq_head?, share, List.head?_map, Option.map_map]
    rfl
  have hsame := hfirst r
  rw [h.share_eq, ← hfirst r'] at hsame
  cases hn : r.databases.find? dbPath with
  | none =>
    rw [hn, Option.map_none] at hsame
    exact .inl ⟨rfl, Option.map_eq_none_iff.mp hsame.symm⟩
  | some n =>
    rw [hn, Option.map_some] at hsame
    obtain ⟨n', hn', hrank⟩ := Option.map_eq_some_iff.mp hsame.symm
    obtain ⟨p, hlife, -⟩ := h.left.wellFormed.entry hn
    obtain ⟨p', hlife', -⟩ := h.right.wellFormed.entry hn'
    exact .inr ⟨n, n', rfl, hn', path?_of_life? hlife, path?_of_life? hlife', hrank.symm⟩

/-- The database is installed in both registries, or in none. -/
theorem installed?_cases (h : Alike dbPath r r') :
    (r.installed? dbPath = none ∧ r'.installed? dbPath = none)
      ∨ ∃ n n' i, r.installed? dbPath = some (n, i) ∧ r'.installed? dbPath = some (n', i)
        ∧ Paired dbPath r r' n n' := by
  rcases h.find?_cases with ⟨hnone, hnone'⟩ | ⟨n, n', hn, hn', hpair⟩
  · left
    simp [installed?, find?, hnone, hnone']
  · obtain ⟨i, hi, hi', -⟩ := h.exists_installation hpair
    by_cases hphase : i.phase = .installed
    · exact .inr ⟨n, n', i, installed?_eq_some_iff.mpr ⟨hn, hi, hphase⟩,
        installed?_eq_some_iff.mpr ⟨hn', hi', hphase⟩, hpair⟩
    · left
      simp [installed?, find?, hn, hn', hi, hi', hphase]

/-- A database is installed in both of two alike registries, or in none. -/
theorem isInstalled_eq (h : Alike dbPath r r') : r.isInstalled dbPath = r'.isInstalled dbPath := by
  rcases h.installed?_cases with ⟨hnone, hnone'⟩ | ⟨n, n', i, hi, hi', -⟩
  · rw [isInstalled, isInstalled, hnone, hnone']
  · rw [isInstalled, isInstalled, hi, hi']
    rfl

/-- A database is in the same phase in two alike registries. -/
theorem phase_eq (h : Alike dbPath r r') : r.phase dbPath = r'.phase dbPath := by
  rcases h.find?_cases with ⟨hnone, hnone'⟩ | ⟨n, n', hn, hn', hpair⟩
  · simp [phase, find?, hnone, hnone']
  · obtain ⟨i, hi, hi', -⟩ := h.exists_installation hpair
    simp [phase, find?, hn, hn', hi, hi']

/-- The same update of paired installations gives the same share. -/
theorem share_update_eq (h : Alike dbPath r r') (hn : Paired dbPath r r' n n')
    {f : Installation → Installation} (hf : ∀ i, (f i).dbPath = i.dbPath) :
    (r.update n f).share dbPath = (r'.update n' f).share dbPath := by
  rw [share_update (fun i _ => hf i) hn.left, share_update (fun i _ => hf i) hn.right, h.share_eq,
    hn.rank_eq]

/-- What was delivered from an installation is the same in both registries. -/
theorem deliveredFrom_eq (h : Alike dbPath r r') (hn : Paired dbPath r r' n n') :
    (r.deliveredFrom n).map Delivery.numberless
      = (r'.deliveredFrom n').map Delivery.numberless := by
  rw [map_numberless_deliveredFrom h.left hn.left, map_numberless_deliveredFrom h.right hn.right,
    h.share_eq, hn.rank_eq]

/-! ### Work on the same installation -/

/-- The same item is taken from the queues of paired installations. -/
theorem take (h : Alike dbPath r r') (hn : Paired dbPath r r' n n') :
    (r.take n).1 = (r'.take n').1 ∧ Alike dbPath (r.take n).2 (r'.take n').2 := by
  obtain ⟨i, hi, hi', -⟩ := h.exists_installation hn
  have hsame : (r.take n).1 = (r'.take n').1
      ∧ (r.take n).2.share dbPath = (r'.take n').2.share dbPath := by
    unfold Registry.take
    rw [hi, hi']
    dsimp only
    cases i.queue with
    | nil => exact ⟨rfl, h.share_eq⟩
    | cons item rest => exact ⟨rfl, h.share_update_eq hn fun _ => rfl⟩
  exact ⟨hsame.1, h.of_touches (touches_take hn.left) (wanes_take r n) (touches_take hn.right)
    (wanes_take r' n') hsame.2⟩

/-- A check of paired installations keeps the registries alike. -/
theorem runCheck (h : Alike dbPath r r') (hn : Paired dbPath r r' n n') :
    Alike dbPath (r.runCheck n) (r'.runCheck n') := by
  obtain ⟨i, hi, hi', -⟩ := h.exists_installation hn
  refine h.of_touches (touches_runCheck hn.left) (wanes_runCheck r n) (touches_runCheck hn.right)
    (wanes_runCheck r' n') ?_
  unfold Registry.runCheck
  rw [hi, hi']
  dsimp only
  split
  · exact h.share_eq
  · exact h.share_update_eq hn (f := fun i => { i with checked := true }) fun _ => rfl

/-- The same issues are found, apart from the times. -/
theorem examineBy (h : Alike dbPath r r') (hn : Paired dbPath r r' n n') (c : Conduct)
    (x : Execution) :
    (r.examineBy c.forget n x).1.map Issue.timeless
      = (r'.examineBy c.forget n' x).1.map Issue.timeless
      ∧ Alike dbPath (r.examineBy c.forget n x).2 (r'.examineBy c.forget n' x).2 := by
  obtain ⟨i, hi, hi', -⟩ := h.exists_installation hn
  have hsame : (r.examineBy c.forget n x).1.map Issue.timeless
        = (r'.examineBy c.forget n' x).1.map Issue.timeless
      ∧ (r.examineBy c.forget n x).2.share dbPath
        = (r'.examineBy c.forget n' x).2.share dbPath := by
    have hv : r.course? n = some ⟨i, r.deliveredFrom n⟩ := course?_eq_some_iff.mpr ⟨hi, rfl⟩
    have hv' : r'.course? n' = some ⟨i, r'.deliveredFrom n'⟩ := course?_eq_some_iff.mpr ⟨hi', rfl⟩
    by_cases hadmits : (⟨i, []⟩ : Course).Admits r.engine x
    · obtain ⟨hphase, htime, hseen⟩ := hadmits
      have htime' : r'.engine.settings.minElapsedMs ≤ x.elapsedMs := by rwa [← h.engine_eq]
      rw [examineBy_of_admitted c.forget hi hphase htime hseen,
        examineBy_of_admitted c.forget hi' hphase htime' hseen]
      refine ⟨?_, h.share_update_eq hn fun _ => rfl⟩
      rw [map_timeless_issues, map_timeless_issues, h.engine_eq]
    · have hadmits' : ¬(⟨i, []⟩ : Course).Admits r'.engine x := by rwa [← h.engine_eq]
      rw [examineBy_of_not_admits c.forget hv hadmits,
        examineBy_of_not_admits c.forget hv' hadmits']
      exact ⟨rfl, h.share_eq⟩
  exact ⟨hsame.1, h.of_touches (touches_examineBy c hn.left x) (wanes_examineBy c r n x)
    (touches_examineBy c hn.right x) (wanes_examineBy c r' n' x) hsame.2⟩

/-- The same issues are delivered, apart from the times. -/
theorem deliver (h : Alike dbPath r r') (hn : Paired dbPath r r' n n') (subscriber : Subscriber)
    {issues issues' : List Issue}
    (hissues : issues.map Issue.timeless = issues'.map Issue.timeless) :
    Alike dbPath { r with deliveries := r.deliveries ++ [⟨n, subscriber, dbPath, issues⟩] }
      { r' with deliveries := r'.deliveries ++ [⟨n', subscriber, dbPath, issues'⟩] } := by
  refine h.of_touches (.deliver hn.left subscriber issues) (.of_sameLives rfl (.of_eq rfl rfl))
    (.deliver hn.right subscriber issues') (.of_sameLives rfl (.of_eq rfl rfl)) ?_
  rw [share_deliver, share_deliver, h.share_eq, hn.rank_eq, hissues]

/-- The same issues are published, apart from the times, and the subscriber reacts in the same
way. -/
theorem publishBy (h : Alike dbPath r r') (hn : Paired dbPath r r' n n') (hc : c.IsBlind)
    {issues issues' : List Issue}
    (hissues : issues.map Issue.timeless = issues'.map Issue.timeless) :
    Alike dbPath (r.publishBy (r.reactionBy c n issues) n issues).2
      (r'.publishBy (r'.reactionBy c n' issues') n' issues').2 := by
  obtain ⟨i, hi, hi', rfl⟩ := h.exists_installation hn
  refine h.of_touches (touches_publishBy c h.left.wellFormed hn.left issues)
    (wanes_publishBy _ r n _)
    (touches_publishBy c h.right.wellFormed hn.right issues') (wanes_publishBy _ r' n' _) ?_
  by_cases hphase : i.phase = .installed
  · have hdelivered := h.deliver hn i.subscriber hissues
    have hreacts : c.uninstalls
          (r.deliveredFrom n ++ [(⟨n, i.subscriber, i.dbPath, issues⟩ : Delivery).timeless])
        = c.uninstalls
          (r'.deliveredFrom n'
            ++ [(⟨n', i.subscriber, i.dbPath, issues'⟩ : Delivery).timeless]) := by
      apply hc
      rw [List.map_append, h.deliveredFrom_eq hn, List.map_append]
      simp [Delivery.timeless, Delivery.numberless, hissues]
    rw [publishBy_reactionBy c h.left.wellFormed issues hi hphase,
      publishBy_reactionBy c h.right.wellFormed issues' hi' hphase]
    dsimp only
    rw [hreacts]
    split
    · exact hdelivered.share_update_eq ⟨hn.left, hn.right, hn.rank_eq⟩ fun _ => rfl
    · exact hdelivered.share_eq
  · rw [publishBy_of_not_installed _ issues (by rw [hi]; simpa using hphase),
      publishBy_of_not_installed _ issues' (by rw [hi']; simpa using hphase)]
    exact h.share_eq

/-- An execution at paired installations keeps the registries alike. -/
theorem executeBy (h : Alike dbPath r r') (hn : Paired dbPath r r' n n') (hc : c.IsBlind)
    (x : Execution) : Alike dbPath (r.executeBy c n x) (r'.executeBy c n' x) := by
  obtain ⟨hissues, hexamined⟩ := h.examineBy hn c x
  have hpair := hn.touched (touches_examineBy c hn.left x) (touches_examineBy c hn.right x)
  have hempty : (r.examineBy c.forget n x).1.isEmpty = (r'.examineBy c.forget n' x).1.isEmpty := by
    rw [← List.isEmpty_map (f := Issue.timeless), hissues, List.isEmpty_map]
  unfold Registry.executeBy
  dsimp only
  rw [hempty]
  split
  · exact hexamined
  · exact hexamined.publishBy hpair hc hissues

/-- Taking an item from the queues of paired installations, and doing it, keeps the registries
alike. -/
theorem workBy (h : Alike dbPath r r') (hn : Paired dbPath r r' n n') (hc : c.IsBlind) :
    Alike dbPath (r.workBy c n) (r'.workBy c n') := by
  obtain ⟨hitem, htaken⟩ := h.take hn
  have hpair := hn.touched (touches_take hn.left) (touches_take hn.right)
  unfold Registry.workBy
  generalize r.take n = item at hitem htaken hpair
  generalize r'.take n' = item' at hitem htaken hpair
  obtain ⟨item, taken⟩ := item
  obtain ⟨item', taken'⟩ := item'
  obtain rfl : item = item' := hitem
  rcases item with _ | x | _
  · exact htaken
  · exact htaken.executeBy hpair hc x
  · exact htaken.runCheck hpair

/-- Ending paired installations keeps the registries alike. -/
theorem finish (h : Alike dbPath r r') (hn : Paired dbPath r r' n n') :
    Alike dbPath (r.finish n) (r'.finish n') := by
  obtain ⟨i, hi, hi', rfl⟩ := h.exists_installation hn
  refine h.of_touches (touches_finish hn.left) (wanes_finish r n) (touches_finish hn.right)
    (wanes_finish r' n') ?_
  have hended := h.share_update_eq hn (f := fun i => { i with phase := .uninstalled }) fun _ => rfl
  have hnamed : (r.databases.find? i.dbPath == some n)
      = (r'.databases.find? i.dbPath == some n') := by
    rcases h.find?_cases with ⟨hnone, hnone'⟩ | ⟨m, m', hm, hm', hpair⟩
    · rw [hnone, hnone']
      rfl
    · rw [hm, hm', Bool.eq_iff_iff]
      simpa using hn.eq_iff hpair
  unfold Registry.finish
  rw [hi, hi']
  dsimp only
  split
  · rw [hnamed]
    split
    · have herased := congrArg (fun s : Share => { s with entries := [] }) hended
      rw [← share_erase, ← share_erase] at herased
      exact herased
    · exact hended
  · exact h.share_eq

/-- So does doing any number of items. -/
theorem repeat_workBy (h : Alike dbPath r r') (hn : Paired dbPath r r' n n') (hc : c.IsBlind)
    (k : Nat) :
    Alike dbPath (Nat.repeat (Registry.workBy c n) k r)
      (Nat.repeat (Registry.workBy c n') k r') := by
  induction k with
  | zero => exact h
  | succ k ih =>
    have hworked := touches_repeat_workBy c h.left.wellFormed hn.left k
    have hworked' := touches_repeat_workBy c h.right.wellFormed hn.right k
    exact ih.workBy (hn.touched hworked hworked') hc

/-- So does doing all of them, and ending the installations. -/
theorem settleBy (h : Alike dbPath r r') (hn : Paired dbPath r r' n n') (hc : c.IsBlind) :
    Alike dbPath (r.settleBy c n) (r'.settleBy c n') := by
  obtain ⟨i, hi, hi', -⟩ := h.exists_installation hn
  have hqueued : r.queued n = r'.queued n' := by rw [queued, queued, hi, hi']
  have hworked := touches_repeat_workBy c h.left.wellFormed hn.left (r'.queued n')
  have hworked' := touches_repeat_workBy c h.right.wellFormed hn.right (r'.queued n')
  rw [Registry.settleBy, Registry.settleBy, hqueued]
  exact (h.repeat_workBy hn hc _).finish (hn.touched hworked hworked')

/-! ### Calls on the database -/

/-- Uninstalling the database answers the same in alike registries, and keeps them alike. -/
theorem uninstall (h : Alike dbPath r r') :
    (r.uninstall dbPath).1 = (r'.uninstall dbPath).1
      ∧ Alike dbPath (r.uninstall dbPath).2 (r'.uninstall dbPath).2 := by
  have hsame : (r.uninstall dbPath).1 = (r'.uninstall dbPath).1
      ∧ (r.uninstall dbPath).2.share dbPath = (r'.uninstall dbPath).2.share dbPath := by
    unfold Registry.uninstall
    rcases h.installed?_cases with ⟨hnone, hnone'⟩ | ⟨n, n', i, hi, hi', hn⟩
    · rw [hnone, hnone']
      exact ⟨rfl, h.share_eq⟩
    · rw [hi, hi']
      exact ⟨rfl, h.share_update_eq hn fun _ => rfl⟩
  exact ⟨hsame.1,
    h.of_touches (touches_uninstall h.left.wellFormed dbPath) (wanes_uninstall r dbPath)
    (touches_uninstall h.right.wellFormed dbPath) (wanes_uninstall r' dbPath) hsame.2⟩

/-- Setting a whitelist of the database keeps the registries alike. -/
theorem setWhitelist (h : Alike dbPath r r') (whitelist : Whitelist) :
    Alike dbPath (r.setWhitelist dbPath whitelist) (r'.setWhitelist dbPath whitelist) := by
  refine h.of_touches (touches_setWhitelist h.left.wellFormed dbPath whitelist)
    (wanes_setWhitelist r dbPath whitelist)
      (touches_setWhitelist h.right.wellFormed dbPath whitelist)
    (wanes_setWhitelist r' dbPath whitelist) ?_
  unfold Registry.setWhitelist
  rcases h.installed?_cases with ⟨hnone, hnone'⟩ | ⟨n, n', i, hi, hi', hn⟩
  · rw [hnone, hnone']
    exact h.share_eq
  · rw [hi, hi']
    exact h.share_update_eq hn fun _ => rfl

/-- Enabling a checker of the database keeps the registries alike. -/
theorem enableChecker (h : Alike dbPath r r') (checker : String) :
    Alike dbPath (r.enableChecker dbPath checker) (r'.enableChecker dbPath checker) := by
  refine h.of_touches (touches_enableChecker h.left.wellFormed dbPath checker)
    (wanes_enableChecker r dbPath checker) (touches_enableChecker h.right.wellFormed dbPath checker)
    (wanes_enableChecker r' dbPath checker) ?_
  unfold Registry.enableChecker
  rcases h.installed?_cases with ⟨hnone, hnone'⟩ | ⟨n, n', i, hi, hi', hn⟩
  · rw [hnone, hnone']
    exact h.share_eq
  · rw [hi, hi', h.engine_eq]
    dsimp only
    split <;> exact h.share_update_eq hn fun _ => rfl

/-- Queueing work of the database keeps the registries alike. -/
theorem enqueue (h : Alike dbPath r r') (w : Work) :
    Alike dbPath (r.enqueue dbPath w) (r'.enqueue dbPath w) := by
  refine h.of_touches (touches_enqueue h.left.wellFormed dbPath w) (wanes_enqueue r dbPath w)
    (touches_enqueue h.right.wellFormed dbPath w) (wanes_enqueue r' dbPath w) ?_
  unfold Registry.enqueue
  rcases h.installed?_cases with ⟨hnone, hnone'⟩ | ⟨n, n', i, hi, hi', hn⟩
  · rw [hnone, hnone']
    exact h.share_eq
  · rw [hi, hi']
    exact h.share_update_eq hn fun _ => rfl

/-- A notification about the database keeps the registries alike. -/
theorem notifyNowBy (h : Alike dbPath r r') (hc : c.IsBlind) (x : Execution) :
    Alike dbPath (r.notifyNowBy c dbPath x) (r'.notifyNowBy c dbPath x) := by
  unfold Registry.notifyNowBy
  rcases h.installed?_cases with ⟨hnone, hnone'⟩ | ⟨n, n', i, hi, hi', hn⟩
  · rw [hnone, hnone']
    exact h
  · rw [hi, hi']
    exact h.executeBy hn hc x

/-- Installing the database keeps the registries alike. -/
theorem install (h : Alike dbPath r r') (subscriber : Subscriber) :
    Alike dbPath (r.install dbPath subscriber) (r'.install dbPath subscriber) := by
  rcases h.installed?_cases with ⟨hnone, hnone'⟩ | ⟨n, n', i, hi, hi', hn⟩
  · have hcurrent := current?_eq_none_iff.mpr hnone
    have hcurrent' := current?_eq_none_iff.mpr hnone'
    refine ⟨consistent_install subscriber hcurrent h.left,
      consistent_install subscriber hcurrent' h.right, ?_⟩
    rw [share_install_self subscriber hcurrent h.left,
      share_install_self subscriber hcurrent' h.right, h.share_eq, h.engine_eq]
  · have hcurrent : r.current? dbPath = some n := by rw [current?, hi]; rfl
    have hcurrent' : r'.current? dbPath = some n' := by rw [current?, hi']; rfl
    refine h.of_touches (touches_install h.left.wellFormed subscriber hcurrent)
      (wanes_install subscriber hcurrent) (touches_install h.right.wellFormed subscriber hcurrent')
      (wanes_install subscriber hcurrent') ?_
    unfold Registry.install
    rw [hi, hi']
    exact h.share_update_eq hn fun _ => rfl

end Alike

end Registry

end QueryLint
