import QueryLint.Proofs.Registry.Shares

/-!
# What is done for one database

Every operation on a database, and all that goes on in the background of its installations, changes
nothing but its own installations and its own entry in the map of databases (`Touches`). So a
consistent registry stays consistent, and the shares of all other databases stay as they are.
-/

namespace QueryLint.Registry

variable {c : Conduct} {r r' : Registry} {dbPath other : String} {n m : Nat} {i : Installation}

/-! ### No other operation installs a database -/

/-- Taking an item from a queue installs nothing. -/
theorem wanes_take (r : Registry) (n : Nat) : Wanes r (r.take n).2 :=
  .of_sameLives (take_engine r n) (sameLives_take r n)

/-- A check installs nothing. -/
theorem wanes_runCheck (r : Registry) (n : Nat) : Wanes r (r.runCheck n) :=
  .of_sameLives (runCheck_engine r n) (sameLives_runCheck r n)

/-- Setting a whitelist installs nothing. -/
theorem wanes_setWhitelist (r : Registry) (dbPath : String) (whitelist : Whitelist) :
    Wanes r (r.setWhitelist dbPath whitelist) := by
  refine .of_sameLives ?_ (sameLives_setWhitelist r dbPath whitelist)
  unfold setWhitelist
  split <;> rfl

/-- Enabling a checker installs nothing. -/
theorem wanes_enableChecker (r : Registry) (dbPath checker : String) :
    Wanes r (r.enableChecker dbPath checker) := by
  refine .of_sameLives ?_ (sameLives_enableChecker r dbPath checker)
  unfold enableChecker
  split
  · dsimp only
    split <;> rfl
  · rfl

/-- Queueing work installs nothing. -/
theorem wanes_enqueue (r : Registry) (dbPath : String) (w : Work) :
    Wanes r (r.enqueue dbPath w) := by
  refine .of_sameLives ?_ (sameLives_enqueue r dbPath w)
  unfold enqueue
  split <;> rfl

/-- Installing a database that is installed already. -/
theorem wanes_install (subscriber : Subscriber) (h : r.current? dbPath = some n) :
    Wanes r (r.install dbPath subscriber) := by
  refine .of_sameLives ?_ (sameLives_install subscriber h)
  obtain ⟨⟨k, i⟩, hi, -⟩ := Option.map_eq_some_iff.mp h
  unfold install
  rw [hi]
  rfl

/-! ### What goes on in the background -/

/-- A change of an installation in anything but its database, its phase and its queue. -/
theorem touches_update {f : Installation → Installation} (hn : r.path? n = some dbPath)
    (hf : ∀ i, (f i).life = i.life ∧ (f i).queue = i.queue) : Touches dbPath r (r.update n f) := by
  refine .update hn (fun i _ => congrArg Prod.fst (hf i).1) fun i _ htidy hphase => ?_
  have hsame : (f i).phase = i.phase := congrArg Prod.snd (hf i).1
  rw [(hf i).2]
  exact htidy (hsame.symm.trans hphase)

/-- The end of an installation begins. -/
theorem touches_uninstalling (hn : r.path? n = some dbPath) :
    Touches dbPath r (r.update n fun i => { i with phase := .uninstalling }) :=
  .update hn (fun _ _ => rfl) fun _ _ _ hphase => by cases hphase

/-- Taking an item from a queue concerns the database of that queue only. -/
theorem touches_take (hn : r.path? n = some dbPath) : Touches dbPath r (r.take n).2 := by
  unfold take
  split
  · exact .refl dbPath r
  · next i hi =>
    split
    · exact .refl dbPath r
    · next item rest hqueue =>
      refine .update hn (fun _ _ => rfl) fun j hj htidy hphase => ?_
      -- An installation with queued work is not over.
      rw [hi] at hj
      obtain rfl := Option.some.inj hj
      rw [htidy hphase] at hqueue
      cases hqueue

/-- A check concerns the database that it checks only. -/
theorem touches_runCheck (hn : r.path? n = some dbPath) : Touches dbPath r (r.runCheck n) := by
  unfold runCheck
  split
  · exact .refl dbPath r
  · split
    · exact .refl dbPath r
    · have hchecked : Touches dbPath r (r.update n fun i => { i with checked := true }) :=
        touches_update hn fun _ => ⟨rfl, rfl⟩
      exact hchecked.trans (.silent r.time _)

/-- Looking at an execution concerns its database only. -/
theorem touches_examineBy (c : Conduct) (hn : r.path? n = some dbPath) (x : Execution) :
    Touches dbPath r (r.examineBy c.forget n x).2 := by
  rcases examineBy_eq_or c.forget r n x with hnone | ⟨i, hi, hphase, htime, hseen⟩
  · rw [hnone]
    exact .refl dbPath r
  · rw [examineBy_of_admitted c.forget hi hphase htime hseen]
    have hremembered : Touches dbPath r (r.update n fun j =>
        { j with seen := (i.seen.insertBy c.forget (Fingerprint.ofSql x.sql)).2 }) :=
      touches_update hn fun _ => ⟨rfl, rfl⟩
    exact hremembered.trans (.silent r.time _)

/-- A delivery concerns its database only: all that a subscriber may uninstall is its own. -/
theorem touches_publishBy (c : Conduct) (hr : r.WellFormed) (hn : r.path? n = some dbPath)
    (issues : List Issue) :
    Touches dbPath r (r.publishBy (r.reactionBy c n issues) n issues).2 := by
  obtain ⟨i, hi, rfl⟩ := path?_eq_some_iff.mp hn
  by_cases hphase : i.phase = .installed
  · rw [publishBy_reactionBy c hr issues hi hphase]
    have hdelivered : Touches i.dbPath r { r with
        deliveries := r.deliveries ++ [⟨n, i.subscriber, i.dbPath, issues⟩] } :=
      .deliver hn i.subscriber issues
    dsimp only
    split
    · exact hdelivered.trans (touches_uninstalling hn)
    · exact hdelivered
  · rw [publishBy_of_not_installed _ issues (by rw [hi]; simpa using hphase)]
    exact .refl _ r

/-- So does an execution with its delivery. -/
theorem touches_executeBy (c : Conduct) (hr : r.WellFormed) (hn : r.path? n = some dbPath)
    (x : Execution) : Touches dbPath r (r.executeBy c n x) := by
  have hexamined := touches_examineBy c hn x
  have hwell := (wanes_examineBy c r n x).wellFormed hr
  unfold executeBy
  generalize r.examineBy c.forget n x = found at hexamined hwell
  obtain ⟨issues, examined⟩ := found
  dsimp only at hexamined hwell ⊢
  split
  · exact hexamined
  · exact hexamined.trans (touches_publishBy c hwell ((hexamined.path?_eq n).trans hn) issues)

/-- So does an item that is taken from a queue and done. -/
theorem touches_workBy (c : Conduct) (hr : r.WellFormed) (hn : r.path? n = some dbPath) :
    Touches dbPath r (r.workBy c n) := by
  have htaken := touches_take hn
  have hwell := (wanes_take r n).wellFormed hr
  have hn' := (htaken.path?_eq n).trans hn
  unfold workBy
  generalize r.take n = item at htaken hwell hn'
  rcases item with ⟨_ | x | _, taken⟩
  · exact htaken
  · exact htaken.trans (touches_executeBy c hwell hn' x)
  · exact htaken.trans (touches_runCheck hn')

/-- Ending an installation concerns its database only. -/
theorem touches_finish (hn : r.path? n = some dbPath) : Touches dbPath r (r.finish n) := by
  obtain ⟨i, hi, rfl⟩ := path?_eq_some_iff.mp hn
  unfold finish
  rw [hi]
  dsimp only
  split
  · next hdone =>
    have hended : Touches i.dbPath r (r.update n fun i => { i with phase := .uninstalled }) := by
      refine .update hn (fun _ _ => rfl) fun j hj _ _ => ?_
      rw [hi] at hj
      obtain rfl := Option.some.inj hj
      simp only [Installation.isDone, Bool.and_eq_true, List.isEmpty_iff] at hdone
      exact hdone.2
    refine .trans ?_ (.silent _ _)
    split
    · exact hended.trans .erase
    · exact hended
  · exact .refl _ r

/-- Doing some items of a queue concerns its database only. -/
theorem touches_repeat_workBy (c : Conduct) (hr : r.WellFormed) (hn : r.path? n = some dbPath)
    (k : Nat) : Touches dbPath r (Nat.repeat (workBy c n) k r) := by
  induction k with
  | zero => exact .refl dbPath r
  | succ k ih =>
    have hwell := (wanes_repeat_workBy c n k r).wellFormed hr
    exact ih.trans (touches_workBy c hwell ((ih.path?_eq n).trans hn))

/-- So does doing all of them, and ending the installation. -/
theorem touches_settleBy (c : Conduct) (hr : r.WellFormed) (hn : r.path? n = some dbPath) :
    Touches dbPath r (r.settleBy c n) := by
  have hworked := touches_repeat_workBy c hr hn (r.queued n)
  exact hworked.trans (touches_finish ((hworked.path?_eq n).trans hn))

/-! ### Calls -/

/-- The installation of a database that is installed is its own. -/
theorem path?_of_installed? (hr : r.WellFormed) (h : r.installed? dbPath = some (n, i)) :
    r.path? n = some dbPath := by
  obtain ⟨hfind, -, -⟩ := installed?_eq_some_iff.mp h
  obtain ⟨p, hlife, -⟩ := hr.entry hfind
  exact path?_of_life? hlife

/-- Uninstalling a database concerns that database only. -/
theorem touches_uninstall (hr : r.WellFormed) (dbPath : String) :
    Touches dbPath r (r.uninstall dbPath).2 := by
  unfold uninstall
  split
  · next h => exact touches_uninstalling (path?_of_installed? hr h)
  · exact .refl dbPath r

/-- Setting a whitelist concerns its database only. -/
theorem touches_setWhitelist (hr : r.WellFormed) (dbPath : String) (whitelist : Whitelist) :
    Touches dbPath r (r.setWhitelist dbPath whitelist) := by
  unfold setWhitelist
  split
  · next h => exact touches_update (path?_of_installed? hr h) fun _ => ⟨rfl, rfl⟩
  · exact .refl dbPath r

/-- Enabling a checker concerns its database only. -/
theorem touches_enableChecker (hr : r.WellFormed) (dbPath checker : String) :
    Touches dbPath r (r.enableChecker dbPath checker) := by
  unfold enableChecker
  split
  · next h =>
    have hn := path?_of_installed? hr h
    dsimp only
    split
    · exact touches_update hn fun _ => ⟨rfl, rfl⟩
    · exact .trans (.silent r.time _) (touches_update hn fun _ => ⟨rfl, rfl⟩)
  · exact .refl dbPath r

/-- Queueing work concerns its database only. -/
theorem touches_enqueue (hr : r.WellFormed) (dbPath : String) (w : Work) :
    Touches dbPath r (r.enqueue dbPath w) := by
  unfold enqueue
  split
  · next n i h =>
    obtain ⟨-, hi, hinstalled⟩ := installed?_eq_some_iff.mp h
    refine .update (path?_of_installed? hr h) (fun _ _ => rfl) fun j hj _ hphase => ?_
    -- An installation that is installed is not over.
    rw [hi] at hj
    obtain rfl := Option.some.inj hj
    rw [hinstalled] at hphase
    cases hphase
  · exact .refl dbPath r

/-- A notification concerns its database only. -/
theorem touches_notifyNowBy (c : Conduct) (hr : r.WellFormed) (dbPath : String) (x : Execution) :
    Touches dbPath r (r.notifyNowBy c dbPath x) := by
  unfold notifyNowBy
  split
  · next h => exact touches_executeBy c hr (path?_of_installed? hr h) x
  · exact .refl dbPath r

/-- Installing a database that is installed changes its subscriber. -/
theorem touches_install (hr : r.WellFormed) (subscriber : Subscriber)
    (h : r.current? dbPath = some n) : Touches dbPath r (r.install dbPath subscriber) := by
  obtain ⟨⟨k, i⟩, hi, rfl⟩ := Option.map_eq_some_iff.mp h
  unfold install
  rw [hi]
  exact touches_update (path?_of_installed? hr hi) fun _ => ⟨rfl, rfl⟩

end QueryLint.Registry
