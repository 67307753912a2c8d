import QueryLint.Proofs.Registry.Run
import QueryLint.Replay

/-!
# Operations without interruption

Many operations of a registry do in one go what a run does step by step: an execution is looked at
and its issues are delivered at once, draining does all queued work, and a shutdown begins, drains
and returns. Each of them is a run of steps, so what holds after every run holds of the registries
that the program makes, too. A replay is one that begins with installing its database, enabling
checkers and setting a whitelist (`exists_run_of_replay`).
-/

namespace QueryLint.Run

/-- Some steps turn one registry into another. The issues that wait besides still wait
afterwards. -/
def Leads (r r' : Registry) : Prop :=
  ∀ pending history, ∃ steps later,
    Situation.run ⟨r, pending, history⟩ steps = ⟨r', pending, history ++ later⟩

variable {r r' r'' : Registry}

namespace Leads

/-- No steps lead from a registry to itself. -/
theorem refl (r : Registry) : Leads r r :=
  fun _ _ => ⟨[], [], by simp⟩

/-- Steps in a row lead from the first registry to the last one. -/
theorem trans (h : Leads r r') (h' : Leads r' r'') : Leads r r'' := by
  intro pending history
  obtain ⟨steps, later, hsteps⟩ := h pending history
  obtain ⟨more, latest, hmore⟩ := h' pending (history ++ later)
  refine ⟨steps ++ more, later ++ latest, ?_⟩
  rw [Situation.run_append, hsteps, hmore, List.append_assoc]

/-- A single step leads to what it does, if it leaves what waits as it is. -/
theorem of_step (step : Step)
    (h : ∀ pending history, ∃ later,
      Situation.step ⟨r, pending, history⟩ step = ⟨r', pending, history ++ later⟩) :
    Leads r r' := by
  intro pending history
  obtain ⟨later, hlater⟩ := h pending history
  exact ⟨[step], later, hlater⟩

/-- A step that only changes the registry. -/
theorem of_silent_step (step : Step)
    (h : ∀ pending history,
      Situation.step ⟨r, pending, history⟩ step = ⟨r', pending, history⟩) : Leads r r' :=
  of_step step fun pending history => ⟨[], by rw [h, List.append_nil]⟩

/-- Operations on some items are led to if each of them is. -/
theorem foldl {α : Type} {f : Registry → α → Registry} (h : ∀ r a, Leads r (f r a))
    (items : List α) (r : Registry) : Leads r (items.foldl f r) := by
  induction items generalizing r with
  | nil => exact refl r
  | cons item rest ih => exact (h r item).trans (ih (f r item))

/-- So is an operation that is repeated. -/
theorem iterate {f : Registry → Registry} (h : ∀ r, Leads r (f r)) (k : Nat) (r : Registry) :
    Leads r (Nat.repeat f k r) := by
  induction k with
  | zero => exact refl r
  | succ k ih => exact ih.trans (h (Nat.repeat f k r))

end Leads

/-! ### Executions and queued work -/

/-- The issues that were found last are delivered, and all others still wait. -/
theorem deliver_last (r : Registry) (pending : List Pending) (p : Pending) (history : List Event)
    (uninstalls : List String) :
    Situation.deliver pending.length uninstalls ⟨r, pending ++ [p], history⟩
      = ⟨(r.publishBy uninstalls p.installation p.issues).2, pending, history
        ++ if (r.publishBy uninstalls p.installation p.issues).1 then uninstallEvents uninstalls r
          else []⟩ := by
  unfold Situation.deliver
  rw [List.getElem?_concat_length]
  simp [List.eraseIdx_append_of_length_le]

/-- Once an execution was looked at, the delivery of what was found completes it. -/
theorem exists_run_examine (n : Nat) (x : Execution) (s : Situation) :
    ∃ steps later, (s.examine .oldest n x).run steps
      = ⟨(s.registry.execute n x).2, s.pending, s.history ++ later⟩ := by
  unfold Situation.examine Registry.execute Registry.examine
  rcases s.registry.examineBy .oldest n x with ⟨issues, examined⟩
  by_cases hempty : issues.isEmpty
  · exact ⟨[], [.examine n x], by simp [hempty]⟩
  · -- The issues that were just found are the last ones that wait.
    refine ⟨[.deliver s.pending.length (examined.reaction n)], .examine n x ::
      if (examined.publish n issues).1 then uninstallEvents (examined.reaction n) examined else [],
      ?_⟩
    dsimp only
    rw [if_neg hempty, if_neg hempty, Situation.run, List.foldl_cons, List.foldl_nil]
    refine (deliver_last _ _ _ _ _).trans ?_
    rw [List.append_assoc]
    rfl

/-- Steps lead to what a notification does: it is looked at, and what it finds is delivered. -/
theorem leads_notifyNow (dbPath : String) (x : Execution) :
    Leads r (r.notifyNow dbPath x).2 := by
  intro pending history
  unfold Registry.notifyNow
  cases hcurrent : r.installed? dbPath with
  | none => exact ⟨[], [], by simp⟩
  | some found =>
    obtain ⟨n, _⟩ := found
    obtain ⟨steps, later, hsteps⟩ := exists_run_examine n x ⟨r, pending, history⟩
    refine ⟨.notifyNow dbPath x .oldest :: steps, later, ?_⟩
    rw [← hsteps]
    simp [Situation.run, Situation.step, Registry.current?, hcurrent]

/-- Steps lead to what an item of a queue does. -/
theorem leads_work (n : Nat) (r : Registry) : Leads r (r.work n) := by
  intro pending history
  unfold Registry.work
  rcases htake : r.take n with ⟨item, taken⟩
  have hwork : Situation.step ⟨r, pending, history⟩ (.work n .oldest)
      = Situation.work .oldest n ⟨r, pending, history⟩ := rfl
  cases item with
  | none => exact ⟨[.work n .oldest], [], by simp [Situation.run, hwork, Situation.work, htake]⟩
  | some item =>
    cases item with
    | execution x =>
      obtain ⟨steps, later, hsteps⟩ := exists_run_examine n x ⟨taken, pending, history⟩
      refine ⟨.work n .oldest :: steps, later, ?_⟩
      rw [← hsteps]
      simp [Situation.run, hwork, Situation.work, htake]
    | check =>
      exact ⟨[.work n .oldest], [], by simp [Situation.run, hwork, Situation.work, htake]⟩

/-- A step leads to the end of an installation. -/
theorem leads_finish (n : Nat) (r : Registry) : Leads r (r.finish n) :=
  .of_step (.finish n) fun _ _ => ⟨_, rfl⟩

/-- All queued work of all installations is done by steps. -/
theorem leads_drain (r : Registry) : Leads r r.drain := by
  refine .foldl (fun r n => ?_) _ r
  have hworked : Leads r (Nat.repeat (Registry.work n) (r.queued n) r) :=
    .iterate (leads_work n) _ r
  exact hworked.trans (leads_finish n _)

/-- Steps lead to what a shutdown does. -/
theorem leads_shutdown (r : Registry) : Leads r r.shutdown := by
  have hbegun : Leads r r.uninstallAll.2 := .of_step .beginShutdown fun _ _ => ⟨_, rfl⟩
  have hreturned : ∀ ended : Registry, Leads ended (ended.tell .shutDown) :=
    fun _ => .of_silent_step .endShutdown fun _ _ => rfl
  unfold Registry.shutdown
  dsimp only
  split
  · exact (hbegun.trans (leads_drain _)).trans (hreturned _)
  · exact hbegun.trans (hreturned _)

/-! ### Replays -/

/-- The steps before the statements of a replay: its database is installed, then each of some
checkers is enabled, and a whitelist is set. -/
def openingSteps (dbPath : String) (enable : List String) (whitelist : Whitelist) : List Step :=
  .install dbPath ⟨dbPath, false⟩ :: enable.map (.enableChecker dbPath)
    ++ [.setWhitelist dbPath whitelist]

/-- Enabling some checkers is one step for each of them. -/
theorem run_map_enableChecker (s : Situation) (dbPath : String) (enable : List String) :
    s.run (enable.map (.enableChecker dbPath))
      = { s with registry :=
          enable.foldl (fun r checker => r.enableChecker dbPath checker) s.registry } := by
  induction enable generalizing s with
  | nil => rfl
  | cons checker rest ih => exact ih (s.step (.enableChecker dbPath checker))

/-- These steps prepare the registry of a replay. -/
theorem run_openingSteps (engine : Engine) (time : Nat) (dbPath : String) (enable : List String)
    (whitelist : Whitelist) :
    (Situation.start engine time).run (openingSteps dbPath enable whitelist)
      = ⟨Replay.prepare engine time dbPath enable whitelist, [], [.install dbPath 0]⟩ := by
  have hinstalled : (Situation.start engine time).step (.install dbPath ⟨dbPath, false⟩)
      = ⟨(Registry.new engine time).install dbPath ⟨dbPath, false⟩, [], [.install dbPath 0]⟩ := rfl
  rw [openingSteps, Situation.run_concat, Situation.run, List.foldl_cons, hinstalled]
  change ((Situation.run _ (enable.map (.enableChecker dbPath))).step _) = _
  rw [run_map_enableChecker]
  rfl

/-- A whole replay, up to its shutdown, is a run of steps that begins with these. -/
theorem exists_run_of_replay (engine : Engine) (time : Nat) (dbPath : String)
    (enable : List String) (whitelist : Whitelist) (statements : List String) :
    ∃ steps, ((Situation.start engine time).run
        (openingSteps dbPath enable whitelist ++ steps)).registry
      = (Replay.execute (Replay.prepare engine time dbPath enable whitelist) dbPath
        statements).shutdown := by
  have hexecuted : ∀ r, Leads r (Replay.execute r dbPath statements) :=
    Leads.foldl (fun _ _ => leads_notifyNow dbPath _) statements
  obtain ⟨steps, later, hsteps⟩ := (hexecuted (Replay.prepare engine time dbPath enable
    whitelist)).trans (leads_shutdown _) [] [.install dbPath 0]
  refine ⟨steps, ?_⟩
  rw [Situation.run_append, run_openingSteps, hsteps]

end QueryLint.Run
