import QueryLint.Proofs.Registry.Effects
import QueryLint.Proofs.Registry.Lifecycle

/-!
# Where deliveries come from

Everything that is looked at or delivered belongs to an execution of which its database was notified
during the installation that is current at that moment (`NotifiedDuring`), and goes to the
subscriber that the database was last installed with. `Provenance` says this of everything that is
queued or waits to be delivered, and every step keeps it.

Once an installation is no longer current it never is again, so from then on nothing is looked at or
delivered for it any more (`Frozen`).
-/

namespace QueryLint.Run

open Registry

/-- The subscriber that a step installs a database with. -/
def Step.subscriber? (dbPath : String) : Step → Option Subscriber
  | install d subscriber => if d = dbPath then some subscriber else none
  | _ => none

/-- The subscriber that some steps last installed a database with. -/
def lastSubscriber (dbPath : String) (steps : List Step) : Option Subscriber :=
  steps.reverse.findSome? (Step.subscriber? dbPath)

/-- One of some steps notified a database of an execution, and from just before that step to the end
an installation was the current one of the database. -/
def NotifiedDuring (first : Situation) (steps : List Step) (dbPath : String) (n : Nat)
    (x : Execution) : Prop :=
  ∃ before st after, steps = before ++ st :: after ∧ st.notification? = some (dbPath, x)
    ∧ ∀ since, since <+: st :: after →
      (first.run (before ++ since)).registry.current? dbPath = some n

/-- Some issues are those that an engine finds in an execution on a database, under some policy and
at some time, and there are any. -/
def IssuesOf (engine : Engine) (dbPath : String) (x : Execution) (issues : List Issue) : Prop :=
  issues ≠ [] ∧ ∃ policy time, issues = engine.issues policy dbPath time x

/-- The last subscriber is the one who came last, if the last step was an installation. -/
theorem lastSubscriber_concat (dbPath : String) (steps : List Step) (last : Step) :
    lastSubscriber dbPath (steps ++ [last])
      = (last.subscriber? dbPath).or (lastSubscriber dbPath steps) := by
  rw [lastSubscriber, List.reverse_append, List.reverse_singleton, List.singleton_append,
    List.findSome?_cons]
  cases last.subscriber? dbPath <;> rfl

/-- Only installations have a subscriber. -/
theorem Step.subscriber?_eq_none {st : Step}
    (h : ∀ dbPath subscriber, st ≠ .install dbPath subscriber) (dbPath : String) :
    st.subscriber? dbPath = none := by
  cases st with
  | install d subscriber => exact absurd rfl (h d subscriber)
  | _ => rfl

variable {first : Situation} {steps : List Step} {st : Step} {dbPath : String} {n m : Nat}
  {x : Execution} {r r' : Registry} {events : List Event}

/-- One more step that leaves the installation current makes no difference. -/
theorem NotifiedDuring.concat (h : NotifiedDuring first steps dbPath n x)
    (hcur : (first.run (steps ++ [st])).registry.current? dbPath = some n) :
    NotifiedDuring first (steps ++ [st]) dbPath n x := by
  obtain ⟨before, notice, after, rfl, hnotice, hsince⟩ := h
  refine ⟨before, notice, after ++ [st], by simp, hnotice, fun since hprefix => ?_⟩
  rw [← List.cons_append, List.prefix_concat_iff] at hprefix
  rcases hprefix with rfl | hprefix
  · rwa [← List.append_assoc]
  · exact hsince since hprefix

/-- The last step may be the one that notifies the database. -/
theorem NotifiedDuring.last (hst : st.notification? = some (dbPath, x))
    (hbefore : (first.run steps).registry.current? dbPath = some n)
    (hcur : (first.run (steps ++ [st])).registry.current? dbPath = some n) :
    NotifiedDuring first (steps ++ [st]) dbPath n x := by
  refine ⟨steps, st, [], rfl, hst, fun since hprefix => ?_⟩
  rcases List.prefix_cons_iff.mp hprefix with rfl | ⟨rest, rfl, hrest⟩
  · rwa [List.append_nil]
  · obtain rfl := List.prefix_nil.mp hrest
    exact hcur

/-- What was notified during an installation has that installation as the current one in the end. -/
theorem NotifiedDuring.current? (h : NotifiedDuring first steps dbPath n x) :
    (first.run steps).registry.current? dbPath = some n := by
  obtain ⟨before, notice, after, rfl, -, hsince⟩ := h
  exact hsince _ (List.prefix_refl _)

/-! ### Lives go on -/

/-- An installation keeps its database, and is not installed again once it was ended. -/
theorem Evolves.life?_of_life? (he : Evolves r events r') {p : Phase}
    (hn : r.life? n = some (dbPath, p)) :
    ∃ p', r'.life? n = some (dbPath, p') ∧ (p' = .installed → p = .installed) := by
  induction he generalizing p with
  | keep hl => exact ⟨p, by rw [hl.life?, hn], id⟩
  | examine _ _ hl => exact ⟨p, by rw [hl.life?, hn], id⟩
  | reinstall _ hl => exact ⟨p, by rw [hl.life?, hn], id⟩
  | install _ _ hl =>
    exact ⟨p, by rw [hl, if_neg (Nat.ne_of_lt (lt_length_of_life? hn)), hn], id⟩
  | ignore _ => exact ⟨p, hn, id⟩
  | uninstall _ _ hl =>
    rw [hl, hn]
    split
    · exact ⟨.uninstalling, rfl, fun h => by cases h⟩
    · exact ⟨p, rfl, id⟩
  | @ended _ _ d k hk _ hl =>
    rw [hl]
    split
    · next heq =>
      rw [heq, hk] at hn
      cases hn
      exact ⟨.uninstalled, rfl, fun h => by cases h⟩
    · exact ⟨p, hn, id⟩
  | trans _ _ ih ih' =>
    obtain ⟨p', hp', himp⟩ := ih hn
    obtain ⟨p'', hp'', himp'⟩ := ih' hp'
    exact ⟨p'', hp'', fun h => himp (himp' h)⟩

/-- The same over one step. -/
theorem Situation.life?_step {s : Situation} {p : Phase}
    (hn : s.registry.life? n = some (dbPath, p)) (st : Step) :
    ∃ p', (s.step st).registry.life? n = some (dbPath, p')
      ∧ (p' = .installed → p = .installed) := by
  obtain ⟨events, -, he⟩ := s.evolves_step st
  exact he.life?_of_life? hn

/-- No installation is ever forgotten. -/
theorem Situation.length_le_step (s : Situation) (st : Step) :
    s.registry.installations.length ≤ (s.step st).registry.installations.length := by
  apply Nat.le_of_not_lt
  intro hlt
  obtain ⟨⟨dbPath, p⟩, hlife⟩ := Option.ne_none_iff_exists'.mp
    (mt life?_eq_none_iff.mp (Nat.not_le_of_lt hlt))
  obtain ⟨p', hlife', -⟩ := life?_step hlife st
  exact Nat.lt_irrefl _ (lt_length_of_life? hlife')

/-- What is not installed never will be again. -/
theorem Situation.life?_run {s : Situation} {p : Phase} (hn : s.registry.life? n = some (dbPath, p))
    (more : List Step) :
    ∃ p', (s.run more).registry.life? n = some (dbPath, p')
      ∧ (p' = .installed → p = .installed) := by
  induction more using List.reverseRecOn with
  | nil => exact ⟨p, hn, id⟩
  | append_singleton more last ih =>
    obtain ⟨p', hp', himp⟩ := ih
    obtain ⟨p'', hp'', himp'⟩ := life?_step hp' last
    exact ⟨p'', by rwa [run_concat], fun h => himp (himp' h)⟩

/-- No step changes the engine. -/
theorem Situation.engine_step (s : Situation) (st : Step) :
    (s.step st).registry.engine = s.registry.engine := by
  cases advances_step s st with
  | quiet _ hr => exact hr.engine
  | reinstall _ _ _ _ _ hr => rw [hr]; rfl
  | install _ _ _ _ he => exact he
  | notify _ _ _ _ _ hs => rw [hs]; rfl
  | examine n x forget r _ _ hr _ hs =>
    rw [hs, ← hr.engine]
    exact examineBy_engine forget r n x
  | deliver _ _ _ _ _ _ _ hr => exact hr.engine

/-- The engine of a registry never changes. -/
theorem Situation.engine_run (s : Situation) (steps : List Step) :
    (s.run steps).registry.engine = s.registry.engine := by
  induction steps using List.reverseRecOn with
  | nil => rfl
  | append_singleton steps last ih => rw [run_concat, engine_step, ih]

/-! ### What waits comes from a notification -/

/-- An installation has the subscriber that its database was last installed with, and only
executions queued that its database was notified of during the installation. -/
structure Sourced (first : Situation) (steps : List Step) (n : Nat) (i : Installation) : Prop where
  subscriber : lastSubscriber i.dbPath steps = some i.subscriber
  queue : ∀ x, .execution x ∈ i.queue → NotifiedDuring first steps i.dbPath n x

/-- One more step keeps this of an installation that it neither ends nor gives executions from
elsewhere. -/
theorem Sourced.concat {i i' : Installation} (h : Sourced first steps n i)
    (hdb : i'.dbPath = i.dbPath)
    (hsub : (st.subscriber? i.dbPath).or (some i.subscriber) = some i'.subscriber)
    (hqueue : ∀ x, .execution x ∈ i'.queue →
      .execution x ∈ i.queue ∨ st.notification? = some (i.dbPath, x))
    (hbefore : (first.run steps).registry.current? i.dbPath = some n)
    (hcur : (first.run (steps ++ [st])).registry.current? i.dbPath = some n) :
    Sourced first (steps ++ [st]) n i' := by
  refine ⟨?_, fun x hx => ?_⟩
  · rw [hdb, lastSubscriber_concat, h.subscriber, hsub]
  · rw [hdb]
    rcases hqueue x hx with hx | hx
    · exact (h.queue x hx).concat hcur
    · exact .last hx hbefore hcur

/-- Issues that wait were found in an execution on the database of their installation, which was
notified of it during that installation, unless that is no longer installed. -/
def Awaited (engine : Engine) (time : Nat) (steps : List Step) (p : Pending) : Prop :=
  ∃ dbPath phase, ((Situation.start engine time).run steps).registry.life? p.installation
      = some (dbPath, phase)
    ∧ IssuesOf engine dbPath p.execution p.issues
    ∧ (phase = .installed →
      NotifiedDuring (.start engine time) steps dbPath p.installation p.execution)

/-- Where everything that is queued or waits after some steps comes from. -/
structure Provenance (engine : Engine) (time : Nat) (steps : List Step) : Prop where
  installed : ∀ n i, ((Situation.start engine time).run steps).registry.installations[n]? = some i →
    i.phase = .installed → Sourced (.start engine time) steps n i
  pending : ∀ p ∈ ((Situation.start engine time).run steps).pending, Awaited engine time steps p

variable {engine : Engine} {time : Nat} {i i' : Installation}

/-- An installation that is installed is the current one of its database. -/
theorem current?_of_installed
    (hi : ((Situation.start engine time).run steps).registry.installations[n]? = some i)
    (hphase : i.phase = .installed) :
    ((Situation.start engine time).run steps).registry.current? i.dbPath = some n := by
  apply (Ledger.run engine time steps).wellFormed.current?_eq_some_iff.mpr
  rw [life?_of_getElem? hi, hphase]

/-- A database has the installation that is its current one, and no other that is installed. -/
theorem dbPath_eq_iff
    (hm : ((Situation.start engine time).run steps).registry.current? dbPath = some m)
    (hi : ((Situation.start engine time).run steps).registry.installations[n]? = some i)
    (hphase : i.phase = .installed) : dbPath = i.dbPath ↔ m = n := by
  have hlife := (Ledger.run engine time steps).wellFormed.current?_eq_some_iff.mp hm
  constructor
  · rintro rfl
    exact Option.some.inj (hm.symm.trans (current?_of_installed hi hphase))
  · rintro rfl
    rw [life?_of_getElem? hi] at hlife
    exact (Prod.mk.inj (Option.some.inj hlife)).1.symm

namespace Provenance

/-- An installation stays sourced when the last step changes no more than its subscriber, by
installing its database, and its queue, by notifying its database. -/
theorem sourced_concat (h : Provenance engine time steps)
    (hi : ((Situation.start engine time).run steps).registry.installations[n]? = some i)
    (hphase : i.phase = .installed) (hdb : i'.dbPath = i.dbPath)
    (hsub : (st.subscriber? i.dbPath).or (some i.subscriber) = some i'.subscriber)
    (hqueue : ∀ x, .execution x ∈ i'.queue →
      .execution x ∈ i.queue ∨ st.notification? = some (i.dbPath, x))
    (hcur : ((Situation.start engine time).run (steps ++ [st])).registry.current? i'.dbPath
      = some n) : Sourced (.start engine time) (steps ++ [st]) n i' :=
  (h.installed n i hi hphase).concat hdb hsub hqueue (current?_of_installed hi hphase) (hdb ▸ hcur)

/-- An installation stays sourced when the last step keeps its subscriber and queues no
execution. -/
theorem sourced_of_kept (h : Provenance engine time steps)
    (hinstall : ∀ dbPath subscriber, st ≠ .install dbPath subscriber)
    (hi : ((Situation.start engine time).run steps).registry.installations[n]? = some i)
    (hk : i.KeptAs i') (hphase' : i'.phase = .installed)
    (hcur : ((Situation.start engine time).run (steps ++ [st])).registry.current? i'.dbPath
      = some n) : Sourced (.start engine time) (steps ++ [st]) n i' := by
  refine h.sourced_concat hi (hk.phase ▸ hphase') hk.dbPath ?_
    (fun x hx => .inl (hk.queue x hx)) hcur
  rw [Step.subscriber?_eq_none hinstall, hk.subscriber]
  rfl

/-- What is installed after one more step has what it queued from its own notifications. -/
theorem installed_concat (h : Provenance engine time steps) (st : Step)
    (hi' : ((Situation.start engine time).run (steps ++ [st])).registry.installations[n]? = some i')
    (hphase' : i'.phase = .installed) : Sourced (.start engine time) (steps ++ [st]) n i' := by
  have hcur := current?_of_installed hi' hphase'
  rw [Situation.run_concat] at hi'
  -- By what the last step did: only an installation changes who subscribed last, and only a
  -- notification adds to a queue.
  cases Situation.advances_step ((Situation.start engine time).run steps) st with
  | quiet hinstall hr =>
    obtain ⟨i, hi, hk⟩ := hr.kept n i' hi' hphase'
    exact h.sourced_of_kept hinstall hi hk hphase' hcur
  | reinstall dbPath subscriber m hst hm hr =>
    rw [hr, getElem?_update] at hi'
    split at hi'
    · next heq =>
      obtain ⟨i, hi, rfl⟩ := Option.map_eq_some_iff.mp hi'
      refine h.sourced_concat hi hphase' rfl ?_ (fun x hx => .inl hx) hcur
      rw [hst, Step.subscriber?, if_pos ((dbPath_eq_iff hm hi hphase').mpr heq)]
      rfl
    · next hne =>
      refine h.sourced_concat hi' hphase' rfl ?_ (fun x hx => .inl hx) hcur
      rw [hst, Step.subscriber?, if_neg (mt (dbPath_eq_iff hm hi' hphase').mp hne)]
      rfl
  | install dbPath subscriber hst hnone _ _ hi =>
    rw [hi, List.getElem?_append] at hi'
    split at hi'
    · have hne : dbPath ≠ i'.dbPath := by
        rintro rfl
        rw [current?_of_installed hi' hphase'] at hnone
        cases hnone
      refine h.sourced_concat hi' hphase' rfl ?_ (fun x hx => .inl hx) hcur
      rw [hst, Step.subscriber?, if_neg hne]
      rfl
    -- The installation that just began: its subscriber came with this step, and its queue is empty.
    · obtain rfl := List.mem_singleton.mp (List.mem_of_getElem? hi')
      refine ⟨?_, fun x hx => by cases hx⟩
      rw [hst, lastSubscriber_concat, Step.subscriber?, Installation.start, if_pos rfl]
      rfl
  | notify dbPath x m hst hm hs =>
    have hinstall : ∀ dbPath subscriber, st ≠ .install dbPath subscriber := by simp [hst]
    rw [hs, getElem?_update] at hi'
    split at hi'
    · next heq =>
      obtain ⟨i, hi, rfl⟩ := Option.map_eq_some_iff.mp hi'
      refine h.sourced_concat hi hphase' rfl (by rw [Step.subscriber?_eq_none hinstall]; rfl)
        (fun y hy => ?_) hcur
      rcases List.mem_append.mp hy with hy | hy
      · exact .inl hy
      · obtain rfl := Work.execution.inj (List.mem_singleton.mp hy)
        rw [hst, ← (dbPath_eq_iff hm hi hphase').mpr heq]
        exact .inr rfl
    · exact h.sourced_of_kept hinstall hi' ⟨rfl, rfl, rfl, rfl, fun _ hx => hx⟩ hphase' hcur
  | examine m x forget r hinstall _ hr _ hs =>
    rw [hs] at hi'
    obtain ⟨seen, hseen⟩ := getElem?_examineBy forget r m x n
    obtain ⟨j, hj, rfl⟩ := Option.map_eq_some_iff.mp (hseen ▸ hi')
    obtain ⟨i, hi, hk⟩ := hr.kept n j hj hphase'
    refine h.sourced_concat hi (hk.phase ▸ hphase') hk.dbPath ?_
      (fun x hx => .inl (hk.queue x hx)) hcur
    rw [Step.subscriber?_eq_none hinstall]
    exact congrArg some hk.subscriber.symm
  | deliver _ _ _ hinstall _ _ _ hr =>
    obtain ⟨i, hi, hk⟩ := hr.kept n i' hi' hphase'
    exact h.sourced_of_kept hinstall hi hk hphase' hcur

/-- What is looked at was notified during the installation that it is looked at on. -/
theorem notifiedDuring_of_isTask (h : Provenance engine time steps)
    (htask : IsTask ((Situation.start engine time).run steps) st n x)
    (hcur : ((Situation.start engine time).run steps).registry.current? dbPath = some n)
    (hcur' : ((Situation.start engine time).run (steps ++ [st])).registry.current? dbPath
      = some n) : NotifiedDuring (.start engine time) (steps ++ [st]) dbPath n x := by
  rcases htask with ⟨d, forget, rfl, hd⟩ | ⟨i, hi, hphase, hx⟩
  · have hr := (Ledger.run engine time steps).wellFormed
    have hlife := hr.current?_eq_some_iff.mp hcur
    rw [hr.current?_eq_some_iff.mp hd] at hlife
    obtain rfl : d = dbPath := (Prod.mk.inj (Option.some.inj hlife)).1
    exact .last rfl hcur hcur'
  · rw [(dbPath_eq_iff hcur hi hphase).mpr rfl] at hcur' ⊢
    exact ((h.installed n i hi hphase).queue x hx).concat hcur'

/-- What waits after one more step was notified during its installation. -/
theorem pending_concat (h : Provenance engine time steps) (st : Step) {p : Pending}
    (hp : p ∈ ((Situation.start engine time).run (steps ++ [st])).pending) :
    Awaited engine time (steps ++ [st]) p := by
  have hr' := (Ledger.run engine time (steps ++ [st])).wellFormed
  have hkeep : p ∈ ((Situation.start engine time).run steps).pending →
      Awaited engine time (steps ++ [st]) p := by
    intro hold
    obtain ⟨dbPath, phase, hlife, hissues, hnotified⟩ := h.pending p hold
    obtain ⟨phase', hlife', himp⟩ := Situation.life?_step hlife st
    rw [← Situation.run_concat] at hlife'
    refine ⟨dbPath, phase', hlife', hissues, fun hphase => ?_⟩
    exact (hnotified (himp hphase)).concat (hr'.current?_eq_some_iff.mpr (hphase ▸ hlife'))
  rw [Situation.run_concat] at hp
  -- Only looking at an execution lets something new wait; what waited before still does.
  cases Situation.advances_step ((Situation.start engine time).run steps) st with
  | quiet _ _ hsub => exact hkeep (hsub.subset hp)
  | reinstall _ _ _ _ _ _ hsame => exact hkeep (hsame ▸ hp)
  | install _ _ _ _ _ _ _ hsame => exact hkeep (hsame ▸ hp)
  | notify _ _ _ _ _ hs =>
    rw [hs] at hp
    exact hkeep hp
  | deliver k _ _ _ _ _ _ _ hsame => exact hkeep (List.mem_of_mem_eraseIdx (hsame ▸ hp))
  | examine n x forget r _ htask hr hl hs =>
    rw [hs] at hp
    rcases Situation.pending_examine forget n x { (Situation.start engine time).run steps with
      registry := r } with hsame | ⟨i, hi, hphase, -, -, hissues, hnew⟩
    · exact hkeep (hsame ▸ hp)
    · rw [hnew] at hp
      rcases List.mem_append.mp hp with hp | hp
      · exact hkeep hp
      · obtain rfl := List.mem_singleton.mp hp
        have hlife : r.life? n = some (i.dbPath, .installed) := by
          rw [life?_of_getElem? hi, hphase]
        have hcur := (Ledger.run engine time steps).wellFormed.current?_eq_some_iff.mpr
          (hl.life? n ▸ hlife)
        have hlife' : ((Situation.start engine time).run (steps ++ [st])).registry.life? n
            = some (i.dbPath, .installed) := by
          rw [Situation.run_concat, hs]
          exact ((sameLives_examineBy forget r n x).life? n).trans hlife
        refine ⟨i.dbPath, .installed, hlife', ⟨hissues, i.policy, r.time, ?_⟩, fun _ => ?_⟩
        · have hengine := hr.engine.trans (Situation.engine_run (.start engine time) steps)
          exact congrArg (fun e => e.issues i.policy i.dbPath r.time x) hengine
        · exact h.notifiedDuring_of_isTask htask hcur (hr'.current?_eq_some_iff.mpr hlife')

/-- Every run keeps track of where things come from. -/
theorem run (engine : Engine) (time : Nat) (steps : List Step) : Provenance engine time steps := by
  induction steps using List.reverseRecOn with
  | nil =>
    refine ⟨fun n i hi => ?_, fun p hp => ?_⟩
    · cases hi
    · cases hp
  | append_singleton steps last ih =>
    exact ⟨fun n i => ih.installed_concat last, fun p => ih.pending_concat last⟩

end Provenance

/-! ### What a step delivers and looks at -/

/-- A delivery that is right: it is made while its installation is the current one of its database,
goes to the subscriber that the database was last installed with, and has the issues of an execution
that the database was notified of during that installation. -/
structure Delivered (engine : Engine) (time : Nat) (steps : List Step) (d : Delivery) : Prop where
  current : ((Situation.start engine time).run steps).registry.current? d.dbPath
    = some d.installation
  subscriber : lastSubscriber d.dbPath steps = some d.subscriber
  source : ∃ x, NotifiedDuring (.start engine time) steps d.dbPath d.installation x
    ∧ IssuesOf engine d.dbPath x d.issues

/-- A task is looked at on the installation that is the current one of some database. -/
theorem current?_of_isTask (h : IsTask ((Situation.start engine time).run steps) st n x) :
    ∃ dbPath, ((Situation.start engine time).run steps).registry.current? dbPath = some n := by
  rcases h with ⟨dbPath, -, -, hd⟩ | ⟨i, hi, hphase, -⟩
  · exact ⟨dbPath, hd⟩
  · exact ⟨i.dbPath, current?_of_installed hi hphase⟩

/-- A step only makes deliveries that are right. -/
theorem delivered_of_step (engine : Engine) (time : Nat) (steps : List Step) (st : Step) :
    ∃ new, ((Situation.start engine time).run (steps ++ [st])).registry.deliveries
        = ((Situation.start engine time).run steps).registry.deliveries ++ new
      ∧ ∀ d ∈ new, Delivered engine time steps d := by
  have h := Provenance.run engine time steps
  rw [Situation.run_concat]
  rcases Situation.deliveries_step ((Situation.start engine time).run steps) st with
    hsame | ⟨p, i, hp, hi, hphase, hnew⟩
  · exact ⟨[], by rw [hsame, List.append_nil], fun d hd => by cases hd⟩
  · refine ⟨_, hnew, fun d hd => ?_⟩
    obtain rfl := List.mem_singleton.mp hd
    obtain ⟨dbPath, phase, hlife, hissues, hnotified⟩ := h.pending p hp
    rw [life?_of_getElem? hi, hphase] at hlife
    cases hlife
    exact
      { current := current?_of_installed hi hphase
        subscriber := (h.installed _ i hi hphase).subscriber
        source := ⟨p.execution, hnotified rfl, hissues⟩ }

/-- Every delivery has the issues of an execution on its database. -/
theorem issuesOf_of_mem_deliveries (engine : Engine) (time : Nat) (steps : List Step) :
    ∀ d ∈ ((Situation.start engine time).run steps).registry.deliveries,
      ∃ x, IssuesOf engine d.dbPath x d.issues := by
  induction steps using List.reverseRecOn with
  | nil =>
    intro d hd
    cases hd
  | append_singleton steps last ih =>
    intro d hd
    obtain ⟨new, hnew, hdelivered⟩ := delivered_of_step engine time steps last
    rw [hnew] at hd
    rcases List.mem_append.mp hd with hd | hd
    · exact ih d hd
    · obtain ⟨x, -, hissues⟩ := (hdelivered d hd).source
      exact ⟨x, hissues⟩

/-- A step only looks at executions that were notified during their installation. -/
theorem notifiedDuring_of_step (engine : Engine) (time : Nat) (steps : List Step) (st : Step) :
    ∃ events, ((Situation.start engine time).run (steps ++ [st])).history
        = ((Situation.start engine time).run steps).history ++ events
      ∧ ∀ n x, .examine n x ∈ events →
        ∃ dbPath, NotifiedDuring (.start engine time) (steps ++ [st]) dbPath n x := by
  rcases Situation.history_step ((Situation.start engine time).run steps) st with
    ⟨events, hhistory, hevents⟩ | ⟨n, x, htask, hl, hhistory⟩
  · rw [Situation.run_concat]
    exact ⟨events, hhistory, fun n x hx => absurd hx (hevents n x)⟩
  · refine ⟨[.examine n x], by rw [Situation.run_concat, hhistory], fun m y hy => ?_⟩
    obtain ⟨rfl, rfl⟩ := Event.examine.inj (List.mem_singleton.mp hy)
    obtain ⟨dbPath, hcur⟩ := current?_of_isTask htask
    have hcur' : ((Situation.start engine time).run (steps ++ [st])).registry.current? dbPath
        = some m := by
      rw [Situation.run_concat, hl.current?_eq, hcur]
    exact ⟨dbPath, (Provenance.run engine time steps).notifiedDuring_of_isTask htask hcur hcur'⟩

/-- An installation that is not the current one of any database never is again. -/
theorem current?_run_ne (engine : Engine) (time : Nat) (steps : List Step)
    (hn : n < ((Situation.start engine time).run steps).registry.installations.length)
    (hcur : ∀ dbPath, ((Situation.start engine time).run steps).registry.current? dbPath ≠ some n)
    (more : List Step) (dbPath : String) :
    ((Situation.start engine time).run (steps ++ more)).registry.current? dbPath ≠ some n := by
  intro hcur'
  have hlife' := (Ledger.run engine time (steps ++ more)).wellFormed.current?_eq_some_iff.mp hcur'
  rw [Situation.run_append] at hlife'
  obtain ⟨⟨d, p⟩, hlife⟩ := Option.ne_none_iff_exists'.mp
    (mt life?_eq_none_iff.mp (Nat.not_le_of_lt hn))
  obtain ⟨p', hp', himp⟩ := Situation.life?_run hlife more
  rw [hlife'] at hp'
  cases hp'
  rw [himp rfl] at hlife
  exact hcur dbPath ((Ledger.run engine time steps).wellFormed.current?_eq_some_iff.mpr hlife)

/-- A step delivers nothing from an installation, and looks at nothing on it, if it is not the
current one of any database, neither before the step nor after it. -/
theorem frozen_step (engine : Engine) (time : Nat) (steps : List Step) (st : Step)
    (hbefore : ∀ dbPath,
      ((Situation.start engine time).run steps).registry.current? dbPath ≠ some n)
    (hafter : ∀ dbPath,
      ((Situation.start engine time).run (steps ++ [st])).registry.current? dbPath ≠ some n) :
    ((Situation.start engine time).run (steps ++ [st])).deliveriesOf n
        = ((Situation.start engine time).run steps).deliveriesOf n
      ∧ examinedOn n ((Situation.start engine time).run (steps ++ [st])).history
        = examinedOn n ((Situation.start engine time).run steps).history := by
  obtain ⟨new, hnew, hdelivered⟩ := delivered_of_step engine time steps st
  obtain ⟨events, hevents, hnotified⟩ := notifiedDuring_of_step engine time steps st
  have hnone : new.filter (fun d => d.installation == n) = [] := by
    apply List.filter_eq_nil_iff.mpr
    intro d hd heq
    exact hbefore d.dbPath (eq_of_beq heq ▸ (hdelivered d hd).current)
  have hnone' : examinedOn n events = [] := by
    apply List.filterMap_eq_nil_iff.mpr
    rintro (_ | _ | _ | ⟨m, x⟩) he <;> try rfl
    refine if_neg fun heq => ?_
    obtain ⟨dbPath, hd⟩ := hnotified m x he
    exact hafter dbPath (heq ▸ hd.current?)
  constructor
  · rw [Situation.deliveriesOf, hnew, List.filter_append, hnone, List.append_nil]
    rfl
  · rw [hevents, examinedOn_append, hnone', List.append_nil]

/-- Nothing is delivered from an installation, or looked at on it, once it is no longer the current
one of a database. -/
theorem frozen (engine : Engine) (time : Nat) (steps : List Step)
    (hn : n < ((Situation.start engine time).run steps).registry.installations.length)
    (hcur : ∀ dbPath, ((Situation.start engine time).run steps).registry.current? dbPath ≠ some n)
    (more : List Step) :
    ((Situation.start engine time).run (steps ++ more)).deliveriesOf n
        = ((Situation.start engine time).run steps).deliveriesOf n
      ∧ examinedOn n ((Situation.start engine time).run (steps ++ more)).history
        = examinedOn n ((Situation.start engine time).run steps).history := by
  have hnever := current?_run_ne engine time steps hn hcur
  induction more using List.reverseRecOn with
  | nil => simp
  | append_singleton more last ih =>
    rw [← List.append_assoc]
    have hlast := frozen_step engine time (steps ++ more) last (hnever more) fun dbPath => by
      rw [List.append_assoc]
      exact hnever (more ++ [last]) dbPath
    exact ⟨hlast.1.trans ih.1, hlast.2.trans ih.2⟩

/-- Every delivery is made while its database is installed, goes to the subscriber that the database
was last installed with, and has the issues of an execution that the database was notified of during
that installation; what is looked at was notified during that installation, too. Once an
installation is no longer the current one of a database, nothing of what it has queued is looked at
or delivered any more, whatever happens later, a new installation of the database included. -/
theorem delivered_during_installation (engine : Engine) (time : Nat) (steps : List Step)
    (st : Step) :
    let s := (Situation.start engine time).run steps
    let s' := (Situation.start engine time).run (steps ++ [st])
    (∃ new, s'.registry.deliveries = s.registry.deliveries ++ new
        ∧ ∀ d ∈ new, s.registry.phase d.dbPath = .installed ∧ Delivered engine time steps d)
      ∧ (∃ events, s'.history = s.history ++ events
        ∧ ∀ n x, .examine n x ∈ events →
          ∃ dbPath, NotifiedDuring (.start engine time) (steps ++ [st]) dbPath n x)
      ∧ ∀ n, n < s.registry.installations.length →
        (∀ dbPath, s.registry.current? dbPath ≠ some n) → ∀ more,
          (s.run more).deliveriesOf n = s.deliveriesOf n
            ∧ examinedOn n (s.run more).history = examinedOn n s.history := by
  intro s s'
  obtain ⟨new, hnew, hdelivered⟩ := delivered_of_step engine time steps st
  refine ⟨⟨new, hnew, fun d hd => ?_⟩, notifiedDuring_of_step engine time steps st, ?_⟩
  · exact ⟨phase_eq_installed_iff.mpr ⟨_, (hdelivered d hd).current⟩, hdelivered d hd⟩
  · intro n hn hcur more
    have hfrozen := frozen engine time steps hn hcur more
    rwa [Situation.run_append] at hfrozen

end QueryLint.Run
