import Mathlib.Data.Fintype.EquivFin
import Mathlib.Data.List.TakeWhile
import QueryLint.Proofs.Registry.Mirroring

/-!
# Installing a database once more

If the database is installed, its installation goes on as it is, and from then on another subscriber
gets what is delivered from it. So the run is mirrored by the one without the call, with the
subscriber exchanged until the database is installed the next time (`mirrored_reinstall`,
`Mirrored.install`).

If the database is not installed, a new installation begins, whatever became of the old ones. So the
run goes on as if the database had been called otherwise up to then (`Mirrored.renew`).
-/

namespace QueryLint

/-- A delivery that another subscriber gets, if it comes from a certain database. -/
def Delivery.redirect (dbPath : String) (subscriber : Subscriber) (d : Delivery) : Delivery :=
  if d.dbPath = dbPath then { d with subscriber } else d

/-- An installation that nothing was done with: no statement was seen, all checkers are enabled,
nothing is whitelisted, nothing is queued, and the names were not checked. -/
structure Installation.IsFresh (i : Installation) : Prop where
  seen : ∀ fingerprint, i.seen.contains fingerprint = false
  enabled : ∀ checker, i.policy.isEnabled checker = true
  whitelist : i.policy.whitelist.entries = []
  queue : i.queue = []
  checked : i.checked = false

/-- An installation that begins has seen and queued nothing. -/
theorem Installation.isFresh_start (dbPath : String) (subscriber : Subscriber) (maxSeen : Nat) :
    (Installation.start dbPath subscriber maxSeen).IsFresh where
  seen _ := rfl
  enabled _ := rfl
  whitelist := rfl
  queue := rfl
  checked := rfl

namespace Run

open Registry

/-! ### A database that is installed -/

/-- The mirror in which one subscriber gets all that is delivered from a database. -/
def Mirror.redirecting (dbPath : String) (subscriber : Subscriber) : Mirror where
  Named _ := True
  name := id
  path _ := id
  toward d old := if d = dbPath then subscriber else old
  name_inj _ _ := id

/-- A mirror for a new subscriber redirects the deliveries from its database. -/
theorem Mirror.redirect_redirecting (dbPath : String) (subscriber : Subscriber) :
    (redirecting dbPath subscriber).redirect = Delivery.redirect dbPath subscriber := by
  funext d
  simp only [redirect, redirecting, Delivery.redirect]
  split <;> rfl

/-- If installations have the same databases in two situations, the databases stand at the same
place. -/
theorem Mirrored.phase_eq {μ : Mirror} {s s' : Situation} (h : Mirrored μ s s')
    (hpath : ∀ n d, μ.path n d = d) (d : String) : s'.registry.phase d = s.registry.phase d := by
  refine h.left.phase_congr h.right 0 (.inl rfl) fun n _ p => ?_
  rw [h.registry.life?_eq]
  simp [hpath]

/-- Steps up to the one that installs a database the next time, if any does. -/
theorem split_at_install (dbPath : String) (steps : List Step) :
    let own := steps.takeWhile fun st => (st.subscriber? dbPath).isNone
    (∀ d subscriber, .install d subscriber ∈ own → d ≠ dbPath)
      ∧ (own = steps ∨ ∃ subscriber rest, steps = own ++ .install dbPath subscriber :: rest) := by
  intro own
  constructor
  · rintro d subscriber hmem rfl
    have hown := List.mem_takeWhile_imp hmem
    simp [Step.subscriber?] at hown
  · have hsplit : own ++ steps.dropWhile (fun st => (st.subscriber? dbPath).isNone) = steps :=
      List.takeWhile_append_dropWhile
    have hhead := List.head?_dropWhile_not (fun st : Step => (st.subscriber? dbPath).isNone) steps
    cases hrest : steps.dropWhile (fun st => (st.subscriber? dbPath).isNone) with
    | nil =>
      rw [hrest, List.append_nil] at hsplit
      exact .inl hsplit
    | cons next rest =>
      rw [hrest] at hsplit hhead
      obtain ⟨subscriber, rfl⟩ : ∃ subscriber, next = .install dbPath subscriber := by
        cases next with
        | install d subscriber =>
          have hd : d = dbPath := by simpa [Step.subscriber?] using hhead
          exact ⟨subscriber, by rw [hd]⟩
        | _ => cases hhead
      exact .inr ⟨subscriber, rest, hsplit.symm⟩

section Reachable

variable (engine : Engine) (time : Nat) (before : List Step)

/-- What waits to be delivered comes from some installation. -/
theorem exists_path?_of_mem_pending {p : Pending}
    (hp : p ∈ ((Situation.start engine time).run before).pending) :
    ∃ d, ((Situation.start engine time).run before).registry.path? p.installation = some d := by
  obtain ⟨d, _, hlife, -⟩ := (Provenance.run engine time before).pending p hp
  exact ⟨d, path?_of_life? hlife⟩

/-- Installing a database that is installed exchanges its subscriber, and nothing else. -/
theorem mirrored_reinstall {dbPath : String} (subscriber : Subscriber) {n : Nat}
    (hn : ((Situation.start engine time).run before).registry.current? dbPath = some n) :
    Mirrored (.redirecting dbPath subscriber) ((Situation.start engine time).run before)
      (((Situation.start engine time).run before).step (.install dbPath subscriber)) := by
  have hcharted := Charted.run engine time before
  have hwaiting : ∀ p ∈ ((Situation.start engine time).run before).pending,
      ∃ d, ((Situation.start engine time).run before).registry.path? p.installation = some d :=
    fun _ => exists_path?_of_mem_pending engine time before
  -- What is needed of the run is that the map is charted and what waits has a database.
  generalize (Situation.start engine time).run before = s at hn hcharted hwaiting
  have hreflects :
      Pointwise (Mirror.redirecting dbPath subscriber).Reflects s.registry.installations
      (s.registry.install dbPath subscriber).installations := by
    intro m
    rw [installations_reinstall hcharted.wellFormed hn, List.getElem?_map]
    cases s.registry.installations[m]? with
    | none => exact .none
    | some i =>
      refine .some ⟨(changeIn [dbPath] (fun i => { i with subscriber }) i).subscriber, ?_,
        fun hphase => ?_⟩
      · rw [changeIn]
        split <;> rfl
      · simp only [changeIn, List.mem_singleton, hphase, true_and, Mirror.redirecting]
        split <;> rfl
  have hpending :
      Pointwise (fun _ => (Mirror.redirecting dbPath subscriber).Awaits s.registry) s.pending
      s.pending := by
    intro k
    cases hp : s.pending[k]? with
    | none => exact .none
    | some p =>
      obtain ⟨d, hpath⟩ := hwaiting p (List.mem_of_getElem? hp)
      exact .some ⟨d, p.issues, hpath, rfl, fun _ => rfl⟩
  have hlives := sameLives_install subscriber hn
  refine ⟨hcharted, hcharted.step _,
    ⟨?_, ?_, hreflects, fun _ _ _ => trivial, fun _ _ _ => rfl, fun _ _ _ _ => rfl⟩,
    hpending⟩
  · exact s.engine_step (.install dbPath subscriber)
  · exact s.time_step (by simp)

/-- Until the database is installed the next time, the other subscriber gets what is delivered from
it, and then there is no difference any more. -/
theorem redirected_until_installed {dbPath : String} (subscriber : Subscriber) {n : Nat}
    (hn : ((Situation.start engine time).run before).registry.current? dbPath = some n)
    (steps : List Step) :
    let s := (Situation.start engine time).run before
    SameAnswers (fun _ => True) (s.run steps) (s.run (.install dbPath subscriber :: steps))
      ∧ ∃ first later,
        (s.run (steps.takeWhile fun st => (st.subscriber? dbPath).isNone)).registry.deliveries
            = s.registry.deliveries ++ first
          ∧ (s.run steps).registry.deliveries = s.registry.deliveries ++ first ++ later
          ∧ (s.run (.install dbPath subscriber :: steps)).registry.deliveries
            = s.registry.deliveries ++ first.map (Delivery.redirect dbPath subscriber)
              ++ later := by
  intro s
  have hbegun : Mirrored (.redirecting dbPath subscriber) s (s.step (.install dbPath subscriber)) :=
    mirrored_reinstall engine time before subscriber hn
  have hdeliveries : (s.step (.install dbPath subscriber)).registry.deliveries
      = s.registry.deliveries :=
    s.deliveries_step_of_ne (by simp)
  -- The run is cut at the next installation of the database, if there is one.
  obtain ⟨hother, hsplit⟩ := split_at_install dbPath steps
  generalize (steps.takeWhile fun st => (st.subscriber? dbPath).isNone) = own at hother hsplit ⊢
  have hadmits : ∀ st ∈ own, (Mirror.redirecting dbPath subscriber).Admits st := by
    refine fun st hst => ⟨fun _ _ => trivial, fun d other heq old => if_neg ?_⟩
    exact hother d other (heq ▸ hst)
  obtain ⟨hduring, first, hfirst, hfirst'⟩ := hbegun.deliveries_run rfl own hadmits
  rw [Mirror.redirect_redirecting, hdeliveries] at hfirst'
  rcases hsplit with rfl | ⟨other, rest, rfl⟩
  · refine ⟨hduring.sameAnswers rfl fun d _ => hduring.phase_eq (fun _ _ => rfl) d, first, [],
      hfirst, ?_, ?_⟩
    · rw [List.append_nil]
      exact hfirst
    · rw [List.append_nil]
      exact hfirst'
  · -- From here on the subscriber is the same in both runs.
    have hagain : Mirrored { Mirror.redirecting dbPath subscriber with toward := fun _ => id }
        ((s.run own).step (.install dbPath other))
        (((s.step (.install dbPath subscriber)).run own).step (.install dbPath other)) :=
      hduring.install other trivial (fun _ => rfl) fun d hne => funext fun old => (if_neg hne).symm
    obtain ⟨hafter, later, hlater, hlater'⟩ :=
      hagain.deliveries_run rfl rest fun _ _ => ⟨fun _ _ => trivial, fun _ _ _ _ => rfl⟩
    rw [Situation.deliveries_step_of_ne _ (by simp), hfirst] at hlater
    rw [Situation.deliveries_step_of_ne _ (by simp), hfirst'] at hlater'
    have hrun : ∀ s : Situation,
        s.run (own ++ .install dbPath other :: rest)
          = ((s.run own).step (.install dbPath other)).run rest :=
      fun s => s.run_append own (.install dbPath other :: rest)
    rw [← hrun, ← hrun] at hafter
    rw [← hrun] at hlater hlater'
    refine ⟨hafter.sameAnswers rfl fun d _ => hafter.phase_eq (fun _ _ => rfl) d, first, later,
      hfirst, hlater, ?_⟩
    exact hlater'.trans (congrArg _ (List.map_id later))

/-! ### A database that is not installed -/

/-- Names of databases in which one database is called as another one. -/
def called (dbPath other d : String) : String := if d = dbPath then other else d

/-- Two names are called alike only if they are the same, as long as neither is the other's new
name. -/
theorem called_eq_iff (dbPath : String) {other d e : String} (hd : d ≠ other) (he : e ≠ other) :
    called dbPath other d = called dbPath other e ↔ d = e := by
  unfold called
  constructor
  · intro heq
    split at heq
    · next hdb =>
      split at heq
      · next hdb' => rw [hdb, hdb']
      · exact absurd heq.symm he
    · split at heq
      · exact absurd heq hd
      · exact heq
  · rintro rfl
    rfl

/-- There is always a name that some steps do not use. -/
theorem exists_unnamed (dbPath : String) (steps : List Step) :
    ∃ other, other ≠ dbPath ∧ ∀ st ∈ steps, other ∉ st.databases := by
  obtain ⟨other, hother⟩ :=
    Infinite.exists_notMem_finset (dbPath :: steps.flatMap Step.databases).toFinset
  rw [List.mem_toFinset, List.mem_cons, List.mem_flatMap, not_or] at hother
  exact ⟨other, hother.1, fun st hst hmem => hother.2 ⟨st, hst, hmem⟩⟩

/-- The mirror in which a database is called as another one, which is not named. -/
def Mirror.renaming (dbPath other : String) : Mirror where
  Named d := d ≠ other
  name := called dbPath other
  path _ := called dbPath other
  toward _ := id
  name_inj hd he := (called_eq_iff dbPath hd he).mp

/-- The mirror in which a database was called as another one, which is not named, in so many
installations. -/
def Mirror.renamed (dbPath other : String) (count : Nat) : Mirror where
  Named d := d ≠ other
  name := id
  path n := if n < count then called dbPath other else id
  toward _ := id
  name_inj _ _ := id

/-- Two runs that begin alike but for the name of a database are each other's mirrors. -/
theorem mirrored_start (dbPath other : String) :
    Mirrored (.renaming dbPath other) (.start engine time) (.start engine time) where
  left := .new engine time
  right := .new engine time
  registry := {
    engine := rfl
    time := rfl
    reflects := fun _ => .none
    named := fun _ _ hn => by cases hn
    agrees := fun _ _ _ => rfl
    begins := fun _ _ _ _ => rfl }
  pending := fun _ => .none

/-- A database that is not installed may from now on be called by its own name again. -/
theorem Mirrored.renew {s s' : Situation} {dbPath other : String}
    (h : Mirrored (.renaming dbPath other) s s') (hn : s.registry.current? dbPath = none) :
    Mirrored (.renamed dbPath other s.registry.installations.length) s s' := by
  have hpath : ∀ {m}, m < s.registry.installations.length →
      (Mirror.renamed dbPath other s.registry.installations.length).path m = called dbPath other :=
    fun hm => if_pos hm
  refine ⟨h.left, h.right,
    ⟨h.registry.engine, h.registry.time, ?_, h.registry.named, fun m d hm => ?_,
    fun m hm d _ => ?_⟩, ?_⟩
  · refine h.registry.reflects.mono fun m i i' hi hreflects => ?_
    obtain ⟨old, rfl, hold⟩ := hreflects
    refine ⟨old, ?_, hold⟩
    rw [hpath (List.getElem?_eq_some_iff.mp hi).1]
    rfl
  · -- What is installed is not an installation of the database.
    have hne : d ≠ dbPath := by
      rintro rfl
      rw [h.left.wellFormed.current?_eq_some_iff.mpr hm] at hn
      cases hn
    rw [hpath (lt_length_of_life? hm)]
    exact if_neg hne
  · exact congrFun (if_neg (Nat.not_lt_of_le hm)) d
  · refine h.pending.mono fun _ p p' _ hp => ?_
    obtain ⟨d, issues, hd, rfl, hissues⟩ := hp
    refine ⟨d, issues, hd, rfl, fun hsame => hissues ?_⟩
    rwa [hpath (lt_length_of_path? hd)] at hsame

/-- Databases stand at the same place whatever one of them was called before it was installed
again. -/
theorem Mirrored.phase_eq_of_renamed {s s' : Situation} {dbPath other : String} {count : Nat}
    (h : Mirrored (.renamed dbPath other count) s s')
    (hcount : s.registry.path? count = some dbPath) {d : String} (hd : d ≠ other) :
    s'.registry.phase d = s.registry.phase d := by
  by_cases hdb : d = dbPath
  · -- The last installation of the database is not one of the first ones.
    subst hdb
    refine h.left.phase_congr h.right count (.inr hcount) fun n hn p => ?_
    rw [h.registry.life?_eq]
    simp [Mirror.renamed, Nat.not_lt_of_le hn]
  · refine h.left.phase_congr h.right 0 (.inl rfl) fun n _ p => ?_
    rw [h.registry.life?_eq]
    cases hlife : s.registry.life? n with
    | none => rfl
    | some l =>
      have hnamed : l.1 ≠ other := h.registry.named n l.1 (path?_of_life? hlife)
      have hown : called dbPath other d = d := if_neg hdb
      have hpath : (Mirror.renamed dbPath other count).path n l.1 = d ↔ l.1 = d := by
        dsimp only [Mirror.renamed]
        split
        · rw [← called_eq_iff dbPath hnamed hd, hown]
        · exact Iff.rfl
      rw [Option.map_some, Option.some.injEq, Option.some.injEq, Prod.mk.injEq, hpath, Prod.ext_iff]

/-- A database that is installed anew is as one that was never installed: the same run could have
been made before with another name for it. -/
theorem renewed {dbPath : String} (subscriber : Subscriber)
    (hn : ((Situation.start engine time).run before).registry.current? dbPath = none)
    {other : String} (hother : other ≠ dbPath) (steps : List Step)
    (hunnamed : ∀ st ∈ before ++ steps, other ∉ st.databases) :
    let s := (Situation.start engine time).run before
    let t := (Situation.start engine time).run (before.map (Step.rename (called dbPath other)))
    (∀ n p, t.registry.life? n ≠ some (dbPath, p))
      ∧ SameAnswers (· ≠ other) (s.run (.install dbPath subscriber :: steps))
        (t.run (.install dbPath subscriber :: steps))
      ∧ ∃ later,
        (s.run (.install dbPath subscriber :: steps)).registry.deliveries
          = s.registry.deliveries ++ later
          ∧ (t.run (.install dbPath subscriber :: steps)).registry.deliveries
            = t.registry.deliveries ++ later := by
  intro s t
  -- Before the installation, the other run has the database under another name.
  have hmirrored : Mirrored (.renaming dbPath other) s t := by
    refine (mirrored_start engine time dbPath other).run fun st hst =>
      ⟨fun d hd heq => ?_, fun _ _ _ _ => rfl⟩
    exact hunnamed st (List.mem_append_left _ hst) (heq ▸ hd)
  have hrenewed := hmirrored.renew hn
  refine ⟨fun n p hlife => ?_, ?_⟩
  · rw [hmirrored.registry.life?_eq] at hlife
    obtain ⟨⟨e, q⟩, he, heq⟩ := Option.map_eq_some_iff.mp hlife
    have hcalled : called dbPath other e = dbPath := congrArg Prod.fst heq
    unfold called at hcalled
    split at hcalled
    · exact hother hcalled
    · next hne => exact hne hcalled
  · have hadmits : ∀ st ∈ Step.install dbPath subscriber :: steps,
        (Mirror.renamed dbPath other s.registry.installations.length).Admits st := by
      refine fun st hst => ⟨?_, fun _ _ _ _ => rfl⟩
      rintro d hd rfl
      rcases List.mem_cons.mp hst with rfl | hst
      · exact hother (List.mem_singleton.mp hd)
      · exact hunnamed st (List.mem_append_right _ hst) hd
    obtain ⟨hafter, later, hlater, hlater'⟩ := hrenewed.deliveries_run rfl _ hadmits
    have hnew :
        (s.run (.install dbPath subscriber :: steps)).registry.path? s.registry.installations.length
        = some dbPath := by
      have hlife :
          (s.step (.install dbPath subscriber)).registry.life? s.registry.installations.length
          = some (dbPath, .installed) := (life?_install subscriber hn _).trans (if_pos rfl)
      obtain ⟨p, hp, -⟩ := Situation.life?_run hlife steps
      exact path?_of_life? hp
    refine ⟨hafter.sameAnswers rfl fun d hd => hafter.phase_eq_of_renamed hnew hd, later,
      hlater, ?_⟩
    exact hlater'.trans (congrArg _ (List.map_id later))

/-- The installation with which a database that is not installed is installed. -/
theorem isFresh_install {r : Registry} {dbPath : String} (subscriber : Subscriber)
    (hn : r.current? dbPath = none) :
    ∃ i, (r.install dbPath subscriber).installed? dbPath = some (r.installations.length, i)
      ∧ i.IsFresh
      ∧ i.subscriber = subscriber := by
  refine ⟨_, installed?_eq_some_iff.mpr ⟨?_, ?_, rfl⟩, Installation.isFresh_start dbPath subscriber
    r.engine.settings.maxSeenStatements, rfl⟩
  · rw [install_databases subscriber hn, OrderedMap.find?_insert, if_pos (beq_self_eq_true dbPath)]
  · rw [install_installations subscriber hn, List.getElem?_concat_length]

/-- Installing a database that is installed changes nothing but who gets what is delivered from it,
also what was queued before, until it is installed the next time: whatever happens afterwards, all
questions are answered as they would have been, and the same issues are delivered.

Installing a database that is not installed begins a fresh installation, also while old ones are
still being uninstalled. Make the same run with another name for the database up to then, so that it
was never installed. Whatever happens afterwards, there is no difference to be seen: all questions
that do not use the other name, for which any will do that is not used otherwise, have the same
answers, and the same issues are delivered. -/
theorem install_redirects_or_renews (dbPath : String) (subscriber : Subscriber) :
    let s := (Situation.start engine time).run before
    (s.registry.phase dbPath = .installed → ∀ steps : List Step,
      SameAnswers (fun _ => True) (s.run steps) (s.run (.install dbPath subscriber :: steps))
        ∧ ∃ first later,
          (s.run (steps.takeWhile fun st => (st.subscriber? dbPath).isNone)).registry.deliveries
              = s.registry.deliveries ++ first
            ∧ (s.run steps).registry.deliveries = s.registry.deliveries ++ first ++ later
            ∧ (s.run (.install dbPath subscriber :: steps)).registry.deliveries
              = s.registry.deliveries ++ first.map (Delivery.redirect dbPath subscriber) ++ later)
    ∧ (s.registry.phase dbPath ≠ .installed →
      (∃ i, (s.step (.install dbPath subscriber)).registry.installed? dbPath
            = some (s.registry.installations.length, i)
          ∧ i.IsFresh ∧ i.subscriber = subscriber)
        ∧ ∀ steps : List Step,
        (∃ other, other ≠ dbPath ∧ ∀ st ∈ before ++ steps, other ∉ st.databases)
        ∧ ∀ other : String, other ≠ dbPath → (∀ st ∈ before ++ steps, other ∉ st.databases) →
          let t := (Situation.start engine time).run
            (before.map (Step.rename (called dbPath other)))
          (∀ n p, t.registry.life? n ≠ some (dbPath, p))
            ∧ SameAnswers (· ≠ other) (s.run (.install dbPath subscriber :: steps))
              (t.run (.install dbPath subscriber :: steps))
            ∧ ∃ later,
              (s.run (.install dbPath subscriber :: steps)).registry.deliveries
                  = s.registry.deliveries ++ later
                ∧ (t.run (.install dbPath subscriber :: steps)).registry.deliveries
                  = t.registry.deliveries ++ later) := by
  intro s
  constructor
  · intro hphase steps
    obtain ⟨n, hn⟩ := phase_eq_installed_iff.mp hphase
    exact redirected_until_installed engine time before subscriber hn steps
  · intro hphase
    have hn : s.registry.current? dbPath = none := by
      by_contra hsome
      obtain ⟨n, hn⟩ := Option.ne_none_iff_exists'.mp hsome
      exact hphase (phase_eq_installed_iff.mpr ⟨n, hn⟩)
    refine ⟨isFresh_install subscriber hn,
      fun steps => ⟨exists_unnamed dbPath (before ++ steps), ?_⟩⟩
    intro other hother hunnamed
    exact renewed engine time before subscriber hn hother steps hunnamed

end Reachable

/-- A statement is queued for a database before its subscriber is exchanged. Another database is
installed anew while it is being uninstalled, and the same statement is looked at again. -/
theorem install_redirects_or_renews_of_two :
    let x : Execution := ⟨"SELECT a FROM t WHERE a LIKE 'x'", 1, ""⟩
    let before : List Step :=
      [.install "a.db" ⟨"A", false⟩, .notify "a.db" x, .install "b.db" ⟨"B", false⟩,
        .notifyNow "b.db" x .oldest, .deliver 0 ["b.db"]]
    let s := (Situation.start (.ofConfig .default) 0).run before
    let queued : List Step := [.work 0 .oldest, .deliver 0 []]
    let again : List Step := [.notifyNow "b.db" x .oldest, .deliver 0 []]
    let t := (Situation.start (.ofConfig .default) 0).run
      (before.map (Step.rename (called "b.db" "c.db")))
    SameAnswers (fun _ => True) (s.run queued) (s.run (.install "a.db" ⟨"C", false⟩ :: queued))
      ∧ (s.run (.install "a.db" ⟨"C", false⟩ :: queued)).registry.deliveries.map
        (fun d => d.subscriber.name)
        = ["B", "C"]
      ∧ SameAnswers (· ≠ "c.db") (s.run (.install "b.db" ⟨"C", false⟩ :: again))
        (t.run (.install "b.db" ⟨"C", false⟩ :: again))
      ∧ (s.run (.install "b.db" ⟨"C", false⟩ :: again)).registry.deliveries.map
        (fun d => d.subscriber.name)
        = ["B", "C"] := by
  intro x before s queued again t
  obtain ⟨hredirects, -⟩ :=
    install_redirects_or_renews (.ofConfig .default) 0 before "a.db" ⟨"C", false⟩
  obtain ⟨-, hrenews⟩ :=
    install_redirects_or_renews (.ofConfig .default) 0 before "b.db" ⟨"C", false⟩
  obtain ⟨hsame, -⟩ := hredirects (by decide +kernel) queued
  obtain ⟨-, hfresh⟩ := hrenews (by decide +kernel)
  obtain ⟨-, hsame', -⟩ := (hfresh again).2 "c.db" (by decide) (by decide)
  refine ⟨hsame, ?_, hsame', ?_⟩
  · decide +kernel
  · decide +kernel

end Run

end QueryLint
