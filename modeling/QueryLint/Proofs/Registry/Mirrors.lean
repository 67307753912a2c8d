import QueryLint.Proofs.Pointwise
import QueryLint.Proofs.Registry.Entries

/-!
# Mirrored registries

A run can be made once more with other names for the databases and with other subscribers. A
`Mirror` says what each database is called in the second run, and who gets there what a subscriber
gets in the first one. It may call the databases of old installations otherwise than those of new
ones, as long as this is not so for what is installed (`Mirrors`).

What a registry does with an installation depends neither on the name of its database, which only
goes into what is found, nor on its subscriber. So whatever is done in two mirrored registries, the
installations stay the same apart from the names and the subscribers.
-/

namespace QueryLint

namespace Run

open Registry

/-- How one run is seen in another one. -/
structure Mirror where
  /-- The databases that steps may name. -/
  Named : String → Prop
  /-- What a database is called by steps in the other run. -/
  name : String → String
  /-- What the database of an installation is called in the other run. -/
  path : Nat → String → String
  /-- Who gets in the other run what a subscriber of a database gets. -/
  toward : String → Subscriber → Subscriber
  name_inj : ∀ {d e : String}, Named d → Named e → name d = name e → d = e

namespace Mirror

variable {μ : Mirror} {n : Nat} {i i' : Installation} {f : Installation → Installation}

/-- Apart from its database and its subscriber an installation is the same in both runs. -/
def Reflects (μ : Mirror) (n : Nat) (i i' : Installation) : Prop :=
  ∃ subscriber, i' = { i with dbPath := μ.path n i.dbPath, subscriber }
    ∧ (i.phase = .installed → subscriber = μ.toward i.dbPath i.subscriber)

/-- A change of an installation that neither reads nor changes its database and its subscriber. -/
structure IsBlind (f : Installation → Installation) : Prop where
  comm : ∀ i dbPath subscriber, f { i with dbPath, subscriber } = { f i with dbPath, subscriber }
  dbPath : ∀ i, (f i).dbPath = i.dbPath
  subscriber : ∀ i, (f i).subscriber = i.subscriber
  phase : ∀ i, (f i).phase = .installed → i.phase = .installed

/-- A change of the policy looks at neither the database nor the subscriber. -/
theorem isBlind_policy (f : Policy → Policy) : IsBlind fun i => { i with policy := f i.policy } :=
  ⟨fun _ _ _ => rfl, fun _ => rfl, fun _ => rfl, fun _ => id⟩

/-- Remembering statements looks at neither the database nor the subscriber. -/
theorem isBlind_seen (seen : Fingerprint.Seen) : IsBlind fun i => { i with seen } :=
  ⟨fun _ _ _ => rfl, fun _ => rfl, fun _ => rfl, fun _ => id⟩

/-- Marking the names as checked looks at neither the database nor the subscriber. -/
theorem isBlind_checked (checked : Bool) : IsBlind fun i => { i with checked } :=
  ⟨fun _ _ _ => rfl, fun _ => rfl, fun _ => rfl, fun _ => id⟩

/-- A change of the queue looks at neither the database nor the subscriber. -/
theorem isBlind_queue (f : List Work → List Work) :
    IsBlind fun i => { i with queue := f i.queue } :=
  ⟨fun _ _ _ => rfl, fun _ => rfl, fun _ => rfl, fun _ => id⟩

/-- Ending an installation looks at neither the database nor the subscriber. -/
theorem isBlind_phase {p : Phase} (hp : p ≠ .installed) : IsBlind fun i => { i with phase := p } :=
  ⟨fun _ _ _ => rfl, fun _ => rfl, fun _ => rfl, fun _ hphase => absurd hphase hp⟩

/-- Installations that are the same but for database and subscriber stay so by such a change. -/
theorem Reflects.change (h : μ.Reflects n i i') (hf : IsBlind f) : μ.Reflects n (f i) (f i') := by
  obtain ⟨subscriber, rfl, hsubscriber⟩ := h
  refine ⟨subscriber, ?_, fun hphase => ?_⟩
  · rw [hf.comm, hf.dbPath]
  · rw [hf.dbPath, hf.subscriber]
    exact hsubscriber (hf.phase i hphase)

/-- Apart from the issues the same waits in both runs, and the issues are the same if the
installation that they come from has the same database. -/
def Awaits (μ : Mirror) (r : Registry) (p p' : Pending) : Prop :=
  ∃ dbPath issues, r.path? p.installation = some dbPath ∧ p' = { p with issues }
    ∧ (μ.path p.installation dbPath = dbPath → issues = p.issues)

/-- What waits in both runs still waits when more is installed. -/
theorem Awaits.mono {r r' : Registry} {p p' : Pending} (h : μ.Awaits r p p')
    (hpath : ∀ {n d}, r.path? n = some d → r'.path? n = some d) : μ.Awaits r' p p' := by
  obtain ⟨d, issues, hd, hrest⟩ := h
  exact ⟨d, issues, hpath hd, hrest⟩

/-- A delivery in the other run, where the databases have the same names. -/
def redirect (μ : Mirror) (d : Delivery) : Delivery :=
  { d with subscriber := μ.toward d.dbPath d.subscriber }

end Mirror

open Mirror

/-- One registry is seen as the other. Steps call what is installed by its name, also what they
install later. -/
structure Mirrors (μ : Mirror) (r r' : Registry) : Prop where
  engine : r'.engine = r.engine
  time : r'.time = r.time
  reflects : Pointwise μ.Reflects r.installations r'.installations
  named : ∀ n d, r.path? n = some d → μ.Named d
  agrees : ∀ n d, r.life? n = some (d, .installed) → μ.path n d = μ.name d
  begins : ∀ n, r.installations.length ≤ n → ∀ d, μ.Named d → μ.path n d = μ.name d

namespace Mirrors

variable {μ : Mirror} {r r' : Registry} {d : String} {n : Nat} {f : Installation → Installation}

/-- An installation is in the same phase in both runs. -/
theorem life?_eq (h : Mirrors μ r r') (n : Nat) :
    r'.life? n = (r.life? n).map fun l => (μ.path n l.1, l.2) := by
  rw [life?, life?]
  rcases h.reflects.getElem?_cases n with ⟨hi, hi'⟩ | ⟨i, i', hi, hi', subscriber, rfl, -⟩
  · rw [hi, hi']
    rfl
  · rw [hi, hi']
    rfl

/-- An installation that is installed is one of a database exactly if it is in the other
registry. -/
theorem path_eq_name_iff (h : Mirrors μ r r') {e : String} (hn : r.life? n = some (e, .installed))
    (hd : μ.Named d) : μ.path n e = μ.name d ↔ e = d := by
  rw [h.agrees n e hn]
  constructor
  · exact μ.name_inj (h.named n e (path?_of_life? hn)) hd
  · rintro rfl
    rfl

/-- A database has the same current installation in both runs. -/
theorem current?_eq (h : Mirrors μ r r') (hr : r.WellFormed) (hr' : r'.WellFormed)
    (hd : μ.Named d) : r'.current? (μ.name d) = r.current? d := by
  apply Option.ext
  intro n
  rw [hr'.current?_eq_some_iff, hr.current?_eq_some_iff, h.life?_eq]
  constructor
  · intro hn
    obtain ⟨⟨e, p⟩, hlife, heq⟩ := Option.map_eq_some_iff.mp hn
    obtain ⟨hpath, rfl⟩ := Prod.mk.inj heq
    rw [hlife, (h.path_eq_name_iff hlife hd).mp hpath]
  · intro hn
    rw [hn, Option.map_some, (h.path_eq_name_iff hn hd).mpr rfl]

/-- An installation is changed in both registries. -/
theorem modify (h : Mirrors μ r r') (n : Nat) (hf : IsBlind f) :
    Pointwise μ.Reflects (r.installations.modify n f) (r'.installations.modify n f) :=
  h.reflects.modify n fun _ _ hreflects => hreflects.change hf

/-- What is installed of some databases is changed in both registries. -/
theorem changeIn (h : Mirrors μ r r') {ds ds' : List String}
    (hds : ∀ n d, r.life? n = some (d, .installed) → (μ.path n d ∈ ds' ↔ d ∈ ds)) (hf : IsBlind f) :
    Pointwise μ.Reflects (r.installations.map (Registry.changeIn ds f))
      (r'.installations.map (Registry.changeIn ds' f)) := by
  refine h.reflects.map fun n i i' hi hreflects => ?_
  have hiff : i'.phase = .installed ∧ i'.dbPath ∈ ds' ↔ i.phase = .installed ∧ i.dbPath ∈ ds := by
    obtain ⟨subscriber, rfl, -⟩ := hreflects
    refine and_congr_right fun hphase => hds n i.dbPath ?_
    rw [life?_of_getElem? hi, hphase]
  rw [Registry.changeIn, Registry.changeIn, if_congr hiff rfl rfl]
  split
  · exact hreflects.change hf
  · exact hreflects

/-- The databases that a step names have other names there. -/
theorem mem_map_name_iff (h : Mirrors μ r r') {ds : List String} (hds : ∀ d ∈ ds, μ.Named d)
    {n : Nat} {d : String} (hn : r.life? n = some (d, .installed)) : μ.path n d ∈ ds.map μ.name
      ↔ d ∈ ds := by
  rw [List.mem_map]
  constructor
  · rintro ⟨e, he, heq⟩
    rwa [(h.path_eq_name_iff hn (hds e he)).mp heq.symm]
  · intro hd
    exact ⟨d, hd, (h.agrees n d hn).symm⟩

/-- Two registries stay mirrored while nothing gets installed. -/
theorem wane (h : Mirrors μ r r') {after after' : Registry} (hw : Wanes r after)
    (hpath : ∀ {n d}, after.path? n = some d → r.path? n = some d)
    (he : after'.engine = after.engine) (htime : after'.time = after.time)
    (hreflects : Pointwise μ.Reflects after.installations after'.installations) :
    Mirrors μ after after' where
  engine := he
  time := htime
  reflects := hreflects
  named n d hn := h.named n d (hpath hn)
  agrees n d hn := h.agrees n d (hw.installed n d hn)
  begins n hn := h.begins n (hw.length ▸ hn)

/-! ### Operations on installations -/

/-- The same item is taken from a queue in both runs. -/
theorem take (h : Mirrors μ r r') (n : Nat) :
    (r'.take n).1 = (r.take n).1
      ∧ Pointwise μ.Reflects (r.take n).2.installations (r'.take n).2.installations := by
  unfold Registry.take
  rcases h.reflects.getElem?_cases n with ⟨hi, hi'⟩ | ⟨i, i', hi, hi', subscriber, rfl, -⟩
  · rw [hi, hi']
    exact ⟨rfl, h.reflects⟩
  · rw [hi, hi']
    cases hqueue : i.queue with
    | nil => simpa [hqueue] using h.reflects
    | cons item rest =>
      simp only [hqueue]
      exact ⟨trivial, h.modify n (isBlind_queue fun _ => rest)⟩

/-- A check does the same in both runs. -/
theorem runCheck (h : Mirrors μ r r') (n : Nat) :
    Pointwise μ.Reflects (r.runCheck n).installations (r'.runCheck n).installations := by
  unfold Registry.runCheck
  rcases h.reflects.getElem?_cases n with ⟨hi, hi'⟩ | ⟨i, i', hi, hi', subscriber, rfl, -⟩
  · rw [hi, hi']
    exact h.reflects
  · rw [hi, hi']
    dsimp only
    split
    · exact h.reflects
    · exact h.modify n (isBlind_checked true)

/-- An installation ends in both runs or in none. -/
theorem finish (h : Mirrors μ r r') (n : Nat) :
    Pointwise μ.Reflects (r.finish n).installations (r'.finish n).installations := by
  unfold Registry.finish
  rcases h.reflects.getElem?_cases n with ⟨hi, hi'⟩ | ⟨i, i', hi, hi', subscriber, rfl, -⟩
  · rw [hi, hi']
    exact h.reflects
  · rw [hi, hi']
    have hended :
        Pointwise μ.Reflects (r.update n fun i => { i with phase := .uninstalled }).installations
        (r'.update n fun i => { i with phase := .uninstalled }).installations :=
      h.modify n (isBlind_phase (by decide))
    have hdone : ({ i with dbPath := μ.path n i.dbPath, subscriber } : Installation).isDone
      = i.isDone := rfl
    dsimp only
    rw [hdone]
    split
    · rw [tell_installations, tell_installations]
      split <;> split <;> exact hended
    · exact h.reflects

/-- An execution is found to have issues in both registries or in none, and the same ones if the
database has the same name. -/
theorem examineBy (h : Mirrors μ r r') (forget : Fingerprint.Seen.Forgetting) (n : Nat)
    (x : Execution) :
    Pointwise μ.Reflects (r.examineBy forget n x).2.installations
      (r'.examineBy forget n x).2.installations
      ∧ ((r.examineBy forget n x).1 = [] ∧ (r'.examineBy forget n x).1 = []
        ∨ (r.examineBy forget n x).1 ≠ [] ∧ (r'.examineBy forget n x).1 ≠ []
          ∧ ∃ d, r.path? n = some d
            ∧ (μ.path n d = d → (r'.examineBy forget n x).1 = (r.examineBy forget n x).1)) := by
  -- Both runs refuse the execution for the same reason, or neither does.
  rcases h.reflects.getElem?_cases n with ⟨hi, hi'⟩ | ⟨i, i', hi, hi', subscriber, rfl, -⟩
  · rw [examineBy_of_not_installed forget x (by simp [hi]),
      examineBy_of_not_installed forget x (by simp [hi'])]
    exact ⟨h.reflects, .inl ⟨rfl, rfl⟩⟩
  by_cases hphase : i.phase = .installed
  case neg =>
    rw [examineBy_of_not_installed forget x (by simpa [hi] using hphase),
      examineBy_of_not_installed forget x (by simpa [hi'] using hphase)]
    exact ⟨h.reflects, .inl ⟨rfl, rfl⟩⟩
  by_cases htime : x.elapsedMs < r.engine.settings.minElapsedMs
  case pos =>
    rw [examineBy_of_short forget n htime, examineBy_of_short forget n (h.engine ▸ htime)]
    exact ⟨h.reflects, .inl ⟨rfl, rfl⟩⟩
  cases hseen : i.seen.contains (Fingerprint.ofSql x.sql) with
  | true =>
    rw [examineBy_of_seen forget hi hseen, examineBy_of_seen forget hi' hseen]
    exact ⟨h.reflects, .inl ⟨rfl, rfl⟩⟩
  | false =>
    have hlong := Nat.le_of_not_lt htime
    rw [examineBy_of_admitted forget hi hphase hlong hseen,
      examineBy_of_admitted forget hi' hphase (h.engine ▸ hlong) hseen]
    refine ⟨?_, ?_⟩
    · exact h.modify n (isBlind_seen _)
    · -- What is found does not depend on the name of the database.
      have hnil : ∀ dbPath, r.engine.issues i.policy dbPath r.time x = []
          ↔ r.engine.findings i.policy x.sql = [] :=
        fun dbPath => List.mapIdx_eq_nil_iff
      rw [h.engine, h.time]
      by_cases hnone : r.engine.findings i.policy x.sql = []
      · exact .inl ⟨(hnil _).mpr hnone, (hnil _).mpr hnone⟩
      · refine .inr ⟨mt (hnil _).mp hnone, mt (hnil _).mp hnone, i.dbPath,
          path?_eq_some_iff.mpr ⟨i, hi, rfl⟩,
          fun hpath => ?_⟩
        dsimp only
        rw [hpath]

/-- Issues are delivered in both registries or in none. -/
theorem publishBy (h : Mirrors μ r r') (hr : r.WellFormed) (hr' : r'.WellFormed)
    {uninstalls : List String} (hnamed : ∀ d ∈ uninstalls, μ.Named d) (n : Nat)
    (issues issues' : List Issue) :
    let done := r.publishBy uninstalls n issues
    let done' := r'.publishBy (uninstalls.map μ.name) n issues'
    Pointwise μ.Reflects done.2.installations done'.2.installations
      ∧ (done.1 = false ∧ done'.1 = false ∧ done.2.deliveries = r.deliveries
        ∧ done'.2.deliveries = r'.deliveries
        ∨ done.1 = true ∧ done'.1 = true ∧ ∃ d subscriber, r.life? n = some (d, .installed)
          ∧ done.2.deliveries = r.deliveries ++ [⟨n, subscriber, d, issues⟩]
          ∧ done'.2.deliveries
            = r'.deliveries ++ [⟨n, μ.toward d subscriber, μ.name d, issues'⟩]) := by
  dsimp only
  have hwell : ∀ {r : Registry} (deliveries : List Delivery), r.WellFormed →
      ({ r with deliveries } : Registry).WellFormed := fun _ hr =>
    ⟨fun hfind => hr.entry hfind, fun hlife => hr.latest hlife⟩
  rcases h.reflects.getElem?_cases n with ⟨hi, hi'⟩ | ⟨i, i', hi, hi', subscriber, rfl, hsubscriber⟩
  · rw [publishBy_of_not_installed _ _ (by simp [hi]),
      publishBy_of_not_installed _ _ (by simp [hi'])]
    exact ⟨h.reflects, .inl ⟨rfl, rfl, rfl, rfl⟩⟩
  by_cases hphase : i.phase = .installed
  case neg =>
    rw [publishBy_of_not_installed _ _ (by simpa [hi] using hphase),
      publishBy_of_not_installed _ _ (by simpa [hi'] using hphase)]
    exact ⟨h.reflects, .inl ⟨rfl, rfl, rfl, rfl⟩⟩
  have hlife : r.life? n = some (i.dbPath, .installed) := by rw [life?_of_getElem? hi, hphase]
  rw [publishBy_of_installed _ _ hi hphase, publishBy_of_installed _ _ hi' hphase]
  refine ⟨?_, .inr ⟨rfl, rfl, i.dbPath, i.subscriber, hlife, ?_, ?_⟩⟩
  · dsimp only
    rw [installations_uninstallEach (hwell _ hr), installations_uninstallEach (hwell _ hr')]
    exact h.changeIn (fun _ _ => h.mem_map_name_iff hnamed) (isBlind_phase (by decide))
  · exact (quiet_uninstallEach uninstalls _).deliveries
  · rw [(quiet_uninstallEach _ _).deliveries, hsubscriber hphase, ← h.agrees n _ hlife]

end Mirrors

end Run

end QueryLint
