import Mathlib.Data.List.Induction
import Mathlib.Data.List.Nodup
import QueryLint.Proofs.Registry.Evolution

/-!
# The lifecycle of a database

Where a database stands is told by the history of the run alone (`phaseAfter`): it is installed if
the last effective call for it was an installation, it is being uninstalled if that call was an
uninstallation that is not over, and otherwise it is uninstalled. `Ledger` ties the history to the
registry: it says of every installation whether it was ended and whether it is over, and of every
database which installation its last effective call left behind. Every change of lives keeps it.
-/

namespace QueryLint.Run

open Registry

/-- Whether an event is a call that changed the life of a database: an installation of it, or an
uninstallation of it that began to end one. -/
def Event.isEffectiveCall (dbPath : String) : Event → Bool
  | install d _ => d == dbPath
  | uninstall d (some _) => d == dbPath
  | _ => false

/-- The installation that an event began to end. -/
def Event.ending? : Event → Option Nat
  | uninstall _ installation => installation
  | _ => none

/-- The installation that was over with an event. -/
def Event.ended? : Event → Option Nat
  | ended installation => some installation
  | _ => none

/-- The installation that an effective call began or began to end. -/
def Event.installation? : Event → Option Nat
  | install _ installation => some installation
  | uninstall _ installation => installation
  | _ => none

/-- The last call in a history that changed the life of a database. -/
def lastEffectiveCall (dbPath : String) (history : List Event) : Option Event :=
  history.reverse.find? (Event.isEffectiveCall dbPath)

/-- Where a database stands after a history. -/
def phaseAfter (dbPath : String) (history : List Event) : Phase :=
  match lastEffectiveCall dbPath history with
  | some (.install _ _) => .installed
  | some (.uninstall _ (some n)) => if .ended n ∈ history then .uninstalled else .uninstalling
  | _ => .uninstalled

/-- The last effective call is the one that happened last, if it was one. -/
theorem lastEffectiveCall_concat (dbPath : String) (history : List Event) (e : Event) :
    lastEffectiveCall dbPath (history ++ [e])
      = if e.isEffectiveCall dbPath then some e else lastEffectiveCall dbPath history := by
  rw [lastEffectiveCall, List.reverse_append, List.reverse_singleton, List.singleton_append,
    List.find?_cons]
  cases e.isEffectiveCall dbPath <;> rfl

/-- An event that names an installation of its call installs or uninstalls a database. -/
theorem Event.eq_of_installation? {e : Event} {n : Nat} (h : e.installation? = some n) :
    (∃ d, e = .install d n) ∨ ∃ d, e = .uninstall d (some n) := by
  cases e with
  | install d m =>
    cases h
    exact .inl ⟨d, rfl⟩
  | uninstall d ended =>
    cases h
    exact .inr ⟨d, rfl⟩
  | ended m => cases h
  | examine m x => cases h

/-! ### What the history says of the registry -/

/-- A database and the installation that its last effective call left behind agree with the
registry. -/
def LastCallAgrees (r : Registry) (history : List Event) (dbPath : String) : Prop :=
  match lastEffectiveCall dbPath history with
  | some (.install _ n) => r.life? n = some (dbPath, .installed)
  | some (.uninstall _ (some n)) =>
    if .ended n ∈ history then
      r.databases.find? dbPath = none ∧ r.life? n = some (dbPath, .uninstalled)
    else r.databases.find? dbPath = some n ∧ r.life? n = some (dbPath, .uninstalling)
  | _ => r.databases.find? dbPath = none

/-- Each call of `uninstall` in a history began to end an installation exactly if the database was
installed just before. -/
def UninstallsInstalled (history : List Event) : Prop :=
  ∀ before dbPath ended after, history = before ++ .uninstall dbPath ended :: after →
    (ended.isSome ↔ phaseAfter dbPath before = .installed)

/-- What the history of a run says of the registry that the run leads to. -/
structure Ledger (r : Registry) (history : List Event) : Prop where
  wellFormed : r.WellFormed
  mem_ending_iff : ∀ n, n ∈ history.filterMap Event.ending?
    ↔ ∃ d p, r.life? n = some (d, p) ∧ p ≠ .installed
  mem_ended_iff : ∀ n, .ended n ∈ history ↔ ∃ d, r.life? n = some (d, .uninstalled)
  lastCallAgrees : ∀ dbPath, LastCallAgrees r history dbPath
  uninstallsInstalled : UninstallsInstalled history
  nodup_ending : (history.filterMap Event.ending?).Nodup
  nodup_ended : (history.filterMap Event.ended?).Nodup

/-- The ended installations of a history are those of its ends. -/
theorem mem_filterMap_ended? {history : List Event} {n : Nat} :
    n ∈ history.filterMap Event.ended? ↔ .ended n ∈ history := by
  rw [List.mem_filterMap]
  constructor
  · rintro ⟨e, he, hn⟩
    cases e <;> simp only [Event.ended?, Option.some.injEq, reduceCtorEq] at hn
    rwa [← hn]
  · exact fun h => ⟨_, h, rfl⟩

/-- What happens last adds nothing to a selection that passes it over. -/
theorem filterMap_concat_of_none {f : Event → Option Nat} {e : Event} (h : f e = none)
    (history : List Event) : (history ++ [e]).filterMap f = history.filterMap f := by
  rw [List.filterMap_append, List.filterMap_cons_none h, List.filterMap_nil, List.append_nil]

/-- What happens last is selected last. -/
theorem filterMap_concat_of_some {f : Event → Option Nat} {e : Event} {n : Nat} (h : f e = some n)
    (history : List Event) : (history ++ [e]).filterMap f = history.filterMap f ++ [n] := by
  rw [List.filterMap_append, List.filterMap_cons_some h, List.filterMap_nil]

variable {r r' : Registry} {history events : List Event} {dbPath : String} {n : Nat}

namespace Ledger

/-- The ledger of a new registry is empty. -/
theorem new (engine : Engine) (time : Nat) : Ledger (.new engine time) [] where
  wellFormed := by
    refine ⟨fun h => ?_, fun h => ?_⟩
    · simp [Registry.new, OrderedMap.empty, OrderedMap.find?] at h
    · simp [Registry.new, life?] at h
  mem_ending_iff := by simp [Registry.new, life?]
  mem_ended_iff := by simp [Registry.new, life?]
  lastCallAgrees _ := rfl
  uninstallsInstalled := by simp [UninstallsInstalled]
  nodup_ending := List.nodup_nil
  nodup_ended := List.nodup_nil

/-- The phase of a database is the one that the history tells. -/
theorem phase_eq (h : Ledger r history) (dbPath : String) :
    r.phase dbPath = phaseAfter dbPath history := by
  have hagrees := h.lastCallAgrees dbPath
  unfold LastCallAgrees at hagrees
  unfold phaseAfter
  split at hagrees
  · next n _ =>
    exact (phase_eq_iff (by decide)).mpr ⟨n, dbPath, h.wellFormed.latest hagrees, hagrees⟩
  · next n _ =>
    split at hagrees
    · next hended => rw [if_pos hended]; simp [phase, find?, hagrees.1]
    · next hended =>
      rw [if_neg hended]
      exact (phase_eq_iff (by decide)).mpr ⟨n, dbPath, hagrees⟩
  · simp [phase, find?, hagrees]

/-- A database has a current installation exactly if it is installed after its last effective
call. -/
theorem current?_isSome_iff (h : Ledger r history) (dbPath : String) :
    (r.current? dbPath).isSome ↔ phaseAfter dbPath history = .installed := by
  rw [← h.phase_eq, phase_eq_installed_iff, Option.isSome_iff_exists]

end Ledger

/-- One more event keeps the law of uninstallations, if it obeys the law itself. -/
theorem UninstallsInstalled.concat (h : UninstallsInstalled history) {e : Event}
    (he : ∀ dbPath ended, e = .uninstall dbPath ended →
      (ended.isSome ↔ phaseAfter dbPath history = .installed)) :
    UninstallsInstalled (history ++ [e]) := by
  intro before d ended after hsplit
  rcases List.eq_nil_or_concat after with rfl | ⟨rest, last, rfl⟩
  · obtain ⟨rfl, hlast⟩ := List.append_inj' hsplit rfl
    exact he d ended (List.cons.inj hlast).1
  · rw [List.concat_eq_append, ← List.cons_append, ← List.append_assoc] at hsplit
    exact h before d ended rest (List.append_inj' hsplit rfl).1

/-- The last effective call left an installation of its database behind. -/
theorem LastCallAgrees.life?_eq (h : LastCallAgrees r history dbPath)
    (hn : (lastEffectiveCall dbPath history).bind Event.installation? = some n) :
    ∃ p, r.life? n = some (dbPath, p) := by
  obtain ⟨e, he, hen⟩ := Option.bind_eq_some_iff.mp hn
  unfold LastCallAgrees at h
  rw [he] at h
  rcases Event.eq_of_installation? hen with ⟨d, rfl⟩ | ⟨d, rfl⟩
  · exact ⟨_, h⟩
  · dsimp only at h
    split at h
    · exact ⟨_, h.2⟩
    · exact ⟨_, h.2⟩

/-- The map of databases names no installation but the one that the last effective call left
behind. -/
theorem LastCallAgrees.find?_eq (h : LastCallAgrees r history dbPath) (hr : r.WellFormed)
    (hn : r.databases.find? dbPath = some n) :
    (lastEffectiveCall dbPath history).bind Event.installation? = some n := by
  unfold LastCallAgrees at h
  generalize lastEffectiveCall dbPath history = call at h
  split at h
  · rw [hr.latest h] at hn
    exact hn
  · split at h
    · rw [hn] at h
      cases h.1
    · rw [h.1] at hn
      exact hn
  · rw [hn] at h
    cases h

/-- A database that a change does not concern still agrees with its last effective call. -/
theorem LastCallAgrees.of_unconcerned {history' : List Event} (h : LastCallAgrees r history dbPath)
    (hcall : lastEffectiveCall dbPath history' = lastEffectiveCall dbPath history)
    (hfind : r'.databases.find? dbPath = r.databases.find? dbPath)
    (hkept : ∀ n, (lastEffectiveCall dbPath history).bind Event.installation? = some n →
      r'.life? n = r.life? n ∧ (.ended n ∈ history' ↔ .ended n ∈ history)) :
    LastCallAgrees r' history' dbPath := by
  unfold LastCallAgrees at h ⊢
  rw [hcall, hfind]
  generalize lastEffectiveCall dbPath history = call at h hkept ⊢
  rcases call with _ | (⟨d, n⟩ | ⟨d, _ | n⟩ | n | ⟨n, x⟩)
  · exact h
  · exact (hkept n rfl).1.trans h
  · exact h
  · obtain ⟨hlife, hended⟩ := hkept n rfl
    dsimp only at h ⊢
    rw [hlife, if_congr hended rfl rfl]
    exact h
  · exact h
  · exact h

/-- An event that is no effective call for a database and ends no installation does not concern
it. -/
theorem LastCallAgrees.concat (h : LastCallAgrees r history dbPath) {e : Event}
    (hcall : e.isEffectiveCall dbPath = false) (hended : e.ended? = none) :
    LastCallAgrees r (history ++ [e]) dbPath := by
  refine h.of_unconcerned ?_ rfl fun n _ => ⟨rfl, ?_⟩
  · rw [lastEffectiveCall_concat, hcall, if_neg Bool.false_ne_true]
  · rw [← mem_filterMap_ended?, filterMap_concat_of_none hended, mem_filterMap_ended?]

namespace Ledger

/-- A ledger only speaks of lives. -/
theorem of_sameLives (h : Ledger r history) (hl : SameLives r r') : Ledger r' history where
  wellFormed := by
    refine ⟨fun hn => ?_, fun hn => ?_⟩
    · rw [hl.life?]
      exact h.wellFormed.entry (hl.databases ▸ hn)
    · rw [hl.databases]
      exact h.wellFormed.latest (hl.life? _ ▸ hn)
  mem_ending_iff n := by rw [hl.life?]; exact h.mem_ending_iff n
  mem_ended_iff n := by rw [hl.life?]; exact h.mem_ended_iff n
  lastCallAgrees dbPath :=
    (h.lastCallAgrees dbPath).of_unconcerned rfl (by rw [hl.databases])
      fun n _ => ⟨hl.life? n, Iff.rfl⟩
  uninstallsInstalled := h.uninstallsInstalled
  nodup_ending := h.nodup_ending
  nodup_ended := h.nodup_ended

/-- An event that neither begins to end an installation nor ends one only has to agree with the last
effective calls. -/
theorem concat (h : Ledger r history) {e : Event} (hending : e.ending? = none)
    (hended : e.ended? = none) (hcalls : ∀ dbPath, LastCallAgrees r (history ++ [e]) dbPath)
    (huninstall : ∀ dbPath ended, e = .uninstall dbPath ended →
      (ended.isSome ↔ phaseAfter dbPath history = .installed)) :
    Ledger r (history ++ [e]) where
  wellFormed := h.wellFormed
  mem_ending_iff n := by
    rw [filterMap_concat_of_none hending]
    exact h.mem_ending_iff n
  mem_ended_iff n := by
    rw [← mem_filterMap_ended?, filterMap_concat_of_none hended, mem_filterMap_ended?]
    exact h.mem_ended_iff n
  lastCallAgrees := hcalls
  uninstallsInstalled := h.uninstallsInstalled.concat huninstall
  nodup_ending := by
    rw [filterMap_concat_of_none hending]
    exact h.nodup_ending
  nodup_ended := by
    rw [filterMap_concat_of_none hended]
    exact h.nodup_ended

/-- Installing a database anew keeps the ledger. -/
theorem install (h : Ledger r history) (hn : r.current? dbPath = none)
    (hd : r'.databases = r.databases.insert dbPath r.installations.length)
    (hl : ∀ m, r'.life? m
      = if m = r.installations.length then some (dbPath, .installed) else r.life? m) :
    Ledger r' (history ++ [.install dbPath r.installations.length]) where
  wellFormed := h.wellFormed.install hn hd hl
  mem_ending_iff n := by
    rw [filterMap_concat_of_none rfl, h.mem_ending_iff, hl]
    split
    · next hm => simp [hm, life?_eq_none_iff.mpr (Nat.le_refl _)]
    · rfl
  mem_ended_iff n := by
    rw [List.mem_append, List.mem_singleton, h.mem_ended_iff, hl]
    split
    · next hm => simp [hm, life?_eq_none_iff.mpr (Nat.le_refl _)]
    · simp
  lastCallAgrees d := by
    by_cases hdb : d = dbPath
    · unfold LastCallAgrees
      rw [lastEffectiveCall_concat, if_pos (by simp [Event.isEffectiveCall, hdb])]
      dsimp only
      rw [hl, if_pos rfl, hdb]
    · apply (h.lastCallAgrees d).of_unconcerned
      · rw [lastEffectiveCall_concat, if_neg (by simp [Event.isEffectiveCall, Ne.symm hdb])]
      · rw [hd, OrderedMap.find?_insert, if_neg (by simpa using hdb)]
      · intro m hm
        obtain ⟨p, hp⟩ := (h.lastCallAgrees d).life?_eq hm
        exact ⟨by rw [hl, if_neg (Nat.ne_of_lt (lt_length_of_life? hp))], by simp⟩
  uninstallsInstalled := h.uninstallsInstalled.concat (by simp)
  nodup_ending := by
    rw [filterMap_concat_of_none rfl]
    exact h.nodup_ending
  nodup_ended := by
    rw [filterMap_concat_of_none rfl]
    exact h.nodup_ended

/-- Beginning to end an installation keeps the ledger. -/
theorem uninstall (h : Ledger r history) (hn : r.current? dbPath = some n)
    (hd : r'.databases = r.databases)
    (hl : ∀ m, r'.life? m
      = if m = n then (r.life? m).map fun l => (l.1, .uninstalling) else r.life? m) :
    Ledger r' (history ++ [.uninstall dbPath (some n)]) := by
  have hlife : r.life? n = some (dbPath, .installed) :=
    h.wellFormed.current?_eq_some_iff.mp hn
  have hlife' : r'.life? n = some (dbPath, .uninstalling) := by rw [hl, if_pos rfl, hlife]; rfl
  have hfresh : n ∉ history.filterMap Event.ending? := by simp [h.mem_ending_iff, hlife]
  have hended : .ended n ∉ history := by simp [h.mem_ended_iff, hlife]
  refine
    { wellFormed := h.wellFormed.uninstall hd hl
      mem_ending_iff := fun m => ?_
      mem_ended_iff := fun m => ?_
      lastCallAgrees := fun d => ?_
      uninstallsInstalled := h.uninstallsInstalled.concat ?_
      nodup_ending := ?_
      nodup_ended := by rw [filterMap_concat_of_none rfl]; exact h.nodup_ended }
  · rw [filterMap_concat_of_some rfl, List.mem_append, h.mem_ending_iff]
    by_cases hm : m = n
    · subst hm
      simp [hlife']
    · rw [hl, if_neg hm]
      simp [hm]
  · rw [List.mem_append, h.mem_ended_iff]
    by_cases hm : m = n
    · subst hm
      simp [hlife', hlife]
    · rw [hl, if_neg hm]
      simp
  -- For the database itself this is the last effective call; for all others nothing has happened.
  · by_cases hdb : d = dbPath
    · unfold LastCallAgrees
      rw [lastEffectiveCall_concat, if_pos (by simp [Event.isEffectiveCall, hdb])]
      dsimp only
      rw [if_neg (by simp [hended]), hd, hdb]
      exact ⟨h.wellFormed.latest hlife, hlife'⟩
    · apply (h.lastCallAgrees d).of_unconcerned
      · rw [lastEffectiveCall_concat, if_neg (by simp [Event.isEffectiveCall, Ne.symm hdb])]
      · rw [hd]
      · intro m hm
        obtain ⟨p, hp⟩ := (h.lastCallAgrees d).life?_eq hm
        have hne : m ≠ n := by
          rintro rfl
          rw [hlife] at hp
          cases hp
          exact hdb rfl
        exact ⟨by rw [hl, if_neg hne], by simp⟩
  · rintro d ended heq
    cases heq
    rw [← h.current?_isSome_iff, hn]
  · rw [filterMap_concat_of_some rfl, ← List.concat_eq_append]
    exact h.nodup_ending.concat hfresh

/-- The end of an installation keeps the ledger. -/
theorem ended (h : Ledger r history) (hn : r.life? n = some (dbPath, .uninstalling))
    (hd : r'.databases
      = if r.databases.find? dbPath = some n then r.databases.erase dbPath else r.databases)
    (hl : ∀ m, r'.life? m = if m = n then some (dbPath, .uninstalled) else r.life? m) :
    Ledger r' (history ++ [.ended n]) := by
  have hlife' : r'.life? n = some (dbPath, .uninstalled) := by rw [hl, if_pos rfl]
  have hended : .ended n ∉ history := by simp [h.mem_ended_iff, hn]
  refine
    { wellFormed := h.wellFormed.ended hn hd hl
      mem_ending_iff := fun m => ?_
      mem_ended_iff := fun m => ?_
      lastCallAgrees := fun d => ?_
      uninstallsInstalled := h.uninstallsInstalled.concat (by simp)
      nodup_ending := by rw [filterMap_concat_of_none rfl]; exact h.nodup_ending
      nodup_ended := ?_ }
  · rw [filterMap_concat_of_none rfl, h.mem_ending_iff]
    by_cases hm : m = n
    · subst hm
      simp [hlife', hn]
    · rw [hl, if_neg hm]
  · rw [List.mem_append, h.mem_ended_iff]
    by_cases hm : m = n
    · subst hm
      simp [hlife']
    · rw [hl, if_neg hm]
      simp [hm]
  · have hfind := h.wellFormed.find?_ended hn hd d
    have hcall : lastEffectiveCall d (history ++ [.ended n]) = lastEffectiveCall d history := by
      rw [lastEffectiveCall_concat, if_neg (by simp [Event.isEffectiveCall])]
    by_cases hlast : (lastEffectiveCall d history).bind Event.installation? = some n
    · -- The installation that ends is the one that the last effective call began to end.
      have hagrees := h.lastCallAgrees d
      obtain ⟨e, he, hen⟩ := Option.bind_eq_some_iff.mp hlast
      unfold LastCallAgrees at hagrees ⊢
      rw [he] at hagrees
      rw [hcall, hfind, he]
      rcases Event.eq_of_installation? hen with ⟨d', rfl⟩ | ⟨d', rfl⟩
      · dsimp only at hagrees
        rw [hn] at hagrees
        cases hagrees
      · dsimp only at hagrees ⊢
        rw [if_neg hended, hn] at hagrees
        cases hagrees.2
        rw [if_pos (by simp), if_pos hagrees.1]
        exact ⟨rfl, hlife'⟩
    · apply (h.lastCallAgrees d).of_unconcerned hcall
      · rw [hfind, if_neg (mt ((h.lastCallAgrees d).find?_eq h.wellFormed) hlast)]
      · intro m hm
        have hne : m ≠ n := by
          rintro rfl
          exact hlast hm
        exact ⟨by rw [hl, if_neg hne], by simp [hne]⟩
  · rw [filterMap_concat_of_some rfl, ← List.concat_eq_append]
    exact h.nodup_ended.concat (by rwa [mem_filterMap_ended?])

/-- Every change of lives keeps the ledger. -/
theorem evolve (h : Ledger r history) (he : Evolves r events r') :
    Ledger r' (history ++ events) := by
  induction he generalizing history with
  | keep hl =>
    rw [List.append_nil]
    exact h.of_sameLives hl
  | examine n x hl =>
    have h' := h.of_sameLives hl
    exact h'.concat rfl rfl (fun d => (h'.lastCallAgrees d).concat rfl rfl) (by simp)
  | @reinstall r r' dbPath n hn hl =>
    have h' := h.of_sameLives hl
    refine h'.concat rfl rfl (fun d => ?_) (by simp)
    by_cases hdb : d = dbPath
    · unfold LastCallAgrees
      rw [lastEffectiveCall_concat, if_pos (by simp [Event.isEffectiveCall, hdb])]
      dsimp only
      rw [hdb, ← h'.wellFormed.current?_eq_some_iff, hl.current?_eq]
      exact hn
    · exact (h'.lastCallAgrees d).concat (by simpa [Event.isEffectiveCall] using Ne.symm hdb) rfl
  | install hn hd hl => exact h.install hn hd hl
  | @ignore r dbPath hn =>
    refine h.concat rfl rfl (fun d => (h.lastCallAgrees d).concat rfl rfl) fun d ended heq => ?_
    cases heq
    rw [← h.current?_isSome_iff, hn]
  | uninstall hn hd hl => exact h.uninstall hn hd hl
  | ended hn hd hl => exact h.ended hn hd hl
  | trans _ _ ih ih' =>
    rw [← List.append_assoc]
    exact ih' (ih h)

/-- Every step of a run keeps the ledger. -/
theorem step {s : Situation} (h : Ledger s.registry s.history) (st : Step) :
    Ledger (s.step st).registry (s.step st).history := by
  obtain ⟨events, hhistory, he⟩ := s.evolves_step st
  rw [hhistory]
  exact h.evolve he

/-- The ledger is right after every run. -/
theorem run (engine : Engine) (time : Nat) (steps : List Step) :
    Ledger ((Situation.start engine time).run steps).registry
      ((Situation.start engine time).run steps).history := by
  induction steps using List.reverseRecOn with
  | nil => exact .new engine time
  | append_singleton steps last ih =>
    rw [Situation.run_concat]
    exact ih.step last

end Ledger

/-- Where a database stands is told by its last effective call: it is installed after an
installation, it is being uninstalled after an uninstallation that is not over, and otherwise it is
uninstalled. A call of `uninstall` begins to end an installation exactly if the database is
installed just before, whether it comes from outside, from a shutdown or from a subscriber. No
installation is ended twice, and the end of one never changes another, nor takes another from its
database. -/
theorem phase_eq_phaseAfter (engine : Engine) (time : Nat) (steps : List Step) (dbPath : String) :
    let s := (Situation.start engine time).run steps
    s.registry.phase dbPath = phaseAfter dbPath s.history
      ∧ ((s.registry.uninstall dbPath).1 = true ↔ s.registry.phase dbPath = .installed)
      ∧ UninstallsInstalled s.history
      ∧ (s.history.filterMap Event.ending?).Nodup
      ∧ (s.history.filterMap Event.ended?).Nodup
      ∧ (∀ n, .ended n ∈ s.history → n ∈ s.history.filterMap Event.ending?)
      ∧ ∀ n m, m ≠ n →
        (s.finish n).registry.installations[m]? = s.registry.installations[m]?
          ∧ ∀ i, s.registry.find? dbPath = some (m, i) →
            (s.finish n).registry.find? dbPath = some (m, i) := by
  intro s
  have h := Ledger.run engine time steps
  refine ⟨h.phase_eq dbPath, uninstall_eq_true_iff, h.uninstallsInstalled, h.nodup_ending,
    h.nodup_ended, fun n hn => ?_, fun n m hm => ?_⟩
  · obtain ⟨d, hd⟩ := (h.mem_ended_iff n).mp hn
    exact (h.mem_ending_iff n).mpr ⟨d, _, hd, by decide⟩
  · exact ⟨finish_installations s.registry hm, fun i hi => finish_find? hm hi⟩

end QueryLint.Run
