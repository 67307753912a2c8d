import Mathlib.Data.List.Basic
import QueryLint.Proofs.Fingerprint.Seen
import QueryLint.Proofs.Registry.Run

/-!
# What the operations of a registry do

One statement for each way in which an operation can go: what it yields, and what the registry is
afterwards. Later proofs use these instead of the definitions.
-/

namespace QueryLint.Registry

open Fingerprint (Seen)

variable {r : Registry} {dbPath : String} {n m : Nat} {i : Installation}

/-! ### Looking things up -/

@[simp] theorem tell_installations (r : Registry) (notice : Notice) :
    (r.tell notice).installations = r.installations := rfl

@[simp] theorem tell_databases (r : Registry) (notice : Notice) :
    (r.tell notice).databases = r.databases := rfl

@[simp] theorem update_databases (r : Registry) (n : Nat) (f : Installation → Installation) :
    (r.update n f).databases = r.databases := rfl

/-- An update changes one installation, if it exists, and no other. -/
theorem getElem?_update (r : Registry) (n m : Nat) (f : Installation → Installation) :
    (r.update n f).installations[m]?
      = if n = m then r.installations[m]?.map f else r.installations[m]? := by
  simp only [update, List.getElem?_modify]
  split <;> simp_all

/-- A database that is found has an entry in the map, and the installation that the entry names. -/
theorem find?_eq_some_iff :
    r.find? dbPath = some (n, i)
      ↔ r.databases.find? dbPath = some n ∧ r.installations[n]? = some i := by
  simp only [find?, Option.bind_eq_bind, Option.pure_def, Option.bind_eq_some_iff,
    Option.some.injEq, Prod.mk.injEq]
  constructor
  · rintro ⟨k, hk, j, hj, rfl, rfl⟩
    exact ⟨hk, hj⟩
  · rintro ⟨hn, hi⟩
    exact ⟨n, hn, i, hi, rfl, rfl⟩

/-- A database that is found installed has an entry, and the installation of the entry is
installed. -/
theorem installed?_eq_some_iff :
    r.installed? dbPath = some (n, i)
      ↔ r.databases.find? dbPath = some n ∧ r.installations[n]? = some i
        ∧ i.phase = .installed := by
  rw [installed?, Option.filter_eq_some_iff, find?_eq_some_iff]
  simp [and_assoc]

/-- A database has no current installation exactly when none is found installed. -/
theorem current?_eq_none_iff : r.current? dbPath = none ↔ r.installed? dbPath = none := by
  rw [current?, Option.map_eq_none_iff]

/-! ### Installing, uninstalling and ending -/

/-- Installing a database that is not installed enters the next number in the map. -/
theorem install_databases (subscriber : Subscriber) (h : r.current? dbPath = none) :
    (r.install dbPath subscriber).databases
      = r.databases.insert dbPath r.installations.length := by
  unfold install
  rw [current?_eq_none_iff.mp h]
  rfl

/-- Installing a database that is not installed adds a fresh installation, with an empty memory and
queue. -/
theorem install_installations (subscriber : Subscriber) (h : r.current? dbPath = none) :
    (r.install dbPath subscriber).installations
      = r.installations
        ++ [.start dbPath subscriber r.engine.settings.maxSeenStatements] := by
  unfold install
  rw [current?_eq_none_iff.mp h]
  rfl

/-- Uninstalling a database that is not installed does nothing, and says so. -/
theorem uninstall_of_current?_eq_none (h : r.current? dbPath = none) :
    r.uninstall dbPath = (false, r) := by
  unfold uninstall
  rw [current?_eq_none_iff.mp h]

/-- Uninstalling an installed database only begins the end of its installation, and says so. -/
theorem uninstall_of_current?_eq_some (h : r.current? dbPath = some n) :
    r.uninstall dbPath = (true, r.update n fun i => { i with phase := .uninstalling }) := by
  obtain ⟨⟨k, i⟩, hi, rfl⟩ := Option.map_eq_some_iff.mp h
  unfold uninstall
  rw [hi]

/-- An installation that has something left to do is not ended. -/
theorem finish_of_not_isDone (h : r.installations[n]?.any Installation.isDone = false) :
    r.finish n = r := by
  unfold finish
  split
  · rfl
  · next i hi =>
    rw [hi, Option.any_some] at h
    rw [h]
    rfl

/-- The end of an installation leaves all others as they are. -/
theorem finish_installations (r : Registry) (hm : m ≠ n) :
    (r.finish n).installations[m]? = r.installations[m]? := by
  unfold finish
  split
  · rfl
  · split
    · dsimp only
      rw [tell_installations]
      split <;> exact (getElem?_update r n m _).trans (if_neg (Ne.symm hm))
    · rfl

/-! ### Executions and deliveries -/

/-- An execution that is slow enough and not yet seen is analyzed, and its fingerprint
remembered. -/
theorem examineBy_of_admitted (forget : Seen.Forgetting) {x : Execution}
    (hi : r.installations[n]? = some i) (hphase : i.phase = .installed)
    (htime : r.engine.settings.minElapsedMs ≤ x.elapsedMs)
    (hseen : i.seen.contains (Fingerprint.ofSql x.sql) = false) :
    r.examineBy forget n x
      = (r.engine.issues i.policy i.dbPath r.time x,
        { r.update n fun j =>
            { j with seen := (i.seen.insertBy forget (Fingerprint.ofSql x.sql)).2 } with
          notices := r.notices ++ List.replicate (r.engine.abandoned x.sql)
            (.abandoned i.dbPath r.engine.settings.maxDepth) }) := by
  have hnew : (i.seen.insertBy forget (Fingerprint.ofSql x.sql)).1 = true := by
    rw [Seen.insertBy_of_not_contains forget hseen]
  unfold examineBy
  rw [hi]
  dsimp only
  rw [if_neg (by simpa [hphase] using htime), hnew]
  rfl

/-- An execution that was too short leaves no trace. -/
theorem examineBy_of_short (forget : Seen.Forgetting) (n : Nat) {x : Execution}
    (htime : x.elapsedMs < r.engine.settings.minElapsedMs) : r.examineBy forget n x = ([], r) := by
  unfold examineBy
  split
  · rfl
  · rw [if_pos (by simp [htime])]

/-- A statement that was seen leaves no trace. -/
theorem examineBy_of_seen (forget : Seen.Forgetting) {x : Execution}
    (hi : r.installations[n]? = some i)
    (hseen : i.seen.contains (Fingerprint.ofSql x.sql) = true) :
    r.examineBy forget n x = ([], r) := by
  have hnew : (i.seen.insertBy forget (Fingerprint.ofSql x.sql)).1 = false := by
    rw [Seen.insertBy_of_contains forget hseen]
  unfold examineBy
  rw [hi]
  dsimp only
  rw [hnew]
  simp

/-- An execution that comes when the database is not installed finds nothing. -/
theorem examineBy_of_not_installed (forget : Seen.Forgetting) (x : Execution)
    (hi : ∀ i, r.installations[n]? = some i → i.phase ≠ .installed) :
    r.examineBy forget n x = ([], r) := by
  unfold examineBy
  split
  · rfl
  · next i hsome => simp [hi i hsome]

/-- Looking at an execution leaves no trace, or the execution is long enough and new on an
installation that is installed. -/
theorem examineBy_eq_or (forget : Seen.Forgetting) (r : Registry) (n : Nat) (x : Execution) :
    r.examineBy forget n x = ([], r)
      ∨ ∃ i, r.installations[n]? = some i ∧ i.phase = .installed
        ∧ r.engine.settings.minElapsedMs ≤ x.elapsedMs
        ∧ i.seen.contains (Fingerprint.ofSql x.sql) = false := by
  by_cases hi : ∃ i, r.installations[n]? = some i ∧ i.phase = .installed
  · obtain ⟨i, hi, hphase⟩ := hi
    by_cases htime : x.elapsedMs < r.engine.settings.minElapsedMs
    · exact .inl (examineBy_of_short forget n htime)
    · cases hseen : i.seen.contains (Fingerprint.ofSql x.sql) with
      | true => exact .inl (examineBy_of_seen forget hi hseen)
      | false => exact .inr ⟨i, hi, hphase, Nat.le_of_not_lt htime, hseen⟩
  · exact .inl (examineBy_of_not_installed forget x (by simpa using hi))

/-- Looking at an execution leaves the engine as it is. -/
theorem examineBy_engine (forget : Seen.Forgetting) (r : Registry) (n : Nat) (x : Execution) :
    (r.examineBy forget n x).2.engine = r.engine := by
  rcases examineBy_eq_or forget r n x with h | ⟨i, hi, hphase, htime, hseen⟩
  · rw [h]
  · rw [examineBy_of_admitted forget hi hphase htime hseen]
    rfl

/-- Looking at an execution delivers nothing. -/
theorem examineBy_deliveries (forget : Seen.Forgetting) (r : Registry) (n : Nat) (x : Execution) :
    (r.examineBy forget n x).2.deliveries = r.deliveries := by
  rcases examineBy_eq_or forget r n x with h | ⟨i, hi, hphase, htime, hseen⟩
  · rw [h]
  · rw [examineBy_of_admitted forget hi hphase htime hseen]
    rfl

/-- Looking at an execution changes no installation but in what it has seen. -/
theorem getElem?_examineBy (forget : Seen.Forgetting) (r : Registry) (n : Nat) (x : Execution)
    (m : Nat) :
    ∃ seen : Installation → Seen, (r.examineBy forget n x).2.installations[m]?
      = r.installations[m]?.map fun i => { i with seen := seen i } := by
  rcases examineBy_eq_or forget r n x with h | ⟨i, hi, hphase, htime, hseen⟩
  · rw [h]
    exact ⟨Installation.seen, by simp⟩
  · rw [examineBy_of_admitted forget hi hphase htime hseen]
    dsimp only
    rw [getElem?_update]
    split
    · exact ⟨_, rfl⟩
    · exact ⟨Installation.seen, by simp⟩

/-- Looking at an execution on one installation leaves all others as they are. -/
theorem getElem?_examineBy_of_ne (forget : Seen.Forgetting) (r : Registry) (x : Execution)
    (hm : m ≠ n) : (r.examineBy forget n x).2.installations[m]? = r.installations[m]? := by
  rcases examineBy_eq_or forget r n x with h | ⟨i, hi, hphase, htime, hseen⟩
  · rw [h]
  · rw [examineBy_of_admitted forget hi hphase htime hseen]
    exact (getElem?_update r n m _).trans (if_neg (Ne.symm hm))

/-- A batch is delivered to an installed database; what its subscriber uninstalls comes
afterwards. -/
theorem publishBy_of_installed (uninstalls : List String) (issues : List Issue)
    (hi : r.installations[n]? = some i) (hphase : i.phase = .installed) :
    r.publishBy uninstalls n issues
      = (true, (uninstallEach uninstalls
        { r with deliveries := r.deliveries ++ [⟨n, i.subscriber, i.dbPath, issues⟩] }).2) := by
  unfold publishBy
  rw [hi]
  simp [hphase]

/-- A batch is dropped if the database is no longer installed. -/
theorem publishBy_of_not_installed (uninstalls : List String) (issues : List Issue)
    (hi : ∀ i, r.installations[n]? = some i → i.phase ≠ .installed) :
    r.publishBy uninstalls n issues = (false, r) := by
  unfold publishBy
  split
  · rfl
  · next i hsome => simp [hi i hsome]

end QueryLint.Registry
