import QueryLint.Proofs.OrderedMap
import QueryLint.Proofs.Registry.Agreement

/-!
# What a registry holds of one database

All installations stand in one list, and all deliveries in another. The share of a database
(`Registry.share`) is what of both concerns it, with its installations numbered among themselves
(`Registry.rank`) and without the times.

Most operations are changes of a single installation (`Touches`). Such a change leaves the shares of
all other databases as they are (`Touches.share_eq`), and what it does to the share of its own
database depends on nothing but that share (`share_update`, `share_deliver`, `share_erase`). Only
installing a database anew is of another kind: it makes the list of installations longer
(`share_install_of_ne`, `share_install_self`).
-/

namespace QueryLint

/-! ### Members of a list, numbered among themselves -/

section Ranks

variable {α : Type} {p : α → Bool} {l : List α} {n m : Nat} {a : α}

/-- A member that is kept stands in the filtered list behind as many as were kept before it. -/
theorem getElem?_filter_countP_take (h : l[n]? = some a) (hp : p a) :
    (l.filter p)[(l.take n).countP p]? = some a := by
  induction l generalizing n with
  | nil => simp at h
  | cons b rest ih =>
    cases n with
    | zero =>
      obtain rfl : b = a := by simpa using h
      simp [hp]
    | succ n =>
      have hrest := ih (n := n) (by simpa using h)
      cases hb : p b <;> simpa [List.filter_cons, hb] using hrest

/-- More members are kept up to a later place than up to an earlier one that is kept. -/
theorem countP_take_lt (h : l[n]? = some a) (hp : p a) (hlt : n < m) :
    (l.take n).countP p < (l.take m).countP p := by
  have hnext : (l.take (n + 1)).countP p = (l.take n).countP p + 1 := by
    rw [List.take_add_one, h, List.countP_append]
    simp [hp]
  have hle : (l.take (n + 1)).countP p ≤ (l.take m).countP p :=
    (List.take_prefix_take_left hlt).sublist.countP_le
  omega

/-- Different members that count have different numbers among those that count. -/
theorem countP_take_inj {b : α} (hn : l[n]? = some a) (hpn : p a) (hm : l[m]? = some b) (hpm : p b)
    (h : (l.take n).countP p = (l.take m).countP p) : n = m := by
  rcases Nat.lt_trichotomy n m with hlt | rfl | hlt
  · exact absurd h (Nat.ne_of_lt (countP_take_lt hn hpn hlt))
  · rfl
  · exact absurd h.symm (Nat.ne_of_lt (countP_take_lt hm hpm hlt))

/-- Changing a kept member changes it in the filtered list as well. -/
theorem filter_modify_of_pos {f : α → α} (h : l[n]? = some a) (hp : p a) (hf : p (f a)) :
    (l.modify n f).filter p = (l.filter p).modify ((l.take n).countP p) f := by
  induction l generalizing n with
  | nil => simp at h
  | cons b rest ih =>
    cases n with
    | zero =>
      obtain rfl : b = a := by simpa using h
      simp [hp, hf]
    | succ n =>
      have hrest := ih (n := n) (by simpa using h)
      cases hb : p b <;> simp [hb, hrest]

/-- Changing a member that is dropped leaves the filtered list as it is. -/
theorem filter_modify_of_neg {f : α → α} (h : l[n]? = some a) (hp : p a = false)
    (hf : p (f a) = false) : (l.modify n f).filter p = l.filter p := by
  induction l generalizing n with
  | nil => simp at h
  | cons b rest ih =>
    cases n with
    | zero =>
      obtain rfl : b = a := by simpa using h
      simp [hp, hf]
    | succ n =>
      have hrest := ih (n := n) (by simpa using h)
      cases hb : p b <;> simp [hb, hrest]

/-- Those that count are numbered from zero on without gaps. -/
theorem map_countP_take (p : α → Bool) (l : List α) :
    (((List.range l.length).filter fun n => l[n]?.any p).map fun n => (l.take n).countP p)
      = List.range (l.filter p).length := by
  induction l using List.reverseRecOn with
  | nil => rfl
  | append_singleton l a ih =>
    have hold : ((List.range l.length).filter fun n => (l ++ [a])[n]?.any p)
        = (List.range l.length).filter fun n => l[n]?.any p := by
      refine List.filter_congr fun n hn => ?_
      rw [List.getElem?_append_left (List.mem_range.mp hn)]
    have hnumbers : (((List.range l.length).filter fun n => l[n]?.any p).map
          fun n => ((l ++ [a]).take n).countP p)
        = ((List.range l.length).filter fun n => l[n]?.any p).map fun n => (l.take n).countP p := by
      refine List.map_congr_left fun n hn => ?_
      have hlt := List.mem_range.mp (List.mem_filter.mp hn).1
      rw [List.take_append_of_le_length (Nat.le_of_lt hlt)]
    rw [List.length_append, List.length_singleton, List.range_succ, List.filter_append,
      List.map_append, hold, hnumbers, ih, List.filter_append]
    cases ha : p a
    · simp [ha]
    · simp [ha, List.range_succ, List.countP_eq_length_filter]

end Ranks

/-! ### Shares -/

/-- An installation that is over has no work left. -/
def Installation.IsTidy (i : Installation) : Prop := i.phase = .uninstalled → i.queue = []

/-- A delivery without the number of the installation it comes from. -/
def Delivery.numberless (d : Delivery) : Delivery := { d with installation := 0 }

/-- What concerns a database in a registry, its installations numbered among themselves. -/
structure Share where
  engine : Engine
  installations : List Installation
  /-- The installations that the map of databases names. -/
  entries : List Nat
  /-- What was delivered from the database, apart from the times. -/
  deliveries : List Delivery

namespace Share

/-- The share with a changed installation. -/
def update (s : Share) (k : Nat) (f : Installation → Installation) : Share :=
  { s with installations := s.installations.modify k f }

/-- The share with one more delivery. -/
def deliver (s : Share) (d : Delivery) : Share := { s with deliveries := s.deliveries ++ [d] }

/-- What was delivered from an installation. -/
def deliveredFrom (s : Share) (k : Nat) : List Delivery :=
  s.deliveries.filter fun d => d.installation == k

end Share

namespace Registry

variable {r r' r'' : Registry} {dbPath other : String} {n m : Nat} {i : Installation}

/-- The database of the installation of a number. -/
def path? (r : Registry) (n : Nat) : Option String := r.installations[n]?.map Installation.dbPath

/-- How many installations of a database began before the one of a number. -/
def rank (dbPath : String) (r : Registry) (n : Nat) : Nat :=
  (r.installations.take n).countP fun i => i.dbPath == dbPath

/-- What concerns a database in a registry. -/
def share (dbPath : String) (r : Registry) : Share where
  engine := r.engine
  installations := r.installations.filter fun i => i.dbPath == dbPath
  entries := (r.databases.entries.filter fun e => e.1 == dbPath).map fun e => r.rank dbPath e.2
  deliveries := (r.deliveries.filter fun d => d.dbPath == dbPath).map fun d =>
    { d.timeless with installation := r.rank dbPath d.installation }

/-- The numbers of the installations of a database. -/
def numbersOf (dbPath : String) (r : Registry) : List Nat :=
  (List.range r.installations.length).filter fun n => r.path? n == some dbPath

/-- An installation has the path of its database. -/
theorem path?_eq_some_iff :
    r.path? n = some dbPath ↔ ∃ i, r.installations[n]? = some i ∧ i.dbPath = dbPath :=
  Option.map_eq_some_iff

/-- A life tells the path of its installation. -/
theorem path?_of_life? {p : Phase} (h : r.life? n = some (dbPath, p)) :
    r.path? n = some dbPath := by
  obtain ⟨i, hi, hpath, -⟩ := life?_eq_some_iff.mp h
  exact path?_eq_some_iff.mpr ⟨i, hi, hpath⟩

/-- Only installations that exist have a path. -/
theorem lt_length_of_path? (h : r.path? n = some dbPath) : n < r.installations.length := by
  obtain ⟨i, hi, -⟩ := path?_eq_some_iff.mp h
  exact (List.getElem?_eq_some_iff.mp hi).1

/-- The installation of a number stands in the share of its database at its rank. -/
theorem getElem?_share (hi : r.installations[n]? = some i) (hpath : i.dbPath = dbPath) :
    (r.share dbPath).installations[r.rank dbPath n]? = some i :=
  getElem?_filter_countP_take hi (beq_iff_eq.mpr hpath)

/-- Among the installations of one database the rank tells them apart. -/
theorem rank_inj (hn : r.path? n = some dbPath) (hm : r.path? m = some dbPath)
    (h : r.rank dbPath n = r.rank dbPath m) : n = m := by
  obtain ⟨i, hi, hpath⟩ := path?_eq_some_iff.mp hn
  obtain ⟨j, hj, hpath'⟩ := path?_eq_some_iff.mp hm
  exact countP_take_inj (p := fun i : Installation => i.dbPath == dbPath) hi
    (beq_iff_eq.mpr hpath) hj
    (beq_iff_eq.mpr hpath') h

/-- The installations of a database are ranked one after the other, from zero. -/
theorem map_rank_numbersOf (dbPath : String) (r : Registry) :
    (r.numbersOf dbPath).map (r.rank dbPath)
      = List.range (r.share dbPath).installations.length := by
  have hown : (fun n => r.path? n == some dbPath)
      = fun n => r.installations[n]?.any fun i => i.dbPath == dbPath := by
    funext n
    rw [path?]
    cases r.installations[n]? <;> rfl
  rw [numbersOf, hown]
  exact map_countP_take _ r.installations

/-- Ranks depend on the databases of the installations only. -/
theorem rank_congr (h : ∀ m, r'.path? m = r.path? m) (dbPath : String) (n : Nat) :
    r'.rank dbPath n = r.rank dbPath n := by
  have hrank : ∀ r : Registry, r.rank dbPath n
      = ((r.installations.map Installation.dbPath).take n).countP fun d => d == dbPath := by
    intro r
    rw [rank, ← List.map_take, List.countP_map]
    rfl
  have hpaths : r'.installations.map Installation.dbPath
      = r.installations.map Installation.dbPath :=
    List.ext_getElem? fun m => by simpa [path?] using h m
  rw [hrank, hrank, hpaths]

/-! ### Consistent registries -/

/-- A well-formed registry in which deliveries and the entries of the map have the databases of
their installations, and installations that are over have no work left. -/
structure Consistent (r : Registry) : Prop where
  wellFormed : r.WellFormed
  entries : ∀ e ∈ r.databases.entries, r.path? e.2 = some e.1
  deliveries : ∀ d ∈ r.deliveries, r.path? d.installation = some d.dbPath
  tidy : ∀ i ∈ r.installations, i.IsTidy

/-- A new registry is consistent. -/
theorem Consistent.new (engine : Engine) (time : Nat) : (Registry.new engine time).Consistent where
  wellFormed := by
    refine ⟨fun {d m} h => ?_, fun {d m} h => ?_⟩
    · simp [Registry.new, OrderedMap.empty, OrderedMap.find?] at h
    · simp [Registry.new, life?] at h
  entries := by simp [Registry.new, OrderedMap.empty]
  deliveries := by simp [Registry.new]
  tidy := by simp [Registry.new]

/-- What is delivered from an installation of a database is told by the share. -/
theorem map_numberless_deliveredFrom (hr : r.Consistent) (hn : r.path? n = some dbPath) :
    (r.deliveredFrom n).map Delivery.numberless
      = ((r.share dbPath).deliveredFrom (r.rank dbPath n)).map Delivery.numberless := by
  have hown : (r.deliveries.filter fun d => d.installation == n)
      = (r.deliveries.filter fun d => d.dbPath == dbPath).filter fun d =>
        r.rank dbPath d.installation == r.rank dbPath n := by
    rw [List.filter_filter]
    refine List.filter_congr fun d hd => ?_
    have hpath := hr.deliveries d hd
    rw [Bool.eq_iff_iff, Bool.and_eq_true, beq_iff_eq, beq_iff_eq, beq_iff_eq]
    constructor
    · intro h
      rw [h, hn] at hpath
      exact ⟨by rw [h], (Option.some.inj hpath).symm⟩
    · rintro ⟨hrank, hsame⟩
      rw [hsame] at hpath
      exact rank_inj hpath hn hrank
  rw [deliveredFrom, hown, Share.deliveredFrom, share, List.filter_map, List.map_map, List.map_map]
  rfl

/-! ### Changes of one database -/

/-- An update that keeps the path of its installation keeps all paths. -/
theorem path?_update {f : Installation → Installation}
    (hf : ∀ i, r.installations[n]? = some i → (f i).dbPath = i.dbPath) (m : Nat) :
    (r.update n f).path? m = r.path? m := by
  rw [path?, getElem?_update, path?]
  split
  · next hm =>
    subst hm
    cases hi : r.installations[n]? with
    | none => rfl
    | some i => simpa using hf i hi
  · rfl

/-- A change of a registry that concerns the installations of one database only. -/
inductive Touches (dbPath : String) : Registry → Registry → Prop
  | silent {r : Registry} (time : Nat) (notices : List Notice) :
      Touches dbPath r { r with time, notices }
  | update {r : Registry} {n : Nat} {f : Installation → Installation} (hn : r.path? n = some dbPath)
      (hpath : ∀ i, r.installations[n]? = some i → (f i).dbPath = i.dbPath)
      (htidy : ∀ i, r.installations[n]? = some i → i.IsTidy → (f i).IsTidy) :
      Touches dbPath r (r.update n f)
  | deliver {r : Registry} {n : Nat} (hn : r.path? n = some dbPath) (subscriber : Subscriber)
      (issues : List Issue) :
      Touches dbPath r { r with deliveries := r.deliveries ++ [⟨n, subscriber, dbPath, issues⟩] }
  | erase {r : Registry} : Touches dbPath r { r with databases := r.databases.erase dbPath }
  | trans {r r' r'' : Registry} (h : Touches dbPath r r') (h' : Touches dbPath r' r'') :
      Touches dbPath r r''

namespace Touches

/-- Doing nothing concerns one database only. -/
theorem refl (dbPath : String) (r : Registry) : Touches dbPath r r := .silent r.time r.notices

/-- A change that concerns one database keeps all paths. -/
theorem path?_eq (h : Touches dbPath r r') (m : Nat) : r'.path? m = r.path? m := by
  induction h with
  | silent | deliver | erase => rfl
  | update hn hpath htidy => exact path?_update hpath m
  | trans _ _ ih ih' => exact ih'.trans ih

/-- A change of a database that keeps a registry well formed keeps it consistent. -/
theorem consistent (h : Touches dbPath r r') (hr : r.Consistent) (hw : r'.WellFormed) :
    r'.Consistent := by
  obtain ⟨-, hentries, hdeliveries, htidy⟩ := hr
  -- One induction on the change for each of the three; the paths stay what they were.
  refine ⟨hw, ?_, ?_, ?_⟩
  · simp only [h.path?_eq]
    clear hw hdeliveries htidy
    induction h with
    | silent | update | deliver => exact hentries
    | erase => exact fun e he => hentries e (List.mem_filter.mp he).1
    | trans h _ ih ih' =>
      simp only [h.path?_eq] at ih'
      exact ih' (ih hentries)
  · simp only [h.path?_eq]
    clear hw hentries htidy
    induction h with
    | silent | update | erase => exact hdeliveries
    | deliver hn subscriber issues =>
      intro d hd
      rcases List.mem_append.mp hd with hd | hd
      · exact hdeliveries d hd
      · obtain rfl := List.mem_singleton.mp hd
        exact hn
    | trans h _ ih ih' =>
      simp only [h.path?_eq] at ih'
      exact ih' (ih hdeliveries)
  · clear hw hentries hdeliveries
    induction h with
    | silent | deliver | erase => exact htidy
    | update hn hpath hkeep =>
      intro i hi
      obtain ⟨m, hm⟩ := List.mem_iff_getElem?.mp hi
      rw [getElem?_update] at hm
      split at hm
      · next hnm =>
        obtain ⟨j, hj, rfl⟩ := Option.map_eq_some_iff.mp hm
        rw [← hnm] at hj
        exact hkeep j hj (htidy j (List.mem_of_getElem? hj))
      · exact htidy i (List.mem_of_getElem? hm)
    | trans _ _ ih ih' => exact ih' (ih htidy)

end Touches

/-! ### Shares of other databases -/

/-- An update elsewhere leaves the share of a database as it is. -/
theorem share_update_of_ne {f : Installation → Installation}
    (hf : ∀ i, r.installations[n]? = some i → (f i).dbPath = i.dbPath)
    (hn : r.path? n ≠ some dbPath) : (r.update n f).share dbPath = r.share dbPath := by
  have hrank := rank_congr (path?_update hf) dbPath
  have hinstallations : (r.installations.modify n f).filter (fun i => i.dbPath == dbPath)
      = r.installations.filter fun i => i.dbPath == dbPath := by
    cases hi : r.installations[n]? with
    | none => rw [List.modify_eq_self (List.getElem?_eq_none_iff.mp hi)]
    | some i =>
      have hne : i.dbPath ≠ dbPath := fun h => hn (path?_eq_some_iff.mpr ⟨i, hi, h⟩)
      refine filter_modify_of_neg hi (beq_false_of_ne hne) (beq_false_of_ne ?_)
      rwa [hf i hi]
  simp only [share, hrank]
  rw [update, hinstallations]

/-- A change of one database leaves the shares of all others as they are. -/
theorem Touches.share_eq (h : Touches other r r') (hne : other ≠ dbPath) :
    r'.share dbPath = r.share dbPath := by
  induction h with
  | silent => rfl
  | update hn hpath htidy =>
    refine share_update_of_ne hpath fun h => hne ?_
    rw [hn] at h
    exact Option.some.inj h
  | @deliver r n hn subscriber issues =>
    have hnone : [(⟨n, subscriber, other, issues⟩ : Delivery)].filter (fun d => d.dbPath == dbPath)
        = [] := by
      simp [hne]
    simp only [share, List.filter_append, hnone, List.append_nil]
    rfl
  | @erase r =>
    have hkept : ∀ e : String × Nat, (e.1 == dbPath && e.1 != other) = (e.1 == dbPath) := by
      intro e
      rw [Bool.eq_iff_iff, Bool.and_eq_true, beq_iff_eq, bne_iff_ne]
      exact ⟨And.left, fun he => ⟨he, fun hother => hne (hother.symm.trans he)⟩⟩
    simp only [share, OrderedMap.erase, List.filter_filter, hkept]
    rfl
  | trans _ _ ih ih' => exact ih'.trans ih

/-! ### The share of the database itself -/

/-- An update of one of its installations updates the share of a database at its rank. -/
theorem share_update {f : Installation → Installation}
    (hf : ∀ i, r.installations[n]? = some i → (f i).dbPath = i.dbPath)
    (hn : r.path? n = some dbPath) :
    (r.update n f).share dbPath = (r.share dbPath).update (r.rank dbPath n) f := by
  obtain ⟨i, hi, hpath⟩ := path?_eq_some_iff.mp hn
  have hrank := rank_congr (path?_update hf) dbPath
  have hinstallations := filter_modify_of_pos (p := fun i => i.dbPath == dbPath) (f := f) hi
    (beq_iff_eq.mpr hpath) (beq_iff_eq.mpr ((hf i hi).trans hpath))
  simp only [share, hrank]
  rw [update, hinstallations]
  rfl

/-- A delivery is added to the share of its own database, and to no other. -/
theorem share_deliver (r : Registry) (n : Nat) (subscriber : Subscriber) (dbPath : String)
    (issues : List Issue) :
    share dbPath { r with deliveries := r.deliveries ++ [⟨n, subscriber, dbPath, issues⟩] }
      = (r.share dbPath).deliver
        ⟨r.rank dbPath n, subscriber, dbPath, issues.map Issue.timeless⟩ := by
  have hself : [(⟨n, subscriber, dbPath, issues⟩ : Delivery)].filter (fun d => d.dbPath == dbPath)
      = [⟨n, subscriber, dbPath, issues⟩] := by
    simp
  simp only [share, List.filter_append, hself, List.map_append]
  rfl

/-- Erasing a database drops its own entry, and no other. -/
theorem share_erase (r : Registry) (dbPath : String) :
    share dbPath { r with databases := r.databases.erase dbPath }
      = { r.share dbPath with entries := [] } := by
  have hnone : (r.databases.erase dbPath).entries.filter (fun e => e.1 == dbPath) = [] := by
    rw [OrderedMap.erase, List.filter_filter, List.filter_eq_nil_iff]
    simp
  simp only [share, hnone, List.map_nil]
  rfl

/-! ### Installing a database anew -/

section Install

variable (subscriber : Subscriber) (h : r.current? other = none)

include h

/-- Installing a database that is not installed begins an installation. -/
theorem install_of_current?_eq_none :
    r.install other subscriber
      = ({ r with
          installations := r.installations
            ++ [.start other subscriber r.engine.settings.maxSeenStatements]
          databases := r.databases.insert other r.installations.length } : Registry).tell
            (.installed other) := by
  unfold install
  rw [current?_eq_none_iff.mp h]

/-- The numbers in use keep their databases and their ranks. -/
theorem path?_install {m : Nat} (hm : r.path? m = some dbPath) :
    (r.install other subscriber).path? m = some dbPath := by
  rw [path?, install_installations subscriber h, List.getElem?_append_left (lt_length_of_path? hm)]
  exact hm

/-- A new installation gets the next number. -/
theorem path?_install_length :
    (r.install other subscriber).path? r.installations.length = some other := by
  rw [path?, install_installations subscriber h, List.getElem?_concat_length]
  rfl

/-- A new installation does not change the rank of those before it. -/
theorem rank_install (hn : n ≤ r.installations.length) :
    (r.install other subscriber).rank dbPath n = r.rank dbPath n := by
  rw [rank, install_installations subscriber h, List.take_append_of_le_length hn, rank]

/-- Installing keeps a registry consistent. -/
theorem consistent_install (hr : r.Consistent) : (r.install other subscriber).Consistent where
  wellFormed :=
    hr.wellFormed.install h (install_databases subscriber h) (life?_install subscriber h)
  entries e he := by
    rw [install_databases subscriber h] at he
    rcases OrderedMap.mem_entries_insert he with rfl | he
    · exact path?_install_length subscriber h
    · exact path?_install subscriber h (hr.entries e he)
  deliveries d hd := by
    rw [install_of_current?_eq_none subscriber h] at hd
    exact path?_install subscriber h (hr.deliveries d hd)
  tidy i hi := by
    rw [install_installations subscriber h] at hi
    rcases List.mem_append.mp hi with hi | hi
    · exact hr.tidy i hi
    · obtain rfl := List.mem_singleton.mp hi
      exact fun hphase => by simp [Installation.start] at hphase

/-- The share of a database after one was installed anew, by what was installed and is named
then. -/
theorem share_install (hr : r.Consistent) :
    (r.install other subscriber).share dbPath
      = { r.share dbPath with
          installations := (r.installations
            ++ [Installation.start other subscriber r.engine.settings.maxSeenStatements]).filter
              fun i => i.dbPath == dbPath
          entries := ((r.databases.insert other r.installations.length).entries.filter
            fun e => e.1 == dbPath).map fun e => r.rank dbPath e.2 } := by
  have hentries : ∀ e ∈ (r.databases.insert other r.installations.length).entries,
      (r.install other subscriber).rank dbPath e.2 = r.rank dbPath e.2 := by
    intro e he
    refine rank_install subscriber h ?_
    rcases OrderedMap.mem_entries_insert he with rfl | he
    · exact Nat.le_refl _
    · exact Nat.le_of_lt (lt_length_of_path? (hr.entries e he))
  have hdeliveries : ∀ d ∈ r.deliveries,
      (r.install other subscriber).rank dbPath d.installation = r.rank dbPath d.installation :=
    fun d hd => rank_install subscriber h (Nat.le_of_lt (lt_length_of_path? (hr.deliveries d hd)))
  have hnamed := List.map_congr_left (l := (r.databases.insert other
    r.installations.length).entries.filter fun e => e.1 == dbPath)
    fun e he => hentries e (List.mem_filter.mp he).1
  have hdelivered : ((r.deliveries.filter fun d => d.dbPath == dbPath).map fun d =>
        ({ d.timeless with
          installation := (r.install other subscriber).rank dbPath d.installation } : Delivery))
      = (r.deliveries.filter fun d => d.dbPath == dbPath).map fun d =>
        { d.timeless with installation := r.rank dbPath d.installation } :=
    List.map_congr_left fun d hd => by rw [hdeliveries d (List.mem_filter.mp hd).1]
  rw [share, install_databases subscriber h, hnamed, install_installations subscriber h]
  rw [install_of_current?_eq_none subscriber h] at hdelivered ⊢
  exact congrArg (Share.mk _ _ _) hdelivered

/-- Installing another database leaves the share of a database as it is. -/
theorem share_install_of_ne (hr : r.Consistent) (hne : other ≠ dbPath) :
    (r.install other subscriber).share dbPath = r.share dbPath := by
  have hnone : [Installation.start other subscriber r.engine.settings.maxSeenStatements].filter
      (fun i => i.dbPath == dbPath) = [] := by
    simp [Installation.start, hne]
  rw [share_install subscriber h hr, List.filter_append, hnone, List.append_nil,
    OrderedMap.filter_entries_insert_of_ne hne]
  rfl

/-- Installing a database that is not installed adds an installation to its share. -/
theorem share_install_self (hr : r.Consistent) :
    (r.install other subscriber).share other
      = { r.share other with
          installations := (r.share other).installations
            ++ [Installation.start other subscriber r.engine.settings.maxSeenStatements]
          entries := (r.share other).installations.length :: (r.share other).entries.tail } := by
  have hself : [Installation.start other subscriber r.engine.settings.maxSeenStatements].filter
      (fun i => i.dbPath == other)
      = [Installation.start other subscriber r.engine.settings.maxSeenStatements] := by
    simp [Installation.start]
  have hrank : r.rank other r.installations.length = (r.share other).installations.length := by
    rw [rank, List.take_length, List.countP_eq_length_filter]
    rfl
  rw [share_install subscriber h hr, List.filter_append, hself,
    OrderedMap.filter_entries_insert_self, List.map_cons, hrank, List.map_tail]
  rfl

end Install

end Registry

end QueryLint
