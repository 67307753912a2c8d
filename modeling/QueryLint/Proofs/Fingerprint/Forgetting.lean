import QueryLint.Proofs.Fingerprint.Seen

/-!
# What a memory forgets

Fingerprints come one after the other, and each time that the memory is full when a new one comes it
forgets half of its capacity, rounded up, whichever these are. A memory never holds more than its
capacity (`Bounded.after`, `Bounded.size_after_le`). It is full again only after as many new
fingerprints came as it forgot (`size_after_le`), and until it is full for the first time it forgets
nothing (`holds_after`).
-/

namespace QueryLint.Fingerprint.Seen

/-- A fingerprint that comes, with what a full memory forgets for it. -/
structure Arrival where
  fingerprint : UInt64
  forget : Forgetting

/-- The memory after a fingerprint came. -/
def arrive (s : Seen) (x : Arrival) : Seen := (s.insertBy x.forget x.fingerprint).2

/-- Whether a fingerprint that comes is told to be new. -/
def isNew (s : Seen) (x : Arrival) : Bool := (s.insertBy x.forget x.fingerprint).1

/-- The memory after some fingerprints came. -/
def after (s : Seen) (arrivals : List Arrival) : Seen := arrivals.foldl arrive s

/-- How many of some fingerprints are told to be new when they come. -/
def countNew (s : Seen) : List Arrival → Nat
  | [] => 0
  | x :: rest => (s.isNew x).toNat + countNew (s.arrive x) rest

/-- A memory forgets something when a fingerprint comes. -/
def Evicts (s : Seen) (x : Arrival) : Prop :=
  ∃ other, s.contains other = true ∧ (s.arrive x).contains other = false

variable {s : Seen} {capacity : Nat} {x : Arrival}

/-- What comes last comes after all others. -/
theorem after_concat (s : Seen) (arrivals : List Arrival) (x : Arrival) :
    s.after (arrivals ++ [x]) = (s.after arrivals).arrive x :=
  List.foldl_concat arrive s x arrivals

/-! ### One fingerprint -/

/-- A fingerprint is told to be new exactly when it is not in the memory. -/
theorem isNew_eq (s : Seen) (x : Arrival) : s.isNew x = !s.contains x.fingerprint := by
  cases h : s.contains x.fingerprint with
  | true => rw [isNew, insertBy_of_contains x.forget h]; rfl
  | false => rw [isNew, insertBy_of_not_contains x.forget h]; rfl

/-- A fingerprint that is in the memory changes nothing. -/
theorem arrive_of_contains (h : s.contains x.fingerprint = true) : s.arrive x = s := by
  rw [arrive, insertBy_of_contains x.forget h]

/-- A new fingerprint is added as long as there is room. -/
theorem arrive_of_not_full (h : s.contains x.fingerprint = false) (hroom : s.size < s.capacity) :
    s.arrive x = { s with stored := s.stored ++ [x.fingerprint] } := by
  rw [arrive, insertBy_of_not_contains x.forget h, if_neg (Nat.not_le_of_lt hroom)]

/-- A new fingerprint that finds no room makes others forgotten. -/
theorem arrive_of_full (h : s.contains x.fingerprint = false) (hfull : s.capacity ≤ s.size) :
    s.arrive x = { s with stored := x.forget.left s.forgotten s.stored ++ [x.fingerprint] } := by
  rw [arrive, insertBy_of_not_contains x.forget h, if_pos hfull]

/-- What came last is always stored. -/
theorem contains_arrive_self (s : Seen) (x : Arrival) : (s.arrive x).contains x.fingerprint
    = true := by
  cases h : s.contains x.fingerprint with
  | true => rwa [arrive_of_contains h]
  | false =>
    rcases Nat.lt_or_ge s.size s.capacity with hroom | hfull
    · rw [arrive_of_not_full h hroom, contains, List.contains_iff_mem]
      exact List.mem_append_right _ List.mem_cons_self
    · rw [arrive_of_full h hfull, contains, List.contains_iff_mem]
      exact List.mem_append_right _ List.mem_cons_self

/-- Only a full memory forgets, and only for something new. -/
theorem Evicts.full (h : s.Evicts x) : s.contains x.fingerprint = false ∧ s.capacity ≤ s.size := by
  obtain ⟨other, hbefore, hafter⟩ := h
  have hnew : s.contains x.fingerprint = false := by
    refine Bool.eq_false_iff.mpr fun hseen => ?_
    rw [arrive_of_contains hseen, hbefore] at hafter
    cases hafter
  refine ⟨hnew, Nat.le_of_not_lt fun hroom => ?_⟩
  rw [arrive_of_not_full hnew hroom, ← Bool.not_eq_true, contains, List.contains_iff_mem] at hafter
  exact hafter (List.mem_append_left _ (List.contains_iff_mem.mp hbefore))

/-! ### Never too many -/

/-- A memory of a positive capacity that holds nothing twice, and no more than it may hold. -/
structure Bounded (s : Seen) (capacity : Nat) : Prop where
  capacity_eq : s.capacity = capacity
  pos : 0 < capacity
  nodup : s.stored.Nodup
  size_le : s.size ≤ capacity

namespace Bounded

/-- A new memory is bounded by its size, or by one. -/
theorem new (maxSize : Nat) : (Seen.new maxSize).Bounded (max 1 maxSize) where
  capacity_eq := rfl
  pos := by omega
  nodup := List.nodup_nil
  size_le := Nat.zero_le _

/-- Half of a full memory is forgotten, rounded up. -/
theorem forgotten_eq (h : s.Bounded capacity) : s.forgotten = (capacity + 1) / 2 := by
  rw [forgotten, h.capacity_eq]

/-- Of a full memory so much is left that there is room for what came. -/
theorem size_arrive_of_full (h : s.Bounded capacity) (hnew : s.contains x.fingerprint = false)
    (hfull : capacity ≤ s.size) : (s.arrive x).size + (capacity + 1) / 2 = capacity + 1 := by
  have hpos := h.pos
  have hsize : s.stored.length = capacity := Nat.le_antisymm h.size_le hfull
  rw [arrive_of_full hnew (h.capacity_eq ▸ hfull), size, List.length_append, x.forget.length_left,
    h.forgotten_eq, List.length_singleton, hsize]
  omega

/-- A memory forgets exactly if it is full and something new comes. -/
theorem evicts_iff (h : s.Bounded capacity) :
    s.Evicts x ↔ s.contains x.fingerprint = false ∧ s.size = capacity := by
  constructor
  · intro hevicts
    obtain ⟨hnew, hfull⟩ := hevicts.full
    exact ⟨hnew, Nat.le_antisymm h.size_le (h.capacity_eq ▸ hfull)⟩
  · rintro ⟨hnew, hfull⟩
    have hsize : (s.arrive x).size + (capacity + 1) / 2 = capacity + 1 :=
      h.size_arrive_of_full hnew hfull.ge
    have hpos := h.pos
    by_contra hkept
    -- If all that was stored were kept, there would be no room for what came.
    have hall : x.fingerprint :: s.stored ⊆ (s.arrive x).stored := by
      intro other hother
      rw [← List.contains_iff_mem]
      rcases List.mem_cons.mp hother with rfl | hstored
      · exact contains_arrive_self s x
      · by_contra hgone
        exact hkept ⟨other, List.contains_iff_mem.mpr hstored, Bool.eq_false_iff.mpr hgone⟩
    have hfresh : x.fingerprint ∉ s.stored := by
      rw [← List.contains_iff_mem]
      exact Bool.eq_false_iff.mp hnew
    have hlength : s.stored.length + 1 ≤ (s.arrive x).stored.length :=
      ((List.nodup_cons.mpr ⟨hfresh, h.nodup⟩).subperm hall).length_le
    rw [size] at hsize hfull
    omega

/-- A new fingerprint makes a memory larger by one at most. -/
theorem size_arrive_le (h : s.Bounded capacity) :
    (s.arrive x).size ≤ s.size + (s.isNew x).toNat := by
  rw [isNew_eq]
  cases hseen : s.contains x.fingerprint with
  | true =>
    rw [arrive_of_contains hseen]
    exact Nat.le_add_right _ _
  | false =>
    rcases Nat.lt_or_ge s.size capacity with hroom | hfull
    · rw [arrive_of_not_full hseen (h.capacity_eq ▸ hroom), size, List.length_append]
      exact Nat.le_refl _
    · have hsize := h.size_arrive_of_full hseen hfull
      have hpos := h.pos
      rw [Bool.not_false, Bool.toNat_true]
      omega

/-- A memory stays bounded when a fingerprint comes. -/
theorem arrive (h : s.Bounded capacity) (x : Arrival) : (s.arrive x).Bounded capacity := by
  cases hseen : s.contains x.fingerprint with
  | true => rwa [arrive_of_contains hseen]
  | false =>
    have hfresh : x.fingerprint ∉ s.stored := by
      rw [← List.contains_iff_mem]
      exact Bool.eq_false_iff.mp hseen
    rcases Nat.lt_or_ge s.size capacity with hroom | hfull
    · rw [arrive_of_not_full hseen (h.capacity_eq ▸ hroom)]
      refine ⟨h.capacity_eq, h.pos, ?_, ?_⟩
      · rw [← List.concat_eq_append]
        exact h.nodup.concat hfresh
      · rw [size, List.length_append]
        exact hroom
    · have hsize := h.size_arrive_of_full hseen hfull
      have hpos := h.pos
      rw [arrive_of_full hseen (h.capacity_eq ▸ hfull)] at hsize ⊢
      have hleft := x.forget.left_sublist s.forgotten s.stored
      refine ⟨h.capacity_eq, h.pos, ?_, by omega⟩
      rw [← List.concat_eq_append]
      exact (h.nodup.sublist hleft).concat fun hmem => hfresh (hleft.subset hmem)

/-- By induction on the arrivals: a memory stays bounded. -/
theorem after (h : s.Bounded capacity) (arrivals : List Arrival) :
    (s.after arrivals).Bounded capacity := by
  induction arrivals generalizing s with
  | nil => exact h
  | cons x rest ih => exact ih (h.arrive x)

/-- A memory is no larger than it was and what came new together. -/
theorem size_after_le (h : s.Bounded capacity) (arrivals : List Arrival) :
    (s.after arrivals).size ≤ s.size + s.countNew arrivals := by
  induction arrivals generalizing s with
  | nil => exact Nat.le_refl _
  | cons x rest ih =>
    have hone : (s.arrive x).size ≤ s.size + (s.isNew x).toNat := h.size_arrive_le
    have hrest : ((s.arrive x).after rest).size ≤ (s.arrive x).size + (s.arrive x).countNew rest :=
      ih (h.arrive x)
    rw [countNew]
    calc (s.after (x :: rest)).size
        ≤ (s.arrive x).size + (s.arrive x).countNew rest := hrest
      _ ≤ s.size + ((s.isNew x).toNat + (s.arrive x).countNew rest) := by omega

/-- Before a memory forgets again, at least as many new fingerprints come as it forgot, the one for
which it forgot among them. -/
theorem forgotten_le_countNew (h : s.Bounded capacity) {between : List Arrival} {y : Arrival}
    (hfirst : s.Evicts x) (hnext : (s.after (x :: between)).Evicts y) :
    (capacity + 1) / 2 ≤ s.countNew (x :: between) := by
  obtain ⟨hnew, hfull⟩ := hfirst.full
  rw [h.capacity_eq] at hfull
  have hroom := h.size_arrive_of_full hnew hfull
  have hgrown : ((s.arrive x).after between).size
      ≤ (s.arrive x).size + (s.arrive x).countNew between :=
    (h.arrive x).size_after_le between
  have hagain : capacity ≤ ((s.arrive x).after between).size := by
    have hfull' := hnext.full.2
    rwa [(h.after (x :: between)).capacity_eq] at hfull'
  have hcount : s.countNew (x :: between) = 1 + (s.arrive x).countNew between := by
    rw [countNew, isNew_eq, hnew]
    rfl
  omega

end Bounded

/-! ### Exact until it is full -/

/-- A memory holds exactly what came, as long as all of it fits. -/
theorem holds_after (maxSize : Nat) {arrivals : List Arrival}
    (hfits : (arrivals.map Arrival.fingerprint).toFinset.card ≤ max 1 maxSize) :
    ((Seen.new maxSize).after arrivals).Holds (max 1 maxSize)
    (arrivals.map Arrival.fingerprint) := by
  induction arrivals using List.reverseRecOn with
  | nil => exact .new maxSize
  | append_singleton arrivals x ih =>
    rw [List.map_append, List.map_singleton] at hfits ⊢
    have hsubset : (arrivals.map Arrival.fingerprint).toFinset
        ⊆ (arrivals.map Arrival.fingerprint ++ [x.fingerprint]).toFinset := by
      rw [List.toFinset_append]
      exact Finset.subset_union_left
    have hbefore := ih (Nat.le_trans (Finset.card_le_card hsubset) hfits)
    rw [after_concat]
    cases hseen : ((Seen.new maxSize).after arrivals).contains x.fingerprint with
    | true =>
      rw [arrive_of_contains hseen]
      exact hbefore.again hseen
    | false => exact hbefore.insertBy x.forget hseen hfits

/-- Any so many stored fingerprints may be what is forgotten. -/
theorem Forgetting.exists_left_eq {k : Nat} {stored kept : List UInt64}
    (hkept : kept.Sublist stored) (hlength : kept.length = stored.length - k) : ∃ forget :
    Forgetting, forget.left k stored = kept := by
  refine ⟨⟨fun j other => if j = k ∧ other = stored then kept else other.drop j, fun j other => ?_,
    fun j other => ?_⟩, if_pos ⟨rfl, rfl⟩⟩
  · split
    · next h => exact h.2 ▸ hkept
    · exact List.drop_sublist j other
  · split
    · next h => rw [h.1, h.2, hlength]
    · exact List.length_drop

/-- A memory into which any fingerprints came, and which forgot any others whenever it was full, is
a set of no more than its capacity. A fingerprint is told to be new exactly if it is not stored; one
that is stored changes nothing; and the last one is always stored. As long as no more different
fingerprints came than the memory may hold, it holds exactly these. It forgets exactly if it is full
and something new comes, and what is forgotten may be any half of it, rounded up. From one time that
something is forgotten to the next there come at least as many new fingerprints as are forgotten at
a time. -/
theorem memory_of_arrivals (maxSize : Nat) (arrivals : List Arrival) :
    let capacity := max 1 maxSize
    let s := (Seen.new maxSize).after arrivals
    s.stored.Nodup ∧ s.size ≤ capacity
      ∧ (∀ x : Arrival, (s.isNew x = true ↔ s.contains x.fingerprint = false)
        ∧ (s.isNew x = false → s.arrive x = s) ∧ (s.arrive x).contains x.fingerprint = true)
      ∧ ((arrivals.map Arrival.fingerprint).toFinset.card ≤ capacity →
        ∀ fingerprint, s.contains fingerprint = true
          ↔ fingerprint ∈ arrivals.map Arrival.fingerprint)
      ∧ (∀ x, s.Evicts x ↔ s.contains x.fingerprint = false ∧ s.size = capacity)
      ∧ (∀ x between y, s.Evicts x → (s.after (x :: between)).Evicts y →
        (capacity + 1) / 2 ≤ s.countNew (x :: between))
      ∧ ∀ kept : List UInt64, kept.Sublist s.stored → kept.length = s.size - (capacity + 1) / 2 →
        ∃ forget : Forgetting, forget.left s.forgotten s.stored = kept := by
  intro capacity s
  have hbounded : s.Bounded capacity := (Bounded.new maxSize).after arrivals
  refine ⟨hbounded.nodup, hbounded.size_le, fun x => ⟨?_, fun hold => ?_, contains_arrive_self s x⟩,
    fun hfits => (holds_after maxSize hfits).contains_iff, fun _ => hbounded.evicts_iff,
    fun x between y => hbounded.forgotten_le_countNew, fun kept hkept hlength => ?_⟩
  · rw [isNew_eq, Bool.not_eq_true']
  · rw [isNew_eq, Bool.not_eq_false'] at hold
    exact arrive_of_contains hold
  · rw [hbounded.forgotten_eq]
    exact Forgetting.exists_left_eq hkept hlength

end QueryLint.Fingerprint.Seen
