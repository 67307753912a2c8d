import Mathlib.Data.Finset.Card
import Mathlib.Data.List.Nodup
import QueryLint.Fingerprint.Seen

/-!
# What a memory holds

As long as no more different fingerprints came than a memory may hold, it holds exactly those that
came, whatever it would forget if it were full.
-/

namespace QueryLint.Fingerprint.Seen

variable {s : Seen} {capacity : Nat} {came : List UInt64} {fingerprint : UInt64}

/-- A fingerprint that is in the memory is told not to be new, and changes nothing. -/
theorem insertBy_of_contains (forget : Forgetting) (h : s.contains fingerprint = true) :
    s.insertBy forget fingerprint = (false, s) := by
  rw [insertBy, if_pos h]

/-- A fingerprint that is not in the memory is told to be new, and stored; a full memory first
forgets others. -/
theorem insertBy_of_not_contains (forget : Forgetting) (h : s.contains fingerprint = false) :
    s.insertBy forget fingerprint
      = (true, { s with
        stored := (if s.size ≥ s.capacity then forget.left s.forgotten s.stored else s.stored)
          ++ [fingerprint] }) := by
  rw [insertBy, if_neg (by simp [h])]

/-- A memory of a capacity holds what came, and nothing twice. -/
structure Holds (s : Seen) (capacity : Nat) (came : List UInt64) : Prop where
  capacity_eq : s.capacity = capacity
  nodup : s.stored.Nodup
  contains_iff : ∀ fingerprint, s.contains fingerprint = true ↔ fingerprint ∈ came

namespace Holds

/-- A new memory holds nothing. -/
theorem new (maxSize : Nat) : (Seen.new maxSize).Holds (max 1 maxSize) [] where
  capacity_eq := rfl
  nodup := List.nodup_nil
  contains_iff _ := by simp [Seen.new, contains]

/-- What is stored are the fingerprints that came. -/
theorem mem_stored_iff (h : s.Holds capacity came) : fingerprint ∈ s.stored
    ↔ fingerprint ∈ came := by
  rw [← h.contains_iff, contains, List.contains_iff_mem]

/-- A memory is not full before something new comes, if all that came then fits. -/
theorem size_lt (h : s.Holds capacity came) (hnew : fingerprint ∉ came)
    (hfits : (came ++ [fingerprint]).toFinset.card ≤ capacity) : s.size < s.capacity := by
  have hnodup : (s.stored ++ [fingerprint]).Nodup := by
    rw [← List.concat_eq_append]
    exact h.nodup.concat (mt h.mem_stored_iff.mp hnew)
  have hsame : (s.stored ++ [fingerprint]).toFinset = (came ++ [fingerprint]).toFinset := by
    ext other
    simp [h.mem_stored_iff]
  rw [← hsame, List.toFinset_card_of_nodup hnodup, List.length_append,
    List.length_singleton] at hfits
  rw [h.capacity_eq]
  exact hfits

/-- Something new is stored, and nothing is forgotten for it. -/
theorem insertBy (h : s.Holds capacity came) (forget : Forgetting)
    (hnew : s.contains fingerprint = false)
    (hfits : (came ++ [fingerprint]).toFinset.card ≤ capacity) :
    (s.insertBy forget fingerprint).2.Holds capacity (came ++ [fingerprint]) := by
  have hfresh : fingerprint ∉ came := by
    rw [← h.contains_iff, hnew]
    decide
  rw [insertBy_of_not_contains forget hnew, if_neg (Nat.not_le_of_lt (h.size_lt hfresh hfits))]
  refine ⟨h.capacity_eq, ?_, fun other => ?_⟩
  · rw [← List.concat_eq_append]
    exact h.nodup.concat (mt h.mem_stored_iff.mp hfresh)
  · rw [contains, List.contains_iff_mem, List.mem_append, List.mem_append, h.mem_stored_iff]

/-- Something that came before changes nothing. -/
theorem again (h : s.Holds capacity came) (hseen : s.contains fingerprint = true) :
    s.Holds capacity (came ++ [fingerprint]) := by
  refine ⟨h.capacity_eq, h.nodup, fun other => ?_⟩
  rw [h.contains_iff, List.mem_append, List.mem_singleton]
  constructor
  · exact .inl
  · rintro (hother | rfl)
    · exact hother
    · exact (h.contains_iff other).mp hseen

end Holds

end QueryLint.Fingerprint.Seen
