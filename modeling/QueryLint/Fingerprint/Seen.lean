/-!
# Statements that were seen

The fingerprints of the statements that were already looked at, in the order in which they came.
When there are as many as the set may hold, a new one makes it forget half of its capacity first.
Which ones are forgotten is a parameter (`Forgetting`); `insert` forgets the oldest.
-/

namespace QueryLint.Fingerprint

/-- The fingerprints that were seen. -/
structure Seen where
  capacity : Nat
  stored : List UInt64
  deriving DecidableEq, Repr, Inhabited

namespace Seen

/-- The empty set, which holds at least one fingerprint. -/
def new (capacity : Nat) : Seen := ⟨max 1 capacity, []⟩

/-- How many fingerprints are stored. -/
def size (s : Seen) : Nat := s.stored.length

/-- Whether a fingerprint is stored. -/
def contains (s : Seen) (fingerprint : UInt64) : Bool :=
  s.stored.contains fingerprint

/-- How many fingerprints a full set forgets: half of its capacity, rounded up. -/
def forgotten (s : Seen) : Nat := (s.capacity + 1) / 2

/-- A way to forget so many of some fingerprints, by what is left of them. -/
structure Forgetting where
  left : Nat → List UInt64 → List UInt64
  left_sublist : ∀ k stored, (left k stored).Sublist stored
  length_left : ∀ k stored, (left k stored).length = stored.length - k

/-- Forgets the oldest fingerprints. -/
def Forgetting.oldest : Forgetting where
  left := List.drop
  left_sublist := List.drop_sublist
  length_left _ _ := List.length_drop

/-- The set with one more fingerprint, and whether it is new. -/
def insertBy (forget : Forgetting) (s : Seen) (fingerprint : UInt64) : Bool × Seen :=
  if s.contains fingerprint then (false, s)
  else
    let left := if s.size ≥ s.capacity then forget.left s.forgotten s.stored else s.stored
    (true, { s with stored := left ++ [fingerprint] })

/-- The set with one more fingerprint, and whether it is new. -/
def insert (s : Seen) (fingerprint : UInt64) : Bool × Seen :=
  s.insertBy .oldest fingerprint

end Seen

end QueryLint.Fingerprint
