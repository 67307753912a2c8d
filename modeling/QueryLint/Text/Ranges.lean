/-!
# Sets of characters given by ranges

A property of Unicode characters is stored as the list of its ranges of code points. This module
holds the membership test that all such tables share.
-/

namespace QueryLint.Text

/-- Whether a code point lies in one of the closed ranges. -/
def inRanges (ranges : List (Nat × Nat)) (code : Nat) : Bool :=
  ranges.any fun r => r.1 ≤ code && code ≤ r.2

theorem inRanges_nil (code : Nat) : inRanges [] code = false := rfl

theorem inRanges_cons (lo hi : Nat) (rest : List (Nat × Nat)) (code : Nat) :
    inRanges ((lo, hi) :: rest) code = ((lo ≤ code && code ≤ hi) || inRanges rest code) := rfl

end QueryLint.Text
