/-!
# Sets of characters as tables of ranges
-/

namespace StreamTemplate.Text

/-- Whether a code point lies in one of the ranges, both ends included. -/
def inRanges (table : Array (Nat × Nat)) (n : Nat) : Bool :=
  table.any fun (lo, hi) => lo ≤ n && n ≤ hi

end StreamTemplate.Text
