/-!
# Ranges of code points

A property of characters is given by the ranges of code points that have it, in ascending order.
-/

namespace FacetedSearch

/-- The code points from the first number up to the second. -/
abbrev CodeRange := Nat × Nat

/-- Whether a code point lies in one of the ranges, which are in ascending order. -/
def inRanges : List CodeRange → Nat → Bool
  | [], _ => false
  | (low, high) :: rs, n => if n < low then false else n ≤ high || inRanges rs n

end FacetedSearch
