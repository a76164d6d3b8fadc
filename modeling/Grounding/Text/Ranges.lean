/-!
# Tables of code points

A property of characters is a list of ranges, both ends included, in ascending order.
-/

namespace Grounding.Text

/-- Whether a code point lies in one of the ranges of an ascending table. -/
def inRanges : List (Nat × Nat) → Nat → Bool
  | [], _ => false
  | (first, last) :: rest, n =>
    if n < first then false else if n ≤ last then true else inRanges rest n

end Grounding.Text
