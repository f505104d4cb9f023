/-!
Sets of characters given as ascending, disjoint ranges of code points.
-/

namespace SingleFlight
namespace Text

/-- Ascending, disjoint, closed ranges of code points. -/
abbrev Ranges := List (Nat × Nat)

namespace Ranges

/-- The ranges ascend, so the search ends at the first one that reaches `n`. -/
def has : Ranges → Nat → Bool
  | [], _ => false
  | (low, high) :: rest, n => if n ≤ high then decide (low ≤ n) else has rest n

end Ranges

end Text
end SingleFlight
