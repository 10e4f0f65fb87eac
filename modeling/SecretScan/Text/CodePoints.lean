/-!
# Sets of code points

A character class of a standard is a list of ranges of code points in ascending
order. Membership walks the list and stops at the first range that lies beyond.
-/

namespace SecretScan.Text

/-- Ascending, disjoint ranges of code points, both ends included. -/
abbrev CodePoints := List (Nat × Nat)

/-- Whether a code point lies in one of the ranges. -/
def CodePoints.has : CodePoints → Nat → Bool
  | [], _ => false
  | (lo, hi) :: rest, n =>
    if n < lo then false else if n ≤ hi then true else CodePoints.has rest n

end SecretScan.Text
