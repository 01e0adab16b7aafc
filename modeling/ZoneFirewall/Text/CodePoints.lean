/-!
# Sets of code points

A property of characters is given by the ranges of code points that have it, both ends included.

* `CodePoints`: the ranges, in increasing order.
* `CodePoints.contains`: whether a character lies in one of them.
-/

namespace ZoneFirewall.Text

/-- A set of characters as ranges of code points, both ends included. -/
abbrev CodePoints := List (Nat × Nat)

/-- Whether a character lies in one of the ranges. -/
def CodePoints.contains (ranges : CodePoints) (c : Char) : Bool :=
  ranges.any fun r => r.1 ≤ c.toNat && c.toNat ≤ r.2

end ZoneFirewall.Text
