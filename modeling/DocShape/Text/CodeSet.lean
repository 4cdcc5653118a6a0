/-!
# Sets of code points

A set of code points is kept as the increasing list of the places where membership changes: the
first entry begins the first range, the second is one past its end, and so on. The tables of
character properties in this project are lists of that kind.
-/

set_option autoImplicit false

namespace DocShape.Text

/-- A set of code points as the increasing list of the points where membership changes. -/
abbrev CodeSet := List Nat

/-- A code point is in the set when an odd number of changes lie at or before it. -/
def CodeSet.has : CodeSet → Nat → Bool
  | [], _ => false
  | change :: changes, n => decide (change ≤ n) && !CodeSet.has changes n

end DocShape.Text
