/-!
# Tables of scalar values

A property of characters is given by the ascending list of the closed ranges of
scalar values that have it.

## Main Definitions

* `RangeTable` — the ascending list of ranges.
* `RangeTable.contains` — membership of a scalar value.
-/

namespace QmlAssist.Unicode

/-- Closed ranges of scalar values, in ascending order and without overlap. -/
abbrev RangeTable := List (Nat × Nat)

/-- Whether a scalar value lies in one of the ranges.  The search stops at the
first range that begins above the value, since later ranges lie higher still. -/
def RangeTable.contains : RangeTable → Nat → Bool
  | [], _ => false
  | (first, last) :: rest, n =>
      if n < first then false
      else if n ≤ last then true
      else RangeTable.contains rest n

end QmlAssist.Unicode
