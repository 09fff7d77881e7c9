/-!
# Sets of code points

A property of characters is given by the code points that have it, as a list of closed ranges in
increasing order.  The look-up walks the list and stops at the first range that lies beyond the
code point, so that the commonest characters, which stand early in every table, cost the least.

## Main definitions

* `Primer.Text.Ranges` — closed ranges of code points, in increasing order.
* `Primer.Text.Ranges.contains` — whether a code point lies in one of them.
-/

set_option relaxedAutoImplicit false
set_option autoImplicit false

namespace Primer

namespace Text

/-- Closed ranges of code points in increasing order, each given by its first and its last
member. -/
abbrev Ranges := List (Nat × Nat)

/-- Whether `n` lies in one of the ranges; the walk ends at the first range beyond `n`. -/
def Ranges.contains : Ranges → Nat → Bool
  | [], _ => false
  | (first, last) :: rest, n =>
    if n < first then false else if n ≤ last then true else Ranges.contains rest n

end Text

end Primer
