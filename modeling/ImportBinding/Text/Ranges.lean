/-
This file holds sets of numbers written as tables of ranges.

A character class of the Unicode standard is such a table: its ranges are ascending
and do not touch, so a number below the start of a range is in none of the later ones.
-/

namespace ImportBinding

/-- A set of numbers, as ascending pairs of a first and a last member. -/
abbrev Ranges := List (Nat × Nat)

namespace Ranges

/-- Membership. The search stops at the first range that starts above the number. -/
def contains : Ranges → Nat → Bool
  | [], _ => false
  | (first, last) :: later, number =>
    if number < first then false
    else if number ≤ last then true
    else contains later number

end Ranges

end ImportBinding
