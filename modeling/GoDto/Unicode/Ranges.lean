/-!
Sets of characters, written as ascending closed ranges of code points.
-/

namespace GoDto.Unicode

/-- The first and last code point of each stretch, smallest first. -/
abbrev Ranges := List (Nat × Nat)

/-- Membership. The ranges ascend, so the search ends at the first one above the code point. -/
def Ranges.has : Ranges → Nat → Bool
  | [], _ => false
  | (first, last) :: rest, point =>
    if point < first then false else if point ≤ last then true else Ranges.has rest point

end GoDto.Unicode
