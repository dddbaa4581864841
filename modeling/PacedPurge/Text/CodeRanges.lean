/-!
# Sets of characters given by ranges

A property of characters is kept as a list of inclusive ranges of code points. This module holds
the one question asked of such a list. The lists themselves are data of the Unicode standard and
stand in the modules named for their property.
-/

namespace PacedPurge.Text

/-- Inclusive ranges of code points, in ascending order. -/
abbrev CodeRanges := List (Nat × Nat)

/-- Whether some range of the list holds the character. -/
def CodeRanges.holds (ranges : CodeRanges) (c : Char) : Bool :=
  ranges.any fun r => r.1 ≤ c.toNat && c.toNat ≤ r.2

end PacedPurge.Text
