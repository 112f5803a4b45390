/-!
# Ranges of character codes

A character class beyond ASCII is given as a list of ranges of codes, both ends included.
-/

namespace Referent.Text

/-- The codes from the first to the second, both included. -/
abbrev CodeRange := Nat × Nat

/-- The character's code lies in one of the ranges. -/
def inRanges (ranges : List CodeRange) (c : Char) : Bool :=
  ranges.any fun r => r.1 ≤ c.toNat && c.toNat ≤ r.2

end Referent.Text
