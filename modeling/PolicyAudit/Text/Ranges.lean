/-! # Ranges of code points

A property of characters is given by a list of ranges of code points, both ends included. -/

namespace PolicyAudit.Text

/-- The character's code point lies in one of the ranges, ends included. -/
def inRanges (ranges : List (Nat × Nat)) (c : Char) : Bool :=
  ranges.any fun r => r.1 ≤ c.toNat && c.toNat ≤ r.2

end PolicyAudit.Text
