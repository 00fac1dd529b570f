/-!
# Character ranges

Properties of characters are given as closed ranges of code points in ascending order.
-/

namespace DemoBuild.Text

/-- The code point of `c` lies in one of the closed ranges. -/
def inRanges (ranges : Array (Nat × Nat)) (c : Char) : Bool :=
  ranges.any fun range => range.1 ≤ c.toNat && c.toNat ≤ range.2

end DemoBuild.Text
