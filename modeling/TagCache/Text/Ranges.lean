/-!
# Sets of characters

A property of characters is given by closed ranges of code points, in ascending order and apart
from each other.
-/

namespace TagCache.Text

/-- Closed ranges of code points. -/
abbrev Ranges := Array (Nat × Nat)

/-- Whether a character lies in one of the ranges. -/
def Ranges.has (ranges : Ranges) (c : Char) : Bool :=
  ranges.any fun (first, last) => first ≤ c.toNat && c.toNat ≤ last

/-- Whether every range ends before the next one begins. -/
def Ranges.isAscending (ranges : Ranges) : Bool :=
  (ranges.toList.zip ranges.toList.tail).all fun (a, b) => a.2 < b.1

end TagCache.Text
