/-!
# Classes of characters given by ranges

A class too large to spell out is a table of closed ranges of code points.
-/

namespace ClassChain.Text

/-- A table of closed ranges of code points. -/
abbrev Ranges := List (Nat × Nat)

namespace Ranges

/-- A code point is in the class when one of the ranges covers it. -/
def holds (table : Ranges) (n : Nat) : Bool :=
  table.any fun r => r.1 ≤ n && n ≤ r.2

end Ranges

end ClassChain.Text
