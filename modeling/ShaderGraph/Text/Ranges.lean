/-!
# Character classes as ranges

A class of characters beyond ASCII is a table of closed ranges of code points,
in ascending order. This module only says what membership means; each table is
the data of one Unicode property and lives with the class it defines.
-/

namespace ShaderGraph.Text

/-- A code point lies in one of the ranges. -/
def inRanges (ranges : List (Nat × Nat)) (n : Nat) : Bool :=
  ranges.any fun r => r.1 ≤ n && n ≤ r.2

end ShaderGraph.Text
