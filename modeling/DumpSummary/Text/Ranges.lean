/-!
# Sets of characters as ranges

A property of Unicode is written as the list of its closed code-point ranges.
-/

namespace DumpSummary.Text

/-- A set of characters: closed ranges of code points, in ascending order. -/
abbrev Ranges := List (Nat × Nat)

/-- Whether one of the ranges holds the character. -/
def Ranges.contains (rs : Ranges) (c : Char) : Bool :=
  rs.any fun r => r.1 ≤ c.toNat && c.toNat ≤ r.2

end DumpSummary.Text
