/-!
# Ranges of characters

Properties of characters are tables of inclusive ranges of code points.
-/

namespace HostBridge.Text

/-- An inclusive range of code points, given by its two ends. -/
abbrev CodeRange := Nat × Nat

/-- Whether a character lies in one of the ranges of a table. -/
def inRanges (table : List CodeRange) (c : Char) : Bool :=
  table.any fun range => range.1 ≤ c.toNat && c.toNat ≤ range.2

end HostBridge.Text
