/-!
# Sets of code points

The classes of characters that the shell tells apart are unions of intervals of code points.
-/

namespace StackShell.Text

/-- A union of closed intervals of code points. -/
abbrev Ranges := Array (Nat × Nat)

/-- Whether the code point `n` lies in one of the intervals. -/
def Ranges.has (table : Ranges) (n : Nat) : Bool :=
  table.any fun r => r.1 ≤ n && n ≤ r.2

end StackShell.Text
