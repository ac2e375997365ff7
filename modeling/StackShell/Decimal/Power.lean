/-!
# Powers

The powers of the two bases that numbers are written in.
-/

namespace StackShell.Decimal

/-- The power of two with the exponent `n`. -/
def pow2 (n : Nat) : Nat := Nat.pow 2 n

/-- The power of ten with the exponent `n`. -/
def pow10 (n : Nat) : Nat := Nat.pow 10 n

end StackShell.Decimal
