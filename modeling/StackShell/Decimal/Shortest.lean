import StackShell.Decimal.Binary

/-!
# Shortest decimals

The decimal with the fewest digits that reads back as a given double. Among decimals of that length
the nearest one is taken, and of two equally near ones that with the even last digit.

A decimal reads back as the double exactly if it lies between the middles towards the two
neighbouring doubles; the middles themselves count if the mantissa is even. All comparisons are made
in whole numbers.
-/

namespace StackShell.Decimal

/-- A decimal `digits · 10 ^ exponent`. -/
structure Digits where
  digits : Nat
  exponent : Int

/-- Where the decimals lie that read back as one double: the double is `middle / den` and its
bounds are `low / den` and `high / den`. -/
structure Reach where
  low : Nat
  middle : Nat
  high : Nat
  den : Nat
  closed : Bool

/-- The reach of the double `mantissa · 2 ^ exponent`. Below a power of two the doubles are half as
far apart as above it. -/
def Reach.of (mantissa : Nat) (exponent : Int) : Reach :=
  let (unit, den) := scaled 1 (exponent - 2)
  let below := if mantissa == pow2 52 && exponent > -1074 then 1 else 2
  { low := (4 * mantissa - below) * unit
    middle := 4 * mantissa * unit
    high := (4 * mantissa + 2) * unit
    den := den
    closed := mantissa % 2 == 0 }

/-- Whether the decimal lies in the reach. -/
def Reach.holds (r : Reach) (d : Digits) : Bool :=
  let (num, den) := (d.digits * pow10 d.exponent.toNat, pow10 (-d.exponent).toNat)
  let value := num * r.den
  let (low, high) := (r.low * den, r.high * den)
  if r.closed then low ≤ value && value ≤ high else low < value && value < high

/-- The exponent of the leading decimal digit of the double in the middle. -/
def Reach.leading (r : Reach) : Int :=
  let places : Nat := 400
  ((Nat.toDigits 10 (r.middle * pow10 places / r.den)).length : Int) - 1 - places

/-- The best decimal whose last digit has the place value `10 ^ exponent`, if one is in the
reach. -/
def Reach.onGrid? (r : Reach) (exponent : Int) : Option Digits :=
  let (num, den) := (r.middle * pow10 (-exponent).toNat, r.den * pow10 exponent.toNat)
  let below : Digits := ⟨num / den, exponent⟩
  let above : Digits := ⟨num / den + 1, exponent⟩
  let twice := 2 * (num % den)
  let belowFirst := twice < den || (twice == den && below.digits % 2 == 0)
  match r.holds below, r.holds above with
  | true, true => some (if belowFirst then below else above)
  | true, false => some below
  | false, true => some above
  | false, false => none

/-- Seventeen digits always suffice. -/
def enoughDigits : Nat := 17

/-- The first grid with a hit, tried from one digit on. -/
def Reach.shortest (r : Reach) : Digits :=
  let top := r.leading
  let grids := (List.range enoughDigits).map fun (n : Nat) => top - (n : Int)
  (grids.findSome? r.onGrid?).getD ⟨0, 0⟩

end StackShell.Decimal
