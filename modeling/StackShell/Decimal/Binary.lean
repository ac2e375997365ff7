import StackShell.Decimal.Power

/-!
# Doubles as exact numbers

A finite double is a whole number times a power of two. This module takes doubles apart into that
form and goes back: it rounds any quotient of whole numbers to the nearest double, a tie going to
the one with the even mantissa. Everything that has to be exact about doubles is said on these
forms.
-/

namespace StackShell.Decimal

/-- What a double denotes: `±mantissa · 2 ^ exponent`, an infinity, or no number. -/
inductive Binary where
  | finite (negative : Bool) (mantissa : Nat) (exponent : Int)
  | infinite (negative : Bool)
  | nan

/-- The value of a double. -/
def Binary.ofFloat (x : Float) : Binary :=
  let bits : Nat := x.toBits.toNat
  let negative := bits / pow2 63 == 1
  let biased : Nat := bits / pow2 52 % pow2 11
  let fraction : Nat := bits % pow2 52
  if biased == 0 then .finite negative fraction (-1074)
  else if biased == 2047 then (if fraction == 0 then .infinite negative else .nan)
  else .finite negative (fraction + pow2 52) ((biased : Int) - 1075)

/-- Positive infinity. -/
def infinity : Float :=
  Float.ofBits 0x7ff0000000000000

/-- The double that is no number. -/
def notANumber : Float :=
  Float.ofBits 0x7ff8000000000000

/-- A whole number times a power of two as a quotient of whole numbers. -/
def scaled (mantissa : Nat) (exponent : Int) : Nat × Nat :=
  (mantissa * pow2 exponent.toNat, pow2 (-exponent).toNat)

/-- The quotient `num / den` rounded to a whole number, a tie going to the even one. -/
def roundQuotient (num den : Nat) : Nat :=
  let q := num / den
  let twice := 2 * (num % den)
  if twice > den || (twice == den && q % 2 == 1) then q + 1 else q

/-- The exponent of the doubles in whose range `num / den` lies. -/
def exponentFor (num den : Nat) : Int :=
  let guess : Int := max ((num.log2 : Int) - den.log2 - 53) (-1074)
  let (n, d) := (num * pow2 (-guess).toNat, den * pow2 guess.toNat)
  if n / d ≥ pow2 53 then guess + 1 else guess

/-- The double nearest to `num / den`, or nothing where the quotient lies beyond the largest one. -/
def nearest? (num den : Nat) : Option Float :=
  if num == 0 then some 0
  else
    let e := exponentFor num den
    let m := roundQuotient (num * pow2 (-e).toNat) (den * pow2 e.toNat)
    let (m, e) := if m == pow2 53 then (pow2 52, e + 1) else (m, e)
    if e > 971 then none
    else
      let bits := if m < pow2 52 then m else (e + 1075).toNat * pow2 52 + (m - pow2 52)
      some (Float.ofBits bits.toUInt64)

/-- The double nearest to a whole number, or nothing where it lies beyond the largest one. -/
def ofInt? (n : Int) : Option Float :=
  (nearest? n.natAbs 1).map fun x => if n < 0 then -x else x

end StackShell.Decimal
