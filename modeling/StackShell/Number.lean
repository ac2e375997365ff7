import StackShell.Decimal.Integer
import StackShell.Decimal.Real

/-!
# Numbers

A number is an integer of any size or a double. The two kinds mix: an integer that meets a double
becomes the nearest double, which fails beyond the largest one. Comparisons are exact across the
kinds, and whole division and remainder go to the floor.
-/

namespace StackShell

/-- An integer or a double. -/
inductive Number where
  | int (n : Int)
  | float (x : Float)

/-- Why an operation on numbers has no result. -/
inductive NumberProblem where
  /-- An integer lies beyond the largest double. -/
  | integerTooLarge
  /-- A quotient of integers lies beyond the largest double. -/
  | quotientTooLarge

/-- The exact value of a number: a quotient of whole numbers, an infinity or nothing. -/
inductive Exact where
  | finite (num : Int) (den : Nat)
  | infinite (negative : Bool)
  | nan

namespace Number

/-- The exact value of a number. -/
def exact : Number → Exact
  | .int n => .finite n 1
  | .float x =>
    match Decimal.Binary.ofFloat x with
    | .finite negative m e =>
      let (num, den) := Decimal.scaled m e
      .finite (if negative then -num else num) den
    | .infinite negative => .infinite negative
    | .nan => .nan

end Number

/-- The order of two exact values; nothing compares with what is not a number. -/
def Exact.compare? : Exact → Exact → Option Ordering
  | .nan, _ => none
  | _, .nan => none
  | .finite n d, .finite n' d' => some (compare (n * d') (n' * d))
  | .infinite a, .infinite b =>
    some (if a == b then .eq else if a then .lt else .gt)
  | .infinite a, .finite _ _ => some (if a then .lt else .gt)
  | .finite _ _, .infinite b => some (if b then .gt else .lt)

namespace Number

/-- The order of two numbers. -/
def compare? (a b : Number) : Option Ordering :=
  a.exact.compare? b.exact

/-- Equality of value, across the kinds. -/
def same (a b : Number) : Bool :=
  a.compare? b == some .eq

/-- Strictly less. -/
def less (a b : Number) : Bool :=
  a.compare? b == some .lt

/-- Less or equal. -/
def atMost (a b : Number) : Bool :=
  a.less b || a.same b

/-- Whether a number is zero, of either kind and sign. -/
def isZero (a : Number) : Bool :=
  a.same (.int 0)

/-- A number as a double. -/
def toFloat : Number → Except NumberProblem Float
  | .int n =>
    match Decimal.ofInt? n with
    | some x => .ok x
    | none => .error .integerTooLarge
  | .float x => .ok x

/-- Applies `onInt` to two integers and `onFloat` to any other pair, as doubles. -/
def mixed (onInt : Int → Int → Int) (onFloat : Float → Float → Float) (b a : Number) :
    Except NumberProblem Number :=
  match b, a with
  | .int m, .int n => .ok (.int (onInt m n))
  | _, _ => do
    let y ← b.toFloat
    let x ← a.toFloat
    return .float (onFloat y x)

/-- Sum. -/
def add : Number → Number → Except NumberProblem Number :=
  mixed (· + ·) (· + ·)

/-- Difference. -/
def sub : Number → Number → Except NumberProblem Number :=
  mixed (· - ·) (· - ·)

/-- Product. -/
def mul : Number → Number → Except NumberProblem Number :=
  mixed (· * ·) (· * ·)

/-- Opposite. -/
def neg : Number → Number
  | .int n => .int (-n)
  | .float x => .float (-x)

/-- Absolute value. -/
def abs : Number → Number
  | .int n => .int n.natAbs
  | .float x => .float x.abs

/-- The lesser of two; the first one where neither is less. -/
def minimum (b a : Number) : Number :=
  if a.less b then a else b

/-- The greater of two; the first one where neither is greater. -/
def maximum (b a : Number) : Number :=
  if b.less a then a else b

/-- Quotient by a number other than zero. Two integers give the double nearest to their quotient. -/
def div (b a : Number) : Except NumberProblem Number :=
  match b, a with
  | .int m, .int n =>
    match Decimal.nearest? m.natAbs n.natAbs with
    | some x => .ok (.float (if (m < 0) != (n < 0) then -x else x))
    | none => .error .quotientTooLarge
  | _, _ => do
    let y ← b.toFloat
    let x ← a.toFloat
    return .float (y / x)

/-- A zero with the sign of `x`. -/
def zeroLike (x : Float) : Float :=
  match Decimal.Binary.ofFloat x with
  | .finite true _ _ => -0.0
  | .infinite true => -0.0
  | _ => 0.0

/-- The remainder of `y` by `x` with the sign of `y`, exact. -/
def truncatedRemainder (y x : Float) : Float :=
  match Decimal.Binary.ofFloat y, Decimal.Binary.ofFloat x with
  | .finite negative m e, .finite _ n f =>
    if n == 0 then Decimal.notANumber
    else
      let low := min e f
      let r := (m * Decimal.pow2 (e - low).toNat) % (n * Decimal.pow2 (f - low).toNat)
      let (num, den) := Decimal.scaled r low
      let size := (Decimal.nearest? num den).getD Decimal.infinity
      if negative then -size else size
  | .finite .., .infinite _ => y
  | _, _ => Decimal.notANumber

/-- The remainder with the sign of the divisor. -/
def floatRemainder (y x : Float) : Float :=
  let r := truncatedRemainder y x
  if r == 0 then zeroLike x
  else if (x < 0) != (r < 0) then r + x
  else r

/-- The quotient taken to the floor. It is corrected by one where the division itself rounded
across a whole number. -/
def floatFloorQuotient (y x : Float) : Float :=
  let r := truncatedRemainder y x
  let q := (y - r) / x
  let q := if r != 0 && ((x < 0) != (r < 0)) then q - 1 else q
  if q == 0 then zeroLike (y / x)
  else
    let whole := q.floor
    if q - whole > 0.5 then whole + 1 else whole

/-- Whole division by a number other than zero, to the floor. -/
def floorDiv : Number → Number → Except NumberProblem Number :=
  mixed Int.fdiv floatFloorQuotient

/-- Remainder by a number other than zero, with the sign of the divisor. -/
def floorMod : Number → Number → Except NumberProblem Number :=
  mixed Int.fmod floatRemainder

/-- The greatest integer that is not above a number; nothing for an infinity or what is no
number. -/
def floor? (a : Number) : Option Int :=
  match a.exact with
  | .finite num den => some (num / (den : Int))
  | _ => none

/-- The text of a number, or nothing where it is an integer whose text would be too long. -/
def text? : Number → Option Text
  | .int n => Decimal.integerText? n
  | .float x => some (Decimal.realText x)

end Number

end StackShell
