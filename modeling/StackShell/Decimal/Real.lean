import StackShell.Decimal.Shortest
import StackShell.Text.Digit

/-!
# Written reals

How a double is written and read. It is written with the fewest digits that read back, in positions
while the leading digit stands for at least `10 ^ -4` and less than `10 ^ 16`, and with an exponent
of at least two digits outside that range. A whole double keeps `.0`.
-/

namespace StackShell.Decimal

/-- Digits of the number without zeros at their end, and the exponent of the first one. -/
def significant (d : Digits) : List CodePoint × Int :=
  let row := Text.digits d.digits
  let kept := (row.reverse.dropWhile (· == .char '0')).reverse
  (kept, d.exponent + row.length - 1)

/-- Digits in positions, with a point after the one for `10 ^ 0`. -/
def positional (row : List CodePoint) (lead : Int) : List CodePoint :=
  if lead < 0 then
    .char '0' :: .char '.' :: (List.replicate ((-lead).toNat - 1) (.char '0') ++ row)
  else
    let whole := lead.toNat + 1
    let front := row.take whole
    let back := row.drop whole
    front ++ List.replicate (whole - front.length) (.char '0')
      ++ .char '.' :: (if back.isEmpty then [.char '0'] else back)

/-- Digits with one before the point and an exponent. -/
def scientific (row : List CodePoint) (lead : Int) : List CodePoint :=
  let mantissa := match row with
    | [] => []
    | [d] => [d]
    | d :: rest => d :: .char '.' :: rest
  let size := Text.digits lead.natAbs
  let filled := if size.length < 2 then .char '0' :: size else size
  mantissa ++ .char 'e' :: (if lead < 0 then .char '-' else .char '+') :: filled

/-- The text of a finite double without its sign. -/
def magnitude (mantissa : Nat) (exponent : Int) : List CodePoint :=
  if mantissa == 0 then [.char '0', .char '.', .char '0']
  else
    let (row, lead) := significant (Reach.of mantissa exponent).shortest
    if -4 ≤ lead && lead < 16 then positional row lead else scientific row lead

/-- The text of a double. -/
def realText (x : Float) : Text :=
  match Binary.ofFloat x with
  | .finite negative mantissa exponent =>
    Text.ofList ((if negative then [.char '-'] else []) ++ magnitude mantissa exponent)
  | .infinite negative => if negative then "-inf" else "inf"
  | .nan => "nan"

/-- The double nearest to `digits · 10 ^ exponent`; beyond the largest double it is infinite. The
size of the exponent is looked at first, so that a huge one costs nothing. -/
def nearestDecimal (digits : Nat) (exponent : Int) : Float :=
  if digits == 0 then 0
  else
    let lead := ((Nat.toDigits 10 digits).length : Int) + exponent
    if lead > 400 then infinity
    else if lead < -400 then 0
    else (nearest? (digits * pow10 exponent.toNat) (pow10 (-exponent).toNat)).getD infinity

/-- A written real taken apart: sign, digits before and after the point, exponent. -/
structure RealParts where
  negative : Bool
  whole : List CodePoint
  fraction : List CodePoint
  exponent : Int

/-- The double that the parts write. -/
def RealParts.value (p : RealParts) : Float :=
  let size := nearestDecimal (Text.digitsValue (p.whole ++ p.fraction))
    (p.exponent - p.fraction.length)
  if p.negative then -size else size

/-- Takes a sign off a row of characters. -/
def takeSign : List CodePoint → Bool × List CodePoint
  | .char '-' :: rest => (true, rest)
  | .char '+' :: rest => (false, rest)
  | rest => (false, rest)

/-- Takes a point and the digits after it off a row of characters; without a point there are no
digits. -/
def takeFraction : List CodePoint → List CodePoint × List CodePoint
  | .char '.' :: rest => (rest.takeWhile Text.isDigit, rest.dropWhile Text.isDigit)
  | rest => ([], rest)

/-- The exponent that a letter, a sign or not, and digits write; nothing writes zero. -/
def readExponent : List CodePoint → Int
  | _ :: rest =>
    let (down, rest) := takeSign rest
    let size := Text.digitsValue rest
    if down then -size else size
  | [] => 0

/-- Takes apart the text of a real that is known to be well formed: an optional minus, digits, a
point and digits or not, and an exponent or not. -/
def RealParts.ofChars (text : List CodePoint) : RealParts :=
  let (negative, text) := takeSign text
  let whole := text.takeWhile Text.isDigit
  let (fraction, text) := takeFraction (text.dropWhile Text.isDigit)
  { negative, whole, fraction, exponent := readExponent text }

/-- Reads the text of a real that is known to be well formed. -/
def readReal (text : List CodePoint) : Float :=
  (RealParts.ofChars text).value

end StackShell.Decimal
