import StackShell.Decimal.Power
import StackShell.Text.Blank
import StackShell.Text.Digit

/-!
# Written integers

Integers have any size, but their decimal text is limited: a longer one is neither written nor read.
-/

namespace StackShell.Decimal

/-- The most digits that the text of an integer may have. -/
def digitLimit : Nat := 4300

/-- The least number whose text is too long. -/
def digitBound : Nat := pow10 digitLimit

/-- The text of an integer, or nothing where it would be too long. -/
def integerText? (n : Int) : Option Text :=
  if n.natAbs < digitBound then
    let digits := Text.ofList (Text.digits n.natAbs)
    some (if n < 0 then "-" ++ digits else digits)
  else none

/-- Why a text is not read as an integer. -/
inductive IntegerProblem where
  | tooLong (digits : Nat)
  | malformed

/-- The integer written by a sign and digits of any script. -/
def ofDigits (negative : Bool) (row : List CodePoint) : Except IntegerProblem Int :=
  if row.length > digitLimit then .error (.tooLong row.length)
  else
    let n : Int := Text.digitsValue row
    .ok (if negative then -n else n)

/-- Reads the text of an integer literal: an optional minus and digits. -/
def readInteger (text : List CodePoint) : Except IntegerProblem Int :=
  match text with
  | .char '-' :: row => ofDigits true row
  | row => ofDigits false row

/-- Whether each underscore of a row of digits and underscores stands between two digits. -/
def underscoresFit : List CodePoint → Bool
  | [] => false
  | [c] => c != '_'
  | .char '_' :: _ => false
  | _ :: .char '_' :: rest => underscoresFit rest
  | _ :: d :: rest => underscoresFit (d :: rest)

/-- Blanks that may stand around a number: those of Unicode, but not the separators U+001C to
U+001F. -/
def isMargin (c : CodePoint) : Bool :=
  Text.isBlank c && !(0x1c ≤ c.toNat && c.toNat ≤ 0x1f)

/-- Reads an integer from a text of any kind: blanks may stand around it, a sign before it and
single underscores between its digits. The length of the leading digits is looked at before what
follows them. -/
def parseInteger (text : Text) : Except IntegerProblem Int :=
  let front := text.toList.dropWhile isMargin
  let body := (front.reverse.dropWhile isMargin).reverse
  let (negative, body) := match body with
    | .char '-' :: rest => (true, rest)
    | .char '+' :: rest => (false, rest)
    | rest => (false, rest)
  let row := body.takeWhile fun c => Text.isDigit c || c == '_'
  if !underscoresFit row then .error .malformed
  else
    match ofDigits negative (row.filter Text.isDigit) with
    | .error problem => .error problem
    | .ok n => if row.length == body.length then .ok n else .error .malformed

end StackShell.Decimal
