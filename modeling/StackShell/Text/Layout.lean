import StackShell.Text.Basic

/-!
# Columns and cuts

Alignment of texts in columns, counts grouped by thousands, and cuts at places that may be counted
from the end.
-/

namespace StackShell.Text

/-- A row of `n` blanks. -/
def blanksRow (n : Nat) : Text :=
  Text.ofList (List.replicate n (.char ' '))

/-- Fills a text up with blanks on its left. -/
def alignRight (width : Nat) (text : Text) : Text :=
  blanksRow (width - text.length) ++ text

/-- Fills a text up with blanks on its right. -/
def alignLeft (width : Nat) (text : Text) : Text :=
  text ++ blanksRow (width - text.length)

/-- A place in a text of length `n`: a negative one is counted from the end, and both are held
within the text. -/
def place (n : Nat) (i : Int) : Nat :=
  if i < 0 then (i + n).toNat else min i.toNat n

/-- The text from place `i` on. -/
def dropTo (i : Int) (text : Text) : Text :=
  Text.ofList (text.toList.drop (place text.length i))

/-- The text up to place `i`. -/
def takeTo (i : Int) (text : Text) : Text :=
  Text.ofList (text.toList.take (place text.length i))

/-- Puts a comma between groups of three digits, given the digits with the last one first. -/
def groupThree : List CodePoint → List CodePoint
  | a :: b :: c :: d :: rest => a :: b :: c :: .char ',' :: groupThree (d :: rest)
  | short => short

/-- A count with its digits grouped by thousands. -/
def grouped (n : Nat) : Text :=
  Text.ofList (groupThree (digits n).reverse).reverse

end StackShell.Text
