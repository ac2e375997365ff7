import StackShell.Text.Basic
import StackShell.Text.CaseTable

/-!
# Capital and small letters

Full case mapping of a text. A letter may become several (`ß` has the capital `SS`), and the small
form of a capital sigma depends on its neighbours: at the end of a word it is `ς`, elsewhere `σ`.
-/

namespace StackShell.Text

/-- Moves a code point by the first run that covers it. -/
def move (runs : Array CaseRun) (c : Char) : Char :=
  match runs.find? (·.covers c.toNat) with
  | some run => Char.ofNat (c.toNat + run.shift).toNat
  | none => c

/-- The several characters that `c` becomes, if it is one of the letters of the table. -/
def expand (table : Array (Nat × List Nat)) (c : Char) : Option (List Char) :=
  (table.find? (·.1 == c.toNat)).map fun entry => entry.2.map Char.ofNat

/-- The capital form of one character. -/
def upperChar (c : Char) : List Char :=
  if c.toNat < 0x80 then [c.toUpper]
  else (expand upperExpansions c).getD [move upperRuns c]

/-- The small form of one character, apart from the rule for sigma. -/
def lowerChar (c : Char) : List Char :=
  if c.toNat < 0x80 then [c.toLower]
  else (expand lowerExpansions c).getD [move lowerRuns c]

/-- What a code point becomes if its character becomes the given ones; surrogates have no case. -/
def recase (change : Char → List Char) : CodePoint → List CodePoint
  | .char c => (change c).map .char
  | .lone offset => [.lone offset]

/-- Whether the nearest character that counts is a letter with case. -/
def meetsCased (neighbours : List CodePoint) : Bool :=
  match neighbours.dropWhile fun c => caseIgnorable.has c.toNat with
  | [] => false
  | c :: _ => cased.has c.toNat

/-- Lowers the characters of `rest`, given those before them with the nearest first. A capital sigma
ends a word when a letter stands before it and none after it. -/
def lowerFrom (before : List CodePoint) : List CodePoint → List CodePoint
  | [] => []
  | c :: rest =>
    let small :=
      if c == 'Σ' then
        if meetsCased before && !meetsCased rest then [.char 'ς'] else [.char 'σ']
      else recase lowerChar c
    small ++ lowerFrom (c :: before) rest

/-- The text in capital letters. -/
def upper (text : Text) : Text :=
  Text.ofList (text.toList.flatMap (recase upperChar))

/-- The text in small letters. -/
def lower (text : Text) : Text :=
  Text.ofList (lowerFrom [] text.toList)

end StackShell.Text
