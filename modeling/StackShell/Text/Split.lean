import StackShell.Text.Basic

/-!
# Splitting at a character

A row of characters is cut at every occurrence of a separator. The pieces, joined by the separator,
give the row back.
-/

namespace StackShell.Text

/-- The pieces between the separators: one more than there are separators. -/
def split (separator : CodePoint) : List CodePoint → List (List CodePoint)
  | [] => [[]]
  | c :: rest =>
    if c == separator then [] :: split separator rest
    else
      match split separator rest with
      | [] => [[c]]
      | piece :: pieces => (c :: piece) :: pieces

/-- The pieces of a text between the separators. -/
def pieces (separator : CodePoint) (text : Text) : List Text :=
  (split separator text.toList).map Text.ofList

/-- The lines of an input that is read line by line: each ends with a line feed, and the last one
may go without. -/
def inputLines (text : Text) : List Text :=
  let rows := pieces '\n' text
  if rows.getLast? == some ("" : Text) then rows.dropLast else rows

end StackShell.Text
