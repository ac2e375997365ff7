import StackShell.Diagnostic.Colour
import StackShell.Program.Printer
import StackShell.Text.Layout

/-!
# Columns

A stack and a statement side by side, each in a column of limited width. What does not fit is cut: a
stack loses its lower part, a statement its end.
-/

namespace StackShell.Columns

/-- The usual width of a column. -/
def usualWidth : Int := 72

/-- A column must not have a negative width. -/
def checkWidth (width : Int) : Except Fault Nat :=
  if width < 0 then .error .negativeWidth else .ok width.toNat

/-- A stack in a column, aligned to its right edge. Without a width the stack is shown whole; with
the width zero it is cut but not aligned. -/
def stack (width : Option Int) (values : List Value) : Except Fault Text := do
  let line ← stackLine values
  match width with
  | none => return line
  | some width =>
    let cut := if (line.length : Int) > width then "… " ++ Text.dropTo (2 - width) line else line
    if width == 0 then return cut
    return Text.alignRight (← checkWidth width) cut

/-- A statement that is cut to a width. -/
def cutStatement (width : Int) (statement : Statement) : Except Fault Text := do
  let text ← statement.source
  return if (text.length : Int) > width then Text.takeTo (width - 2) text ++ " …" else text

/-- The sign between the two columns. -/
def between : Text := " " ++ Colour.paint Colour.cyan " <=> " ++ " "

/-- What follows the stack on its line: a cut statement in its column. -/
def statementColumn (width : Int) (cut : Text) : Except Fault Text := do
  return between ++ Text.alignLeft (← checkWidth width) cut ++ "\n"

/-- The columns of a stack and a statement, of which the second one ends the line. -/
def both (width : Int) (statement : Statement) (values : List Value) :
    Except Fault (Text × Text) := do
  let cut ← cutStatement width statement
  let left ← stack (some usualWidth) values
  let right ← statementColumn width cut
  return (left, right)

end StackShell.Columns
