import StackShell.Text.Basic

/-!
# Lines of a text

A text is cut into lines at every line boundary that Unicode knows, a carriage return followed by a
line feed counting as one. Each line keeps its boundary.
-/

namespace StackShell.Text

/-- The characters that end a line. -/
def isLineEnd (c : CodePoint) : Bool :=
  c == '\n' || c == '\r' || c == '\x0b' || c == '\x0c' || c == '\x1c' || c == '\x1d' || c == '\x1e'
    || c.toNat == 0x85 || c.toNat == 0x2028 || c.toNat == 0x2029

/-- Cuts the characters into lines; `line` holds those of the current line, the last one first. -/
def cutLines (line : List CodePoint) : List CodePoint → List (List CodePoint)
  | [] => if line.isEmpty then [] else [line.reverse]
  | .char '\r' :: .char '\n' :: rest =>
    (.char '\n' :: .char '\r' :: line).reverse :: cutLines [] rest
  | c :: rest =>
    if isLineEnd c then (c :: line).reverse :: cutLines [] rest else cutLines (c :: line) rest

/-- The lines of a text, each with its boundary. A boundary at the end opens no further line. -/
def lines (text : Text) : List Text :=
  (cutLines [] text.toList).map Text.ofList

/-- A line without the line feeds at its end. -/
def dropLineFeeds (line : Text) : Text :=
  Text.ofList (line.toList.reverse.dropWhile (· == .char '\n')).reverse

/-- Carriage returns become line feeds, alone or before one: how a text file is read. -/
def plainLineEnds : List CodePoint → List CodePoint
  | [] => []
  | .char '\r' :: .char '\n' :: rest => .char '\n' :: plainLineEnds rest
  | c :: rest => (if c == '\r' then '\n' else c) :: plainLineEnds rest

end StackShell.Text
