import StackShell.Diagnostic.Colour
import StackShell.Text.Layout
import StackShell.Text.Lines

/-!
# Excerpts of a source text

A diagnostic shows the line it is about with two lines before and after it. The token it is about is
highlighted. Where no line is known, the last one stands in for it.
-/

namespace StackShell.Excerpt

/-- What an excerpt is about. -/
structure Focus where
  file : Text
  line : Option Int
  column : Option Int
  token : Option Text

/-- The line that is shown in a text of `count` lines. -/
def Focus.effectiveLine (focus : Focus) (count : Nat) : Int :=
  match focus.line with
  | some line => if line < 1 then count else line
  | none => count

/-- Highlights `width` characters of a line from a column on. -/
def highlight (line : Text) (column width : Nat) : Text :=
  let row := line.toList
  let before := row.take (column - 1)
  let marked := (row.drop (column - 1)).take width
  let after := row.drop (column - 1 + width)
  Text.ofList before ++ Colour.code "48;5;30" ++ Colour.paint "1;97" (Text.ofList marked)
    ++ Text.ofList after

/-- The text of the line that the excerpt is about. A column outside the line marks nothing. -/
def Focus.mark (focus : Focus) (line : Text) : Text :=
  match focus.column with
  | some column =>
    if 0 < column && column ≤ line.length then
      highlight line column.toNat (max 1 (focus.token.getD "").length)
    else line
  | none => line

/-- One row of the excerpt: the number of the line and its text. -/
def Focus.row (focus : Focus) (effective : Int) (number : Nat) (line : Text) : Text :=
  let text := Text.dropLineFeeds line
  let gutter := Text.alignRight 5 (toString number) ++ " |"
  if (number : Int) = effective then Colour.paint Colour.white gutter ++ " " ++ focus.mark text
  else Colour.paint Colour.grey gutter ++ " " ++ text

/-- The lines with their numbers from one on. -/
def numbered (lines : List Text) : List (Nat × Text) :=
  lines.zipIdx.map fun (line, index) => (index + 1, line)

/-- The excerpt of a source text. -/
def render (focus : Focus) (source : Text) : Text :=
  let lines := Text.lines source
  let effective := focus.effectiveLine lines.length
  let near := (numbered lines).filter fun (number, _) =>
    effective - 2 ≤ (number : Int) && (number : Int) ≤ effective + 2
  let header := Colour.paint Colour.white
    ("  File \"" ++ focus.file ++ "\", line " ++ toString effective)
  let rows := near.map fun (number, line) => focus.row effective number line
  "\n" ++ Text.intercalate "\n" (header :: rows) ++ "\n"

end StackShell.Excerpt
