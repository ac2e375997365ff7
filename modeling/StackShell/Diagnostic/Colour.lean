import StackShell.Text.Basic

/-!
# Colours

The control sequences that diagnostics are coloured with.
-/

namespace StackShell.Colour

/-- A control sequence with the given attributes. -/
def code (attributes : Text) : Text :=
  "\x1b[" ++ attributes ++ "m"

/-- Back to the plain look. -/
def reset : Text := code "0"

/-- Puts a text into a colour. -/
def paint (attributes text : Text) : Text :=
  code attributes ++ text ++ reset

/-- The colour of what is in the background. -/
def grey : Text := "90"

/-- The colour of what matters. -/
def white : Text := "97"

/-- The colour of prompts. -/
def cyan : Text := "36"

end StackShell.Colour
