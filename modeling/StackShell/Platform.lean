import StackShell.Text.LetterCase

/-!
# The platform

What the shell takes from the platform that it runs on, and what no text of its own says: the names
of characters, and how deep the parts of a program may be nested while they run. Nothing is assumed
of either.
-/

namespace StackShell

/-- A platform for the shell. -/
class Platform where
  /-- The character of a name, as a string literal may write it. -/
  character? : Text → Option Char
  /-- How many executions of calls, conditionals and loops may be nested. -/
  depth : Nat

namespace Platform

/-- The characters that a basic platform knows by name. -/
def basicNames : List (Text × Char) :=
  [("LATIN SMALL LETTER A", 'a'), ("DEGREE SIGN", '°'), ("BULLET", '•')]

/-- A platform that knows some characters; the case of a name does not matter. -/
@[reducible]
def basic : Platform where
  character? name := basicNames.lookup (Text.upper name)
  depth := 250

end Platform

end StackShell
