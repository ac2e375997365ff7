import StackShell.State
import StackShell.Text.Ansi

/-!
# The console

What a run has written: to the standard output, and to the standard error. A plain console has no
colours and one stream only, so that diagnostics stand where they arose. What a script puts out is
never coloured: the console is not a screen.

The standard output takes no surrogates, and refuses a text that holds one. What is shown of a
script has been taken by then (`Device.print`, `announce`).
-/

namespace StackShell.CommandLine

/-- What has been written. -/
structure Console where
  plain : Bool
  output : Text
  errors : Text

namespace Console

/-- A console on which nothing has been written. -/
def blank (plain : Bool) : Console := ⟨plain, "", ""⟩

/-- A text as it goes to the standard output. -/
def dress (plain : Bool) (text : Text) : Text :=
  if plain then Text.ControlKind.colour.strip text else text

/-- Writes a text without surrogates to the standard output. -/
def write (c : Console) (text : Text) : Console :=
  { c with output := c.output ++ dress c.plain text }

/-- Writes a text to the standard output, which takes all of it or nothing. -/
def tryWrite (c : Console) (text : Text) : Except Fault Console :=
  (dress c.plain text).written.map fun _ => c.write text

/-- Writes a diagnostic. The standard error takes any text. -/
def complain (c : Console) (text : Text) : Except Fault Console :=
  if c.plain then c.tryWrite text else .ok { c with errors := c.errors ++ text.escaped }

/-- Writes a diagnostic from which all control sequences are removed. -/
def complainBare (c : Console) (text : Text) : Except Fault Console :=
  c.complain (Text.ControlKind.any.strip text)

/-- Shows an event of a run. There is no screen to clear. -/
def display (c : Console) : Event → Console
  | .print text => c.write (Text.ControlKind.any.strip text)
  | .clear => c
  | .trace _ text => c.write text

/-- Shows the events of a run in order. -/
def displayAll (c : Console) (events : List Event) : Console :=
  events.foldl display c

end Console

end StackShell.CommandLine
