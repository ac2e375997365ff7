import StackShell.State

/-!
# Screens

A screen keeps what a script has put out since it last cleared the output.
-/

namespace StackShell

/-- The visible text and how often it was cleared. -/
structure Screen where
  text : Text
  clears : Nat

namespace Screen

/-- A screen with nothing on it. -/
def blank : Screen := ⟨"", 0⟩

/-- The screen after an event. -/
def display (screen : Screen) : Event → Screen
  | .print text => { screen with text := screen.text ++ text }
  | .clear => ⟨"", screen.clears + 1⟩
  | .trace .. => screen

/-- The screen after events. -/
def displayAll (screen : Screen) (events : List Event) : Screen :=
  events.foldl display screen

end Screen

end StackShell
