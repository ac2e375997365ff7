import StackShell.CommandLine.Settings

/-!
# The words of a command

What follows the word that chooses a command. The only option that a command has of its own asks for
help; it may stand anywhere in front of a word of two dashes, which is left out itself. All other
words are operands. Words that look like options and are none are refused by a strict command, and
operands to a lenient one.
-/

namespace StackShell.CommandLine

/-- How a command takes words that look like options and are none. -/
inductive Manner where
  /-- It refuses them. -/
  | strict
  /-- It takes them as operands. -/
  | lenient

/-- The words of a command. -/
structure Operands where
  /-- Whether help is asked for. -/
  help : Bool
  words : List Text

/-- Puts an operand in front. -/
def Operands.push (word : Text) (o : Operands) : Operands :=
  { o with words := word :: o.words }

/-- Why a word that looks like an option does not ask for help. -/
def helpProblem? (word : Text) : Option UsageProblem :=
  if !startsWith "--" word then some (.noSuchOption (Text.ofList (word.toList.take 2)) [])
  else if longName word != helpName then some (unknownLong [helpName] (longName word))
  else (longValue? word).map fun _ => .unwantedValue helpName

/-- Reads the words of a command. -/
def Operands.read (manner : Manner) : List Text → Except UsageProblem Operands
  | [] => .ok ⟨false, []⟩
  | word :: rest =>
    if word == "--" then .ok ⟨false, rest⟩
    else if !isOptionWord word then (Operands.read manner rest).map (push word)
    else
      match helpProblem? word, manner with
      | none, _ => (Operands.read manner rest).map fun o => { o with help := true }
      | some (.noSuchOption ..), .lenient => (Operands.read manner rest).map (push word)
      | some problem, _ => .error problem

end StackShell.CommandLine
