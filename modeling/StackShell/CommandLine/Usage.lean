import StackShell.Failure

/-!
# Wrong usage

What can be wrong with the words of a command line, how it is worded, and the page that is shown for
it. A page first recalls how the part of the command line that refused the words is used, unless the
words name a known option and only its value is amiss.
-/

namespace StackShell.CommandLine

/-- The name of the program. -/
def program : Text := "stackterm"

/-- A command. -/
inductive Subcommand where
  /-- Runs a single script. -/
  | runFile
  /-- Does actions in order; without any it opens a dialogue. -/
  | runDev
  /-- Opens a dialogue. -/
  | runRepl
deriving DecidableEq

/-- The word that chooses a command. -/
def Subcommand.name : Subcommand → Text
  | .runFile => "run-file"
  | .runDev => "run-dev"
  | .runRepl => "run-repl"

/-- All commands. -/
def Subcommand.all : List Subcommand := [.runFile, .runDev, .runRepl]

/-- The command of a name. -/
def Subcommand.ofName? (name : Text) : Option Subcommand :=
  all.find? fun command => command.name == name

/-- The part of a command line that words belong to. -/
inductive Part where
  /-- The options that all commands share, and the choice of a command. -/
  | options
  | command (sub : Subcommand)
deriving DecidableEq

/-- The words that lead to a part. -/
def Part.call : Part → Text
  | .options => program
  | .command sub => program ++ " " ++ sub.name

/-- What may follow the words that lead to a part. -/
def Part.operands : Part → Text
  | .options => "[OPTIONS] [COMMAND] [ARGS]..."
  | .command .runFile => "[OPTIONS] SCRIPT"
  | .command .runDev => "[OPTIONS] [TOKENS]..."
  | .command .runRepl => "[OPTIONS]"

/-- How a part of the command line is used. -/
def Part.usage (part : Part) : Text :=
  let call := part.call
  "Usage: " ++ call ++ " " ++ part.operands ++ "\nTry '" ++ call ++ " --help' for help.\n"

/-- Why a script cannot be opened. -/
inductive ScriptObstacle where
  | absent
  | folder
  | blocked

/-- The wording of a script that cannot be opened. -/
def ScriptObstacle.message : ScriptObstacle → Text
  | .absent => "No such file or directory"
  | .folder => "Is a directory"
  | .blocked => "Not a directory"

/-- What is wrong with the words of a command line. -/
inductive UsageProblem where
  /-- There is no such option; those with a similar name are suggested. -/
  | noSuchOption (name : Text) (similar : List Text)
  /-- The option is a switch and takes no value. -/
  | unwantedValue (name : Text)
  /-- The option needs a value and there is none. -/
  | missingValue (name : Text)
  | stepsNotInteger (text : Text)
  | stepsTooFew (steps : Int)
  | stateIsFolder (path : Text)
  /-- There is no such command; those with a similar name are suggested. -/
  | noSuchCommand (name : Text) (similar : List Text)
  | missingScript
  | unreadableScript (path : Text) (obstacle : ScriptObstacle)
  | extraWords (words : List Text)
  /-- Inline code was announced and none follows. -/
  | missingCode
  /-- Inline code was given and it is empty. -/
  | emptyCode
  | unknownOption (token : Text)
  | scriptNotFound (token : Text)

namespace UsageProblem

/-- The wording of the names that are similar to one that is not known. -/
def suggestion : List Text → Text
  | [] => ""
  | [name] => " Did you mean " ++ Text.quoted name ++ "?"
  | names => " (Did you mean one of: " ++ Text.intercalate ", " (names.map Text.quoted) ++ "?)"

/-- The wording of a problem. -/
def message : UsageProblem → Text
  | .noSuchOption name similar => "No such option " ++ Text.quoted name ++ "." ++ suggestion similar
  | .unwantedValue name => "Option " ++ Text.quoted name ++ " does not take a value."
  | .missingValue name => "Option " ++ Text.quoted name ++ " requires an argument."
  | .stepsNotInteger text =>
    "Invalid value for '--max-steps': " ++ Text.quoted text ++ " is not a valid integer range."
  | .stepsTooFew steps =>
    "Invalid value for '--max-steps': " ++ toString steps ++ " is not in the range x>=1."
  | .stateIsFolder path =>
    "Invalid value for '--state': File " ++ Text.quoted path ++ " is a directory."
  | .noSuchCommand name similar =>
    "No such command " ++ Text.quoted name ++ "." ++ suggestion similar
  | .missingScript => "Missing argument 'SCRIPT'."
  | .unreadableScript path obstacle =>
    "Invalid value for 'SCRIPT': '" ++ path ++ "': " ++ obstacle.message
  | .extraWords [word] => "Got unexpected extra argument (" ++ word ++ ")"
  | .extraWords words => "Got unexpected extra arguments (" ++ Text.intercalate " " words ++ ")"
  | .missingCode => "Option -c/--command needs inline code."
  | .emptyCode => "Option -c/--command was given empty code."
  | .unknownOption token => "Unknown option `" ++ token ++ "`."
  | .scriptNotFound token => "Script `" ++ token ++ "` not found."

/-- Whether the usage is recalled with a problem: not where an option is known and only its value is
too much or missing. -/
def recallsUsage : UsageProblem → Bool
  | .unwantedValue _ | .missingValue _ => false
  | _ => true

end UsageProblem

/-- A problem and the part of the command line that found it. -/
structure UsageError where
  part : Part
  problem : UsageProblem

/-- The page that is shown for a problem. -/
def UsageError.page (error : UsageError) : Text :=
  (if error.problem.recallsUsage then error.part.usage ++ "\n" else "")
    ++ "Error: " ++ error.problem.message ++ "\n"

end StackShell.CommandLine
