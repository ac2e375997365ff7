import StackShell.CommandLine.Operands

/-!
# What a command line asks for

The words that are no shared options choose a command: a single script runs as a file, no words at
all run the standard input or open a dialogue, and anything else is a row of actions, done in
order.
-/

namespace StackShell.CommandLine

/-- One thing to do. -/
inductive Action where
  /-- Run the code, then show the top of the stack. -/
  | inline (code : Text)
  /-- Run the script in a file. -/
  | file (path : Text)
  /-- Open a dialogue. -/
  | dialogue

/-- The command words that the rest of a command line stands for. -/
def route (folder : Folder) (interactive : Bool) (rest : List Text) : List Text :=
  match rest with
  | [] => if interactive then ["run-repl"] else ["run-file", "-"]
  | [word] =>
    if word == "-" then ["run-file", "-"]
    else if word == "-r" || word == "--repl" then ["run-repl"]
    else if !startsWith "-" word && folder.hasFile word then ["run-file", word]
    else ["run-dev", word]
  | words => "run-dev" :: words

/-- The code that follows the equals sign in a word that starts inline code. -/
def inlineCode? (word : Text) : Option Text :=
  if startsWith "-c=" word || startsWith "--command=" word then
    some (Text.ofList ((word.toList.dropWhile (· != .char '=')).drop 1))
  else none

/-- The action of a word that stands alone. A word of two dashes is passed over. -/
def actionOf (folder : Folder) (word : Text) : Except UsageProblem (Option Action) :=
  if word == "--" then .ok none
  else
    match inlineCode? word with
    | some code => if code.isEmpty then .error .emptyCode else .ok (some (.inline code))
    | none =>
      if word == "-r" || word == "--repl" then .ok (some .dialogue)
      else if startsWith "-" word then .error (.unknownOption word)
      else if folder.hasFile word then .ok (some (.file (Folder.plainPath word)))
      else .error (.scriptNotFound word)

/-- The actions of a row of words, up to the first word that is refused. -/
def actions (folder : Folder) : List Text → List Action × Option UsageProblem
  | [] => ([], none)
  | word :: rest =>
    if word == "-c" || word == "--command" then
      match rest with
      | [] => ([], some .missingCode)
      | code :: rest =>
        let (row, problem) := actions folder rest
        (.inline code :: row, problem)
    else
      match actionOf folder word with
      | .error problem => ([], some problem)
      | .ok action =>
        let (row, problem) := actions folder rest
        (action.toList ++ row, problem)

/-- What a command line asks for. -/
inductive Plan where
  /-- Run a script that was given by name, or the standard input. -/
  | script (source : Option Text)
  /-- Do the actions in order. -/
  | actions (row : List Action)
  /-- Open a dialogue. -/
  | dialogue

/-- Opens the script of a name. -/
def openScript (folder : Folder) (name : Text) : Except UsageProblem Plan :=
  if name == "-" then .ok (.script none)
  else
    match folder.look name with
    | .file .. => .ok (.script (some name))
    | .folder => .error (.unreadableScript name .folder)
    | .blocked => .error (.unreadableScript name .blocked)
    | .vacant _ | .missing => .error (.unreadableScript name .absent)

/-! ## Commands -/

/-- How a command takes words that look like options and are none: only the one that does actions
sorts them out itself. -/
def Subcommand.manner : Subcommand → Manner
  | .runDev => .lenient
  | .runFile | .runRepl => .strict

/-- The plan that a command makes of its operands. -/
def Subcommand.plan (folder : Folder) (words : List Text) :
    Subcommand → Except UsageProblem Plan
  | .runFile =>
    match words with
    | [] => .error .missingScript
    | name :: extra => do
      let plan ← openScript folder name
      if extra.isEmpty then return plan else throw (.extraWords extra)
  | .runDev =>
    match actions folder words with
    | (_, some problem) => .error problem
    | ([], none) => .ok .dialogue
    | (row, none) => .ok (.actions row)
  | .runRepl => if words.isEmpty then .ok .dialogue else .error (.extraWords words)

/-- The plan that a command makes of the words after it. Who asks for help has nothing done. -/
def Subcommand.planWords (folder : Folder) (command : Subcommand) (words : List Text) :
    Except UsageProblem (Option Plan) := do
  let operands ← Operands.read command.manner words
  if operands.help then return none else return some (← command.plan folder operands.words)

/-- What is wrong with words that start with no command. They may have been meant as shared options,
so they are read as such first; what is wrong with those goes before the missing command. -/
def refuseCommand (folder : Folder) (name : Text) (rest : List Text) :
    Except UsageProblem (Option Plan) := do
  let (given, _) ← Given.none.read (name :: rest)
  if given.help then return none
  let _ ← given.settings folder
  throw (.noSuchCommand name (Text.similar name (Subcommand.all.map Subcommand.name)))

/-- The plan of the words that follow the shared options. Without any there is nothing to do. -/
def planOf (folder : Folder) : List Text → Except UsageError (Option Plan)
  | [] => .ok none
  | name :: rest =>
    match Subcommand.ofName? name with
    | some command => (command.planWords folder rest).mapError fun p => ⟨.command command, p⟩
    | none => (refuseCommand folder name rest).mapError fun p => ⟨.options, p⟩

/-- The settings and the plan of a command line, unless there is nothing to do. -/
def understand (folder : Folder) (interactive : Bool) (words : List Text) :
    Except UsageError (Option (Settings × Plan)) := do
  let sorted := sortWords words
  let inOptions {α : Type} (r : Except UsageProblem α) : Except UsageError α :=
    r.mapError fun p => ⟨.options, p⟩
  let (given, command) ←
    inOptions (Given.none.read (sorted.options ++ route folder interactive sorted.rest))
  if given.help then return none
  let settings ← inOptions (given.settings folder)
  let plan? ← planOf folder command
  return plan?.map fun plan => (settings, plan)

end StackShell.CommandLine
