import StackShell.CommandLine.Action
import StackShell.CommandLine.Runner

/-!
# A run of the command line

From the words of a command line, the standard input and the working folder to what is written and
the code that the run ends with. Nothing runs before all words are understood.
-/

namespace StackShell.CommandLine

/-- What a run starts from. -/
structure Setup where
  words : List Text
  folder : Folder
  /-- Whether somebody sits at the standard input. -/
  interactive : Bool
  shelf : Shelf

/-- What a run leaves. -/
structure Result where
  /-- The code that the run ends with, or the failure that ended it. -/
  ending : Except Failure Nat
  console : Console
  folder : Folder

/-- The result of a runner whose work is over. -/
def Step.result : Step → Result
  | .next r => ⟨.ok 0, r.console, r.folder⟩
  | .quit code r => ⟨.ok code, r.console, r.folder⟩
  | .escape failure r => ⟨.error failure, r.console, r.folder⟩

/-- The name of inline code: it counts the actions from one on. -/
def inlineName (index : Nat) : Text :=
  "<INPUT_" ++ toString index ++ ">"

/-- Does one action, with the lines of input that are left. -/
def Runner.act [Platform] (r : Runner) (index : Nat) (action : Action) (lines : List Text) :
    Step × List Text :=
  match action with
  | .inline code => (r.execute code (inlineName index) true, lines)
  | .file path =>
    match r.folder.read path with
    | .ok source => (r.execute source path false, lines)
    | .error fault => (.escape (.fault fault) r, lines)
  | .dialogue => r.dialogue lines

/-- Does actions in order, counting them from `index` on, until the run is over. -/
def Runner.actAll [Platform] (r : Runner) (index : Nat) : List Action → List Text → Step
  | [], _ => .next r
  | action :: rest, lines =>
    match r.act index action lines with
    | (.next r, lines) => r.actAll (index + 1) rest lines
    | (step, _) => step

/-- The name of the standard input. -/
def inputName : Text := "<stdin>"

/-- Does what a command line asks for. -/
def Runner.carryOut [Platform] (r : Runner) (plan : Plan) (input : Text) : Step :=
  let lines := Text.inputLines input
  match plan with
  | .script none => r.execute input inputName false
  | .script (some name) =>
    match r.folder.read name with
    | .ok source => r.execute source name false
    | .error fault => .escape (.fault fault) r
  | .actions row => r.actAll 1 row lines
  | .dialogue => (r.dialogue lines).1

/-- The line that reports why a run was refused. -/
def refusalLine (message : Text) : Text :=
  "Error: " ++ message ++ "\n"

/-- The result of a run that is refused with a message. -/
def refused (console : Console) (folder : Folder) (code : Nat) (message : Text) : Result :=
  match console.complainBare message with
  | .ok console => ⟨.ok code, console, folder⟩
  | .error fault => ⟨.error (.fault fault), console, folder⟩

/-- A runner and its plan; or at once the result, if there is nothing to do or the run is
refused. -/
def prepare (setup : Setup) : Except Result (Runner × Plan) :=
  let folder := setup.folder
  match understand folder setup.interactive setup.words with
  | .error error => .error (refused (.blank false) folder 2 error.page)
  | .ok none => .error ⟨.ok 0, .blank false, folder⟩
  | .ok (some (settings, plan)) =>
    let console := Console.blank settings.plain
    match Runner.open settings setup.shelf folder with
    | .error (.reported message) => .error (refused console folder 1 (refusalLine message))
    | .error (.escaped failure) => .error ⟨.error failure, console, folder⟩
    | .ok r => .ok (r, plan)

/-- A whole run on a standard input, which takes no time. -/
def run [Platform] (setup : Setup) (input : Text) : Result :=
  match prepare setup with
  | .error result => result
  | .ok (r, plan) =>
    let input := Text.ofList (Text.plainLineEnds input.toList)
    ((r.carryOut plan input).andThen fun r => r.finish 0).result

end StackShell.CommandLine
