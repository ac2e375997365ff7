import StackShell.CommandLine.Console
import StackShell.CommandLine.Report
import StackShell.CommandLine.Settings
import StackShell.Diagnostic.Columns
import StackShell.Host.Basic

/-!
# Runners

A runner submits sources to one session, reports what fails, and keeps the session in a file if it
is asked to. After a failure it saves the session and quits, unless failures are to be ignored.
-/

namespace StackShell.CommandLine

/-- A session at work for a command line. -/
structure Runner where
  settings : Settings
  session : Session
  folder : Folder
  console : Console
  /-- Whether a submission has failed. -/
  failed : Bool
  /-- How many submissions have succeeded. -/
  completed : Nat
  /-- The steps of all submissions together. -/
  totalSteps : Nat

/-- How a piece of a runner's work ended. -/
inductive Step where
  /-- The run goes on. -/
  | next (runner : Runner)
  /-- The run is over. -/
  | quit (code : Nat) (runner : Runner)
  /-- A failure that nobody reports ended the run. -/
  | escape (failure : Failure) (runner : Runner)

/-- Goes on with more work, if the run does. -/
def Step.andThen (step : Step) (work : Runner → Step) : Step :=
  match step with
  | .next r => work r
  | .quit code r => .quit code r
  | .escape failure r => .escape failure r

/-- Writes the columns of a line, one after the other, behind what stands on it: the line as far as
it gets, and the fault that stops it. -/
def writeColumns (plain : Bool) (line : Text) : List Text → Text × Option Fault
  | [] => (line, none)
  | column :: columns =>
    match (Console.dress plain column).written with
    | .ok _ => writeColumns plain (line ++ column) columns
    | .error fault => (line, some fault)

/-- The checkpoint of a verbose run: it shows the stack and the statement that comes. -/
def announce (plain : Bool) : Checkpoint := fun statement s =>
  let count := Colour.paint Colour.grey (Text.alignRight 4 (toString s.steps) ++ " :") ++ " "
  let (line, fault) :=
    match Columns.both Columns.usualWidth statement s.stack with
    | .ok (left, right) => writeColumns plain count [left, right]
    | .error fault => (count, some fault)
  let s := s.emit (.trace s.steps line)
  match fault with
  | none => .done s
  | some fault => .failed (.fault fault) s

/-! ## Opening -/

/-- Why a runner cannot be opened. -/
inductive Refusal where
  /-- It is reported in one line. -/
  | reported (message : Text)
  /-- A failure that nobody reports. -/
  | escaped (failure : Failure)

/-- The refusal that a failure before any submission leads to. -/
def Refusal.ofFailure (failure : Failure) : Refusal :=
  match failure with
  | .script cause _ =>
    if cause.kind = .extension then .reported cause.message else .escaped failure
  | .fault _ => .escaped failure

/-- Registers extensions in order. -/
def loadExtensions (h : Host) : List Text → Except Failure Host
  | [] => .ok h
  | name :: rest =>
    match h.loadExtension name with
    | .ok h => loadExtensions h rest
    | .error failure => .error failure

/-- The session that a runner starts with: a fresh one, or the one in the state file. -/
def openSession (h : Host) (folder : Folder) (stateFile : Option Text) : Except Refusal Session :=
  let fresh : Except Refusal Session := (h.newSession .console).mapError Refusal.ofFailure
  match stateFile with
  | none => fresh
  | some path =>
    match folder.look path with
    | .vacant _ | .missing | .blocked => fresh
    | .file .. | .folder =>
      match folder.read path with
      | .error fault => .error (.escaped (.fault fault))
      | .ok text =>
        match h.load text .console with
        | .ok session => .ok session
        | .error failure =>
          .error <| match failure with
            | .script cause _ =>
              if cause.kind = .codec then
                .reported ("Could not restore state from `" ++ path ++ "`: " ++ cause.message)
              else .ofFailure failure
            | .fault _ => .ofFailure failure

/-- Opens a runner. -/
def Runner.open (settings : Settings) (shelf : Shelf) (folder : Folder) :
    Except Refusal Runner := do
  let host ← (loadExtensions (.new settings.limit shelf) settings.extensions).mapError
    Refusal.ofFailure
  let session ← openSession host folder settings.stateFile
  let session :=
    if settings.verbosity > 0 then { session with checkpoint := announce settings.plain }
    else session
  return { settings, session, folder, console := .blank settings.plain, failed := false,
           completed := 0, totalSteps := 0 }

namespace Runner

/-- Writes a text without surrogates to the console. -/
def say (r : Runner) (text : Text) : Runner :=
  { r with console := r.console.write text }

/-! ## Submissions -/

/-- What a runner's own work leads to: a runner that goes on, or a failure that nobody reports. -/
abbrev Effect := Except (Failure × Runner) Runner

/-- Saves the session in the state file, if there is one. -/
def save (r : Runner) : Effect :=
  match r.settings.stateFile with
  | none => .ok r
  | some path =>
    match r.session.dump (.block "  ") with
    | .error failure => .error (failure, r)
    | .ok text =>
      match r.folder.write path (text ++ "\n") with
      | .ok folder => .ok { r with folder }
      | .error (fault, folder) => .error (.fault fault, { r with folder })

/-- Submits a source and shows what it puts out: the failure, if it failed. -/
def submit [Platform] (r : Runner) (source name : Text) : Runner × Option Failure :=
  let (session, failure) := r.session.submit source (some name)
  let (events, session) := session.takeEvents
  ({ r with session, console := r.console.displayAll events }, failure)

/-- Reports a failure on the console. -/
def report (r : Runner) (failure : Failure) (name source : Text) : Effect :=
  match reportOf failure name source r.session.state.stack >>= (r.console.complain ·.text) with
  | .ok console => .ok { r with console }
  | .error fault => .error (.fault fault, r)

/-- What follows a report: the run goes on if failures are ignored, and is over otherwise. -/
def afterReport (r : Runner) : Step :=
  let r := { r with failed := true }
  if r.settings.ignore then .next r
  else
    match r.save with
    | .ok r => .quit 1 r
    | .error (failure, r) => .escape failure r

/-- Shows the top of the stack, if there is one, after some mark. -/
def showTop (r : Runner) (mark : Text) : Effect :=
  match r.session.state.stack with
  | [] => .ok r
  | value :: _ =>
    match value.source with
    | .error fault => .error (.fault fault, r)
    | .ok text =>
      let r := r.say mark
      match r.console.tryWrite text with
      | .error fault => .error (.fault fault, r)
      | .ok console => .ok ({ r with console }.say "\n")

/-- Counts a submission that succeeded. -/
def complete (r : Runner) : Runner :=
  { r with completed := r.completed + 1 }

/-- Runs a source. The steps that the session has counted by then are added up in any case. -/
def execute [Platform] (r : Runner) (source name : Text) (withTop : Bool) : Step :=
  let (r, failure) := r.submit source name
  let r := { r with totalSteps := r.totalSteps + r.session.state.steps }
  match failure with
  | some failure =>
    match r.report failure name source with
    | .ok r => r.afterReport
    | .error (failure, r) => .escape failure r
  | none =>
    let r := r.complete
    if withTop then
      match r.showTop "" with
      | .ok r => .next r
      | .error (failure, r) => .escape failure r
    else .next r

/-! ## Dialogues -/

/-- The name of what is typed in a dialogue. -/
def dialogueName : Text := "<REPL>"

/-- Opens a dialogue. -/
def greet (r : Runner) : Runner :=
  r.say "stackterm - Interactive terminal; type `exit` or Ctrl+D to leave.\n"

/-- Asks for a line. The prompt tells whether lines are pending. -/
def prompt (r : Runner) (pending : List Text) : Runner :=
  r.say (Colour.paint Colour.cyan (if pending.isEmpty then "<<< " else "... "))

/-- What a line leads to. -/
inductive Reply where
  /-- Another line is asked for; those that are pending will go before it. -/
  | again (runner : Runner) (pending : List Text)
  /-- The dialogue is over. -/
  | leave (runner : Runner)
  /-- A failure that nobody reports ended the run. -/
  | escape (failure : Failure) (runner : Runner)

/-- Submits the pending lines: they stay pending as long as a block is open. -/
def answer [Platform] (r : Runner) (pending : List Text) : Reply :=
  let source := Text.intercalate "\n" pending
  match r.submit source dialogueName with
  | (r, none) =>
    match r.showTop (Colour.paint Colour.grey ">>>" ++ " ") with
    | .ok r => .again r []
    | .error (failure, r) => .escape failure r
  | (r, some failure) =>
    if failure.isIncomplete then .again r pending
    else
      match r.report failure dialogueName source with
      | .ok r => .again r []
      | .error (failure, r) => .escape failure r

/-- Takes a line of a dialogue. Blank lines are passed over; a line that asks to leave does so
unless lines are pending. -/
def feed [Platform] (r : Runner) (pending : List Text) (line : Text) : Reply :=
  let word := Text.trim line
  if word.isEmpty then .again r pending
  else if pending.isEmpty && (word == "exit" || word == "quit") then .leave r
  else r.answer (pending ++ [line])

/-- Goes through a dialogue with the lines that are left, which it may not use up. -/
def converse [Platform] (r : Runner) (pending : List Text) : List Text → Step × List Text
  | [] => (.next ((r.prompt pending).say "\n"), [])
  | line :: rest =>
    match (r.prompt pending).feed pending line with
    | .again r pending => r.converse pending rest
    | .leave r => (.next r, rest)
    | .escape failure r => (.escape failure r, rest)

/-- A whole dialogue. -/
def dialogue [Platform] (r : Runner) (lines : List Text) : Step × List Text :=
  r.greet.converse [] lines

/-! ## The end -/

/-- A time in seconds with three places, from milliseconds. -/
def seconds (milliseconds : Nat) : Text :=
  let places := Text.digits (milliseconds % 1000)
  let zeros := List.replicate (3 - places.length) (.char '0')
  toString (milliseconds / 1000) ++ "." ++ Text.ofList (zeros ++ places) ++ "s"

/-- The summary of a run that took some milliseconds. -/
def statistics (r : Runner) (elapsed : Nat) : Text :=
  let heading :=
    Colour.code Colour.white ++ Colour.code "48;5;30" ++ " STATISTICS. " ++ Colour.reset
  let row (name value : Text) : Text := name ++ "\t" ++ Colour.paint Colour.white value ++ "\n"
  "\n" ++ heading ++ "\n" ++ row "steps" (Text.grouped r.totalSteps)
    ++ row "time" (seconds elapsed)

/-- Saves the session, shows the summary if it is asked for, and ends the run. -/
def finish (r : Runner) (elapsed : Nat) : Step :=
  match r.save with
  | .error (failure, r) => .escape failure r
  | .ok r =>
    let r := if r.settings.stats && r.completed > 0 then r.say (r.statistics elapsed) else r
    .quit (if r.failed then 1 else 0) r

end Runner

end StackShell.CommandLine
