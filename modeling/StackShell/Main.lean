import StackShell.CommandLine.Run

/-!
# The program

The outer layer of the command line: it reads the files that the words name, asks for the lines of a
dialogue, and sends to the streams and the files what the run has written. All decisions are made by
`StackShell.CommandLine`.
-/

namespace StackShell.CommandLine

attribute [local instance] Platform.basic

/-- What the bytes of a file are. -/
def contentOf (bytes : ByteArray) : Content :=
  match String.fromUTF8? bytes with
  | some text => .text text
  | none => .undecodable "'utf-8' codec can't decode bytes"

/-- Adds to a folder what stands at some names. -/
def survey (f : Folder) (names : List Text) : IO Folder := do
  if f.isFolder names then return f
  let path := Folder.joined names
  match ← (IO.FS.readBinFile path.escaped).toBaseIO with
  | .ok bytes => return { f with files := f.files.insert path (contentOf bytes) }
  | .error (.inappropriateType ..) => return { f with folders := names :: f.folders }
  | .error _ => return f

/-- What the words of a command line may name: each word, and the value of an option. -/
def paths (words : List Text) : List Text :=
  words.flatMap fun word =>
    match word.toList.dropWhile (· != .char '=') with
    | _ :: value => [word, Text.ofList value]
    | [] => [word]

/-- The part of the file system that a command line names. -/
def surveyAll (words : List Text) : IO Folder :=
  ((paths words).flatMap Folder.passed).foldlM survey ⟨.empty, []⟩

/-- Sends what has been written to the streams. -/
def send (c : Console) : IO Unit := do
  let output ← IO.getStdout
  output.putStr c.output.escaped
  output.flush
  (← IO.getStderr).putStr c.errors.escaped

/-- Sends what a runner has written so far. -/
def flush (r : Runner) : IO Runner := do
  send r.console
  return { r with console := .blank r.console.plain }

/-- A text that was read, with plain line ends. -/
def received (text : String) : Text :=
  Text.ofList (Text.plainLineEnds (text : Text).toList)

/-- All that is left to read from a stream, after what was read before. -/
partial def readOn (stream : IO.FS.Stream) (before : String) : IO String := do
  let line ← stream.getLine
  if line.isEmpty then return before else readOn stream (before ++ line)

/-- A dialogue, line by line. -/
partial def talk (r : Runner) (pending : List Text) : IO Step := do
  let r ← flush (r.prompt pending)
  let line ← (← IO.getStdin).getLine
  if line.isEmpty then return .next (r.say "\n")
  match r.feed pending (Text.dropLineFeeds (received line)) with
  | .again r pending => talk r pending
  | .leave r => return .next r
  | .escape failure r => return .escape failure r

/-- Does actions in order, counting them from `index` on. -/
def perform (r : Runner) (index : Nat) : List Action → IO Step
  | [] => return .next r
  | action :: rest => do
    let step ← match action with
      | .dialogue => talk r.greet []
      | _ => pure (r.act index action []).1
    match step with
    | .next r => perform (← flush r) (index + 1) rest
    | _ => return step

/-- Does what a command line asks for. -/
def work (r : Runner) (plan : Plan) : IO Step := do
  match plan with
  | .script none =>
    let input ← readOn (← IO.getStdin) ""
    return r.carryOut plan (received input)
  | .actions row => perform r 1 row
  | .dialogue => talk r.greet []
  | _ => return r.carryOut plan ""

/-- Writes the files that a run has changed. -/
def store (before after : Folder) : IO Unit :=
  for (path, content) in after.files.entries do
    if before.files.get? path != some content then
      if let .text text := content then IO.FS.writeFile path.escaped text

/-- Ends the program with what a run leaves. -/
def conclude (before : Folder) (result : Result) : IO UInt32 := do
  send result.console
  store before result.folder
  match result.ending with
  | .ok code => return code.toUInt32
  | .error failure =>
    (← IO.getStderr).putStr (trail failure.label failure.message).escaped
    return 1

end StackShell.CommandLine

open StackShell CommandLine

attribute [local instance] Platform.basic in
/-- The program. -/
def main (words : List String) : IO UInt32 := do
  let words := words.map Text.ofString
  let folder ← surveyAll words
  let interactive ← (← IO.getStdin).isTty
  let started ← IO.monoMsNow
  match prepare { words, folder, interactive, shelf := [] } with
  | .error result => conclude folder result
  | .ok (r, plan) =>
    let step ← work r plan
    let elapsed := (← IO.monoMsNow) - started
    conclude folder (step.andThen fun r => r.finish elapsed).result
