import StackShell.Host.Basic

/-!
# Terminals

A terminal is a session with a transcript that viewers watch. Input is echoed, then run; what the
script puts out follows, and a failure of the script ends in one line of its own. A viewer gets the
whole transcript when it comes and when the transcript is cleared, and otherwise each new piece.

A failure that is not the script's own escapes to the caller; the transcript then shows the echo and
what was put out before.
-/

namespace StackShell

/-- What a viewer is told. -/
inductive Notice where
  /-- More text at the end. -/
  | output (text : Text)
  /-- The whole text. -/
  | contents (text : Text)

/-- A notice and the viewer that gets it. -/
structure Delivery where
  viewer : Text
  notice : Notice

/-- A session, its transcript, and who watches it. -/
structure Terminal where
  host : Host
  session : Session
  transcript : Text
  /-- The viewers in the order in which they came. -/
  viewers : List Text
  closed : Bool

namespace Terminal

/-- The checkpoint of a terminal: nothing runs once it is closed. -/
def guard (closed : Bool) : Checkpoint := fun _ s =>
  if closed then s.fail (.cancelled .terminalClosed) else .done s

/-- A terminal on a session. -/
def on (host : Host) (session : Session) (transcript : Text) : Terminal :=
  let state := { session.state with device := .transcript }
  { host, session := { session with state, checkpoint := guard false }, transcript, viewers := [],
    closed := false }

/-- A terminal on a fresh session. -/
def new (host : Host) (transcript : Text) : Except Failure Terminal := do
  return on host (← host.newSession .transcript) transcript

/-- Tells all viewers. -/
def tell (t : Terminal) (notice : Notice) : List Delivery :=
  t.viewers.map fun viewer => ⟨viewer, notice⟩

/-- Adds text to the transcript. -/
def print (t : Terminal) (text : Text) : Terminal × List Delivery :=
  ({ t with transcript := t.transcript ++ text }, t.tell (.output text))

/-- Empties the transcript. -/
def clear (t : Terminal) : Terminal × List Delivery :=
  ({ t with transcript := "" }, t.tell (.contents ""))

/-- A viewer comes and gets the whole transcript. -/
def attach (t : Terminal) (viewer : Text) : Terminal × List Delivery :=
  ({ t with viewers := t.viewers ++ [viewer] }, [⟨viewer, .contents t.transcript⟩])

/-- A viewer goes. -/
def detach (t : Terminal) (viewer : Text) : Terminal :=
  { t with viewers := t.viewers.erase viewer }

/-- Shows an event of a run. -/
def display (t : Terminal) : Event → Terminal × List Delivery
  | .print text => t.print text
  | .clear => t.clear
  | .trace .. => (t, [])

/-- Shows the events of a run in order. -/
def displayAll (t : Terminal) : List Event → Terminal × List Delivery
  | [] => (t, [])
  | e :: rest =>
    let (t, first) := t.display e
    let (t, others) := t.displayAll rest
    (t, first ++ others)

/-- The line that reports a failed submission. A place is named if it is one of a source text. -/
def errorLine (cause : Cause) (place : Option Location) : Text :=
  match cause.kind with
  | .parse | .incomplete => "Parse Error: " ++ cause.message ++ "\n"
  | _ =>
    let suffix := match place with
      | some l => if l.line > 0 then " (" ++ l.text ++ ")" else ""
      | none => ""
    "Error: " ++ cause.message ++ suffix ++ "\n"

/-- How the handling of input ended: whether the script succeeded, or a failure that escapes. -/
abbrev Handled := Except Fault Bool

/-- Echoes and runs a line of input. -/
def input [Platform] (t : Terminal) (text : Text) : Terminal × List Delivery × Handled :=
  let (t, echo) := t.print (">" ++ text ++ "\n")
  let (session, failure) := t.session.submit text (some "<TERMINAL>")
  let (events, session) := session.takeEvents
  let (t, shown) := { t with session }.displayAll events
  match failure with
  | none => (t, echo ++ shown, .ok true)
  | some (.fault fault) => (t, echo ++ shown, .error fault)
  | some (.script cause place) =>
    let (t, report) := t.print (errorLine cause place)
    (t, echo ++ shown ++ report, .ok false)

/-- Hands in a line of input, which a closed terminal refuses. -/
def submit [Platform] (t : Terminal) (text : Text) : Terminal × List Delivery × Handled :=
  if t.closed then (t, [], .error .terminalClosed) else t.input text

/-- Asks the script that runs to stop. -/
def cancel (t : Terminal) : Terminal :=
  { t with session := t.session.cancel }

/-- Closes the terminal: nothing runs any more. -/
def close (t : Terminal) : Terminal :=
  { t with session := { t.session.cancel with checkpoint := guard true }, closed := true }

/-- The terminal as a document. -/
def encode (t : Terminal) : Except Failure Document := do
  let context ← Snapshot.encode t.session.state
  return .object [.mk "context" context, .mk "logs" (.string t.transcript)]

/-- The terminal as text. -/
def dump (t : Terminal) : Except Failure Text := do
  let d ← t.encode
  (d.write .line).mapError Failure.fault

/-- A terminal from a document. -/
def decode (host : Host) (d : Document) : Except Failure Terminal :=
  match d with
  | .object fields => do
    let context ← Snapshot.required "context" fields
    let session ← host.restore context .transcript
    let transcript := ((Document.lookup "logs" fields).map Document.plain).getD ""
    return on host session transcript
  | d => Snapshot.noField d

/-- A terminal from text. -/
def load (host : Host) (text : Text) : Except Failure Terminal := do
  decode host (← Document.read text)

end Terminal

end StackShell
