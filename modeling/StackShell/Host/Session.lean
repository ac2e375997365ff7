import StackShell.Command.Vocabulary
import StackShell.Machine
import StackShell.Program.Reader
import StackShell.Snapshot.Decode

/-!
# Sessions

A session is a state with all that is needed to run programs on it: the vocabulary, the limit of
steps and the checkpoint. A submission reads a source text and runs it; a text that cannot be read
runs not at all.
-/

namespace StackShell

/-- A state and all that is needed to run programs on it. -/
structure Session where
  vocabulary : Vocabulary
  limit : Option Int
  checkpoint : Checkpoint
  state : State

namespace Session

variable [Platform]

/-- A session on a state. -/
def on (vocabulary : Vocabulary) (limit : Option Int) (state : State) : Session :=
  { vocabulary, limit, checkpoint := .pass, state }

/-- What programs of the session depend on. -/
def environment (s : Session) : Environment where
  command? := s.vocabulary.command?
  limit := s.limit
  checkpoint := s.checkpoint
  depth := Platform.depth

/-- The session after a piece of work, and its failure if it failed. -/
def settle (s : Session) : Outcome → Session × Option Failure
  | .done state => ({ s with state }, none)
  | .failed failure state => ({ s with state }, some failure)

/-- Reads a source text with the commands of the session. -/
def parse (s : Session) (source : Text) (file : Option Text) : Except Failure Program :=
  Program.parse s.vocabulary.contains source file

/-- Runs statements, going on with the count of steps. -/
def exec (s : Session) (program : Program) : Session × Option Failure :=
  s.settle (s.environment.exec patience program s.state)

/-- Runs a program from step zero. -/
def run (s : Session) (program : Program) : Session × Option Failure :=
  s.settle (s.environment.submit patience program s.state)

/-- Asks the run to stop. -/
def cancel (s : Session) : Session :=
  { s with state := { s.state with cancelled := true } }

/-- Drops a request to stop. -/
def resume (s : Session) : Session :=
  { s with state := { s.state with cancelled := false } }

/-- Reads and runs a source text. An earlier request to stop is dropped. -/
def submit (s : Session) (source : Text) (file : Option Text) : Session × Option Failure :=
  let s := s.resume
  match s.parse source file with
  | .error failure => (s, some failure)
  | .ok program => s.run program

/-- The events since they were last taken, in order, and the session without them. -/
def takeEvents (s : Session) : List Event × Session :=
  (s.state.log.reverse, { s with state := { s.state with log := [] } })

/-- The persisted form of the session as text. -/
def dump (s : Session) (style : Document.Style) : Except Failure Text := do
  let d ← Snapshot.encode s.state
  (d.write style).mapError Failure.fault

end Session

end StackShell
