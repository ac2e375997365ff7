import StackShell.State

/-!
# The machine

Programs run on a machine that takes one small step at a time. Beside the state it holds the
statements that run now and a pile of frames: what is to be done once they are through. A function
is called by piling up a frame and running its body, so there is no recursion to bound.

Before each statement, and again each time a loop comes round, the machine checks whether it may go
on: it may not after a request to stop, nor once the limit of steps is reached, and a checkpoint of
the host may have its own say. A failure while a statement runs is given the place of the innermost
statement, among those that are running, that has one; a check that fails belongs to the statements
around it.
-/

namespace StackShell

/-- What the host does before each statement. -/
abbrev Checkpoint := Statement → State → Outcome

/-- The checkpoint that lets everything pass. -/
def Checkpoint.pass : Checkpoint := fun _ s => .done s

/-- What a run depends on and does not change. -/
structure Environment where
  /-- The command under a name. -/
  command? : Text → Option Command
  /-- The most statements that a run may begin. -/
  limit : Option Int
  checkpoint : Checkpoint
  /-- How many parts of programs may be under way within one another: bodies of functions, parts of
  conditionals, and conditions and bodies of loops. -/
  depth : Nat

/-- What is to be done once the statements that run now are through; `rest` follows in the part of
the program that they interrupted. -/
inductive Frame where
  /-- They are the body of a function called from `place`. -/
  | call (place : Location) (rest : Program)
  /-- They are the part of a conditional that was chosen. -/
  | chosen (rest : Program)
  /-- They are a condition: if it gives true, `body` runs, and the other branches otherwise. -/
  | branch (body : Program) (others : List Branch) (otherwise : Option Program) (rest : Program)
  /-- They are the condition of a loop. -/
  | loopCondition (condition body : Program) (rest : Program)
  /-- They are the body of a loop, which comes round. -/
  | loopBody (condition body : Program) (rest : Program)

/-- A machine at work. -/
structure Machine where
  code : Program
  frames : List Frame
  state : State

/-- What a step leads to. -/
inductive Progress where
  | running (machine : Machine)
  | stopped (outcome : Outcome)

namespace Environment

/-- Whether the statement may begin: a request to stop comes first, then the limit, then the
checkpoint. -/
def check (env : Environment) (statement : Statement) (s : State) : Outcome :=
  if s.cancelled then s.fail (.cancelled .requested)
  else
    match env.limit with
    | some n =>
      if (s.steps : Int) ≥ n then s.fail (.cancelled (.limit n)) else env.checkpoint statement s
    | none => env.checkpoint statement s

end Environment

/-- The place that a frame gives to a failure. -/
def Frame.place? : Frame → Option Location
  | .call place _ => some place
  | .chosen _ | .branch .. | .loopCondition .. | .loopBody .. => none

/-- Gives a failure the first place found on the pile, unless it has one. -/
def locateIn (frames : List Frame) (failure : Failure) : Failure :=
  match frames.findSome? Frame.place? with
  | some place => failure.locate place
  | none => failure

namespace Machine

/-- A machine that starts on a program. -/
def start (program : Program) (s : State) : Machine :=
  ⟨program, [], s⟩

/-- Goes on with the branches that are left. -/
def choose (branches : List Branch) (otherwise : Option Program) (rest : Program)
    (frames : List Frame) (s : State) : Machine :=
  match branches, otherwise with
  | branch :: others, _ =>
    ⟨branch.condition, .branch branch.body others otherwise rest :: frames, s⟩
  | [], some body => ⟨body, .chosen rest :: frames, s⟩
  | [], none => ⟨rest, frames, s⟩

/-- Lets a machine go on with a part of a program that is nested within what `frames` holds. -/
def nest (env : Environment) (frames : List Frame) (m : Machine) :
    Except (Failure × State) Machine :=
  if frames.length < env.depth then .ok m else .error (.fault .depth, m.state)

/-- What a statement does once it may begin; `rest` follows it. Only a command can fail after it
changed the state. -/
def execute (env : Environment) (statement : Statement) (rest : Program) (frames : List Frame)
    (s : State) : Except (Failure × State) Machine :=
  let orFail {α : Type} (result : Except Failure α) (next : α → Except (Failure × State) Machine) :
      Except (Failure × State) Machine :=
    match result with
    | .ok a => next a
    | .error failure => .error (failure, s)
  match statement with
  | .literal value _ => .ok ⟨rest, frames, s.push value⟩
  | .load name _ => orFail (s.lookup name) fun v => .ok ⟨rest, frames, s.push v⟩
  | .store name _ => orFail s.pop fun (v, s) => .ok ⟨rest, frames, s.assign name v⟩
  | .invoke name _ =>
    match env.command? name with
    | none => .error (.of (.unknownCommand name), s)
    | some command =>
      match command s with
      | .done s => .ok ⟨rest, frames, s⟩
      | .failed failure s => .error (failure, s)
  | .call none place =>
    orFail s.popFunction fun (body, s) => nest env frames ⟨body, .call place rest :: frames, s⟩
  | .call (some name) place =>
    orFail (s.lookup name >>= Value.asFunction) fun body =>
      nest env frames ⟨body, .call place rest :: frames, s⟩
  | .conditional branches otherwise => nest env frames (choose branches otherwise rest frames s)
  | .whileLoop condition body =>
    nest env frames ⟨[], .loopBody condition body rest :: frames, s⟩
  | .define none body => .ok ⟨rest, frames, s.push (.function body)⟩
  | .define (some name) body => .ok ⟨rest, frames, s.assign name (.function body)⟩
  | .stray => .error (.fault (.unknownStatement "Branch"), s)

/-- Gives a failure of a statement its place. -/
def locate (statement : Statement) (frames : List Frame) (failure : Failure) : Failure :=
  match statement.place? with
  | some place => failure.locate place
  | none => locateIn frames failure

/-- The step that begins a statement. -/
def begin (env : Environment) (statement : Statement) (rest : Program) (frames : List Frame)
    (s : State) : Progress :=
  match env.check statement s with
  | .failed failure s => .stopped (.failed (locateIn frames failure) s)
  | .done s =>
    match execute env statement rest frames { s with steps := s.steps + 1 } with
    | .ok m => .running m
    | .error (failure, s) => .stopped (.failed (locate statement frames failure) s)

/-- Takes the outcome of a condition and goes on. -/
def decideBy (frames : List Frame) (s : State) (next : Bool → State → Machine) : Progress :=
  match s.popBoolean with
  | .ok (b, s) => .running (next b s)
  | .error failure => .stopped (.failed (locateIn frames failure) s)

/-- The step that follows when the statements that ran are through. -/
def resume (env : Environment) (frame : Frame) (frames : List Frame) (s : State) : Progress :=
  match frame with
  | .call _ rest | .chosen rest => .running ⟨rest, frames, s⟩
  | .branch body others otherwise rest =>
    decideBy frames s fun taken s =>
      if taken then ⟨body, .chosen rest :: frames, s⟩ else choose others otherwise rest frames s
  | .loopCondition condition body rest =>
    decideBy frames s fun taken s =>
      if taken then ⟨body, .loopBody condition body rest :: frames, s⟩ else ⟨rest, frames, s⟩
  | .loopBody condition body rest =>
    match env.check (.whileLoop condition body) s with
    | .failed failure s => .stopped (.failed (locateIn frames failure) s)
    | .done s => .running ⟨condition, .loopCondition condition body rest :: frames, s⟩

/-- One step. -/
def step (env : Environment) (m : Machine) : Progress :=
  match m.code, m.frames with
  | statement :: rest, frames => begin env statement rest frames m.state
  | [], frame :: frames => resume env frame frames m.state
  | [], [] => .stopped (.done m.state)

/-- Runs a machine for at most `fuel` steps; nothing if it has not stopped by then. -/
def run (env : Environment) : Nat → Machine → Option Outcome
  | 0, _ => none
  | fuel + 1, m =>
    match m.step env with
    | .running m => run env fuel m
    | .stopped outcome => some outcome

end Machine

/-- How many machine steps are waited for before a run is given up. -/
def patience : Nat := Decimal.pow10 18

namespace Environment

/-- Runs statements against a state, going on with the count of steps. -/
def exec (env : Environment) (fuel : Nat) (program : Program) (s : State) : Outcome :=
  match (Machine.start program s).run env fuel with
  | some outcome => outcome
  | none => .failed (.fault .unfinished) s

/-- What a failure of a whole run is reported as: parts that are nested too deep are the script's
own failure, and it has no place. -/
def reportDepth : Failure → Failure
  | .fault .depth => .of .tooDeep
  | .script cause place =>
    if cause.kind = .recursion then .of .tooDeep else .script cause place
  | failure => failure

/-- Runs a program as one submission: the count of steps starts again. -/
def submit (env : Environment) (fuel : Nat) (program : Program) (s : State) : Outcome :=
  match env.exec fuel program { s with steps := 0 } with
  | .done s => .done s
  | .failed failure s => .failed (reportDepth failure) s

end Environment

end StackShell
