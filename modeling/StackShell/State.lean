import StackShell.Failure
import StackShell.Table

/-!
# States

The state that a script works on: the stack, the variables, the count of statements begun, the
request to stop, and what the script has put out so far. A command takes a state to an outcome: a
new state, or a failure together with the state it left.
-/

namespace StackShell

/-- Something that a run made visible. -/
inductive Event where
  /-- Text was put out. -/
  | print (text : Text)
  /-- The output was cleared. -/
  | clear
  /-- A statement was announced before it ran, at that count of steps. -/
  | trace (steps : Nat) (text : Text)

/-- What a script works on. -/
structure State where
  /-- The values, the top first. -/
  stack : List Value
  /-- The variables. -/
  bindings : Table Value
  /-- How many statements have begun in this run. -/
  steps : Nat
  /-- Whether the run has been asked to stop. -/
  cancelled : Bool
  /-- What takes the output. -/
  device : Device
  /-- What has been made visible, the latest first. -/
  log : List Event

namespace State

/-- The state before anything ran. -/
def initial (device : Device) : State :=
  { stack := [], bindings := .empty, steps := 0, cancelled := false, device, log := [] }

/-- The state with a value on top. -/
def push (s : State) (v : Value) : State :=
  { s with stack := v :: s.stack }

/-- The state with a variable set. -/
def assign (s : State) (name : Text) (v : Value) : State :=
  { s with bindings := s.bindings.insert name v }

/-- The state with one more event. -/
def emit (s : State) (e : Event) : State :=
  { s with log := e :: s.log }

/-- The values from the bottom to the top. -/
def values (s : State) : List Value :=
  s.stack.reverse

end State

/-- How a piece of work on a state ended. -/
inductive Outcome where
  | done (state : State)
  | failed (failure : Failure) (state : State)

/-- The state that an outcome leaves. -/
def Outcome.state : Outcome → State
  | .done s | .failed _ s => s

/-- What runs under a name. -/
abbrev Command := State → Outcome

namespace State

/-- A script failure that leaves the state as it is. -/
def fail (s : State) (cause : Cause) : Outcome :=
  .failed (.of cause) s

/-- Takes the top value off the stack. -/
def pop (s : State) : Except Failure (Value × State) :=
  match s.stack with
  | [] => .error (.of (.underflow .pop))
  | v :: rest => .ok (v, { s with stack := rest })

/-- The value of a variable. -/
def lookup (s : State) (name : Text) : Except Failure Value :=
  match s.bindings.get? name with
  | some v => .ok v
  | none => .error (.of (.undefinedVariable name))

end State

/-- A value as a truth value. -/
def Value.asBoolean : Value → Except Failure Bool
  | .boolean b => .ok b
  | v => .error (.of (.mismatch "boolean" v.typeName))

/-- A value as the body of a function. -/
def Value.asFunction : Value → Except Failure Program
  | .function body => .ok body
  | v => .error (.of (.mismatch "function" v.typeName))

namespace State

/-- Takes the outcome of a condition off the stack; anything but a truth value stays there. -/
def popBoolean (s : State) : Except Failure (Bool × State) :=
  match s.stack with
  | [] => .error (.of (.underflow .condition))
  | v :: rest => do
    let b ← v.asBoolean
    return (b, { s with stack := rest })

/-- Takes a function off the stack; anything else stays there. -/
def popFunction (s : State) : Except Failure (Program × State) :=
  match s.stack with
  | [] => .error (.of (.underflow .call))
  | v :: rest => do
    let body ← v.asFunction
    return (body, { s with stack := rest })

end State

end StackShell
