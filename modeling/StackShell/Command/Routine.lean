import StackShell.Command.Signature
import StackShell.State

/-!
# Routines

A routine is a function of the host that is offered to scripts as a command. The command checks and
pops the arguments, calls the routine, and puts its result on the stack as the shapes say. The
stack changes only at the very end, so that any failure before leaves it as it was; what the routine
has put out by then stays.
-/

namespace StackShell

/-- What a routine does when it is called: what it makes visible, in order, and its result. -/
structure Reply where
  events : List Event
  result : Except Failure Value

/-- A function of the host. -/
structure Routine where
  name : Text
  parameters : List Parameter
  result : Option Shape
  /-- Called with one value for each parameter. -/
  body : List Value → Reply
  /-- The new stack of a routine that declares to give one is a stack. -/
  givesStack : result = some .stack → ∀ arguments v, (body arguments).result = .ok v →
    ∃ items, v = .stack items := by nofun

namespace Routine

/-- The signature of a routine as the command `label`. -/
def signature (r : Routine) (label : Text) : Except SignatureProblem Signature :=
  Signature.derive label r.parameters r.result

end Routine

namespace Signature

/-- Checks and pops the items that a command takes, going down from the top. The result is the rest
of the stack and the items with the deepest first. -/
def popItems (command : Text) (needed : Nat) :
    List Shape → List Value → List Value → Except Failure (List Value × List Value)
  | [], stack, taken => .ok (stack, taken)
  | _ :: _, [], taken => .error (.of (.underflow (.arguments command needed taken.length)))
  | expected :: rest, v :: stack, taken =>
    match expected.accepts v with
    | .error problem => .error (.fault (.classTest problem))
    | .ok false => .error (.of (.mismatch expected.describe v.typeName))
    | .ok true => popItems command needed rest stack (v :: taken)

/-- Hands out the items, in order, to the parameters that take one. -/
def arguments (device : Device) : List Role → List Value → List Value
  | [], _ => []
  | .output :: roles, items => .device device :: arguments device roles items
  | _ :: roles, v :: items => v :: arguments device roles items
  | _ :: roles, [] => arguments device roles []

/-- The items of a value that is walked through: those of a tuple, the characters of a string, and
for a stack what is under its top and the top itself. -/
def itemsOf : Value → Except Failure (List Value)
  | .tuple items => .ok items
  | .string text => .ok (text.toList.map fun c => .string (Text.singleton c))
  | .stack [] => .ok [.absent, .absent]
  | .stack (top :: rest) => .ok [.stack rest, top]
  | v => .error (.fault (.notIterable v.className))

/-- The stack after a result is put on it. A routine that is to give a whole stack gives one, so
that the fault of a new stack that is none does not arise. -/
def place (result : Yield) (base : List Value) (v : Value) : Except Failure (List Value) :=
  match result with
  | .replace =>
    match v with
    | .stack items => .ok items
    | _ => .error (.fault (.noItems v.className))
  | .items [] => .ok base
  | .items [_] => .ok (v :: base)
  | .items _ => return (← itemsOf v).reverse ++ base

/-- The rest of the stack and the items for the parameters of a command. -/
def takeItems (sig : Signature) (command : Text) (stack : List Value) :
    Except Failure (List Value × List Value) :=
  if sig.takesStack then .ok (stack, [.stack stack])
  else popItems command sig.inputs.length sig.inputs stack []

end Signature

/-- The command that calls a routine with the signature under the name `command`. -/
def Routine.command (r : Routine) (sig : Signature) (command : Text) : Command := fun s =>
  match sig.takeItems command s.stack with
  | .error failure => .failed failure s
  | .ok (base, items) =>
    let reply := r.body (Signature.arguments s.device sig.roles items)
    let s := reply.events.foldl State.emit s
    match reply.result >>= Signature.place sig.result base with
    | .error failure => .failed failure s
    | .ok stack => .done { s with stack }

end StackShell
