import StackShell.Command.Shape

/-!
# Signatures

What a function of the host takes off the stack and puts back, read off the shapes that it declares.
A parameter for an output device is given the device of the run and takes nothing off the stack; a
stack parameter is given the whole stack and stands alone; every other parameter takes one item, the
last one the top.
-/

namespace StackShell

/-- How arguments may be handed to a parameter. -/
inductive Passing where
  | positional
  | positionalOnly
  | keywordOnly
  | variadic
  | keywordVariadic
deriving DecidableEq

/-- A parameter of a host function. -/
structure Parameter where
  name : Text
  shape : Option Shape
  passing : Passing

/-- What a parameter is given. -/
inductive Role where
  | item
  | output
  | wholeStack
deriving DecidableEq

/-- The name of a role. -/
def Role.label : Role → Text
  | .item => "item"
  | .output => "io"
  | .wholeStack => "stack"

/-- The role that a shape gives to a parameter. -/
def Role.of : Shape → Role
  | .output => .output
  | .stack => .wholeStack
  | _ => .item

/-- What becomes of the result of a host function. -/
inductive Yield where
  /-- It is the new stack. -/
  | replace
  /-- It is put on the stack: nothing of it, itself, or its items, by how many there are. -/
  | items (row : List Shape)

/-- What a command takes and gives. -/
structure Signature where
  roles : List Role
  /-- What is taken off the stack, the top first. -/
  inputs : List Shape
  result : Yield

namespace Signature

/-- Whether the command is given the whole stack. -/
def takesStack (sig : Signature) : Bool :=
  sig.roles.contains .wholeStack

/-- How many items are taken, or `-2` for the whole stack. -/
def arity (sig : Signature) : Int :=
  if sig.takesStack then -2 else sig.inputs.length

/-- How many items are given, or `-1` for a whole stack. -/
def valency (sig : Signature) : Int :=
  match sig.result with
  | .replace => -1
  | .items row => row.length

/-- What is put on the stack, the top first. -/
def outputs (sig : Signature) : List Shape :=
  match sig.result with
  | .replace => []
  | .items row => row.reverse

/-- What the shape of a result says about the stack. -/
def yieldOf : Shape → Except SignatureProblem Yield
  | .nothing | .missing | .tuple => .ok (.items [])
  | .stack => .ok .replace
  | .tupleOf row => return .items (← row.mapM Shape.normalise)
  | a => return .items [← a.normalise]

/-- The parameters that lack a shape, by name. -/
def unannotated (parameters : List Parameter) : List Text :=
  (parameters.filter (·.shape.isNone)).map (·.name)

/-- Whether a parameter can be given a plain positional argument. -/
def isPlain (p : Parameter) : Bool :=
  p.passing == .positional || p.passing == .positionalOnly

/-- Reads the signature of the command `label` off its shapes. -/
def derive (label : Text) (parameters : List Parameter) (result : Option Shape) :
    Except SignatureProblem Signature := do
  if !parameters.all isPlain then throw (.notPositional label)
  let missing := unannotated parameters
  if !missing.isEmpty then throw (.unannotated label missing)
  let some result := result | throw (.noResult label)
  let shapes := parameters.filterMap (·.shape)
  let roles := shapes.map Role.of
  let items ← (shapes.filter (Role.of · == .item)).mapM Shape.normalise
  if roles.contains .wholeStack && (roles.count .wholeStack > 1 || !items.isEmpty) then
    throw (.wholeStack label)
  return { roles, inputs := items.reverse, result := ← yieldOf result }

end Signature

end StackShell
