import StackShell.Failure

/-!
# Shapes

What a function of the host says about a parameter or a result. Most shapes are classes of values;
a union of classes accepts what any of them accepts. Some shapes can be written down but not tested:
they are refused when the function is registered.
-/

namespace StackShell

/-- What a function of the host says about a value. -/
inductive Shape where
  | integer
  | real
  | boolean
  | string
  | function
  | stack
  /-- A device that takes output. -/
  | output
  | tuple
  | list
  /-- The class of the missing value. -/
  | missing
  /-- Any value at all. -/
  | anything
  /-- The missing value itself, which stands for no result. -/
  | nothing
  | ellipsis
  /-- The name of a class instead of a class. -/
  | named (name : Text)
  /-- A union of classes, flat and without repetition. -/
  | union (members : List Shape)
  /-- An older form of union that includes the missing value; it cannot be tested for. -/
  | optional (members : List Shape)
  /-- Tuples with members of these kinds. -/
  | tupleOf (members : List Shape)
  /-- Lists with members of this kind. -/
  | listOf (member : Shape)

instance : Inhabited Shape := ⟨.anything⟩

namespace Shape

mutual

/-- Whether two shapes are the same. -/
def same : Shape → Shape → Bool
  | .integer, .integer | .real, .real | .boolean, .boolean | .string, .string
  | .function, .function | .stack, .stack | .output, .output | .tuple, .tuple | .list, .list
  | .missing, .missing | .anything, .anything | .nothing, .nothing | .ellipsis, .ellipsis => true
  | .named a, .named b => a == b
  | .union as, .union bs | .optional as, .optional bs | .tupleOf as, .tupleOf bs => sameAll as bs
  | .listOf a, .listOf b => same a b
  | _, _ => false
termination_by structural x => x

/-- Whether two rows of shapes are the same. -/
def sameAll : List Shape → List Shape → Bool
  | [], [] => true
  | a :: as, b :: bs => same a b && sameAll as bs
  | _, _ => false
termination_by structural x => x

end

/-- Whether a shape is one of the row. -/
def isIn (a : Shape) (row : List Shape) : Bool :=
  row.any (same a)

/-- A row without repetition. -/
def distinct (row : List Shape) : List Shape :=
  (row.foldl (fun seen a => if a.isIn seen then seen else a :: seen) []).reverse

/-- The members that a shape brings into a union. -/
def members : Shape → List Shape
  | .union row | .optional row => row
  | .nothing => [.missing]
  | a => [a]

/-- Whether a shape makes a union one of the older form. -/
def isOptional : Shape → Bool
  | .optional _ => true
  | _ => false

/-- The union of shapes. -/
def unionOf (row : List Shape) : Shape :=
  match distinct (row.flatMap members) with
  | [single] => single
  | parts => if row.any isOptional then .optional parts else .union parts

/-- The older form of a union with the missing value. -/
def optionalOf (a : Shape) : Shape :=
  match distinct (a.members ++ [.missing]) with
  | [single] => single
  | parts => .optional parts

/-! ## Wording -/

mutual

/-- A shape as it is written inside another one. -/
def written : Shape → Text
  | .integer => "int"
  | .real => "float"
  | .boolean => "bool"
  | .string => "str"
  | .function => "stackterm.types.Function"
  | .stack => "stackterm.types.Stack"
  | .output => "stackterm.console.ScriptIO"
  | .tuple => "tuple"
  | .list => "list"
  | .missing => "NoneType"
  | .anything => "typing.Any"
  | .nothing => "None"
  | .ellipsis => "..."
  | .named name => "ForwardRef(" ++ Text.quoted name ++ ")"
  | .union row => Text.intercalate " | " (writtenAll row)
  | .optional row =>
    match writtenAll row with
    | [a, b] =>
      if b = "NoneType" then "typing.Optional[" ++ a ++ "]"
      else if a = "NoneType" then "typing.Optional[" ++ b ++ "]"
      else "typing.Union[" ++ a ++ ", " ++ b ++ "]"
    | parts => "typing.Union[" ++ Text.intercalate ", " parts ++ "]"
  | .tupleOf row =>
    let parts : Text := if row.isEmpty then "()" else Text.intercalate ", " (writtenAll row)
    "tuple[" ++ parts ++ "]"
  | .listOf a => "list[" ++ written a ++ "]"
termination_by structural x => x

/-- A row of shapes as they are written inside another one. -/
def writtenAll : List Shape → List Text
  | [] => []
  | a :: rest => written a :: writtenAll rest
termination_by structural x => x

end

/-- A shape that cannot be tested for, as a diagnostic shows it. -/
def shown : Shape → Text
  | .ellipsis => "Ellipsis"
  | .named name => Text.quoted name
  | a => a.written

/-- The name that diagnostics give to one class; an integer is a number where doubles are accepted
too. -/
def className (withReals : Bool) : Shape → Text
  | .integer => if withReals then "number" else "integer"
  | .real => "number"
  | .boolean => "boolean"
  | .string => "string"
  | .function => "function"
  | .stack => "Stack"
  | .output => "ScriptIO"
  | .tuple | .tupleOf _ => "tuple"
  | .list | .listOf _ => "list"
  | .missing => "NoneType"
  | .anything => "Any"
  | .nothing => "None"
  | .ellipsis => "Ellipsis"
  | .named name => name
  | .union _ => "UnionType"
  | .optional row => if row.length == 2 then "Optional" else "Union"

/-- The classes that a shape tests for. -/
def classes : Shape → List Shape
  | .union row => row
  | a => [a]

/-- What diagnostics call a value that the shape accepts. -/
def describe (a : Shape) : Text :=
  match a with
  | .anything => "value"
  | _ =>
    let row := a.classes
    Text.intercalate " or " (row.map (className (real.isIn row))).eraseDups

/-! ## Tests -/

/-- Whether a value belongs to one class; no answer for what is no class. -/
def holds (a : Shape) (v : Value) : Except ClassProblem Bool :=
  match a, v with
  | .integer, .number (.int _) => .ok true
  | .integer, .boolean _ => .ok true
  | .real, .number (.float _) => .ok true
  | .boolean, .boolean _ => .ok true
  | .string, .string _ => .ok true
  | .function, .function _ => .ok true
  | .stack, .stack _ => .ok true
  | .output, .device _ => .ok true
  | .tuple, .tuple _ => .ok true
  | .tuple, .stack _ => .ok true
  | .missing, .absent => .ok true
  | .tupleOf _, _ | .listOf _, _ => .error .parameterised
  | .anything, _ => .error .anything
  | .nothing, _ | .ellipsis, _ | .named _, _ | .union _, _ | .optional _, _ => .error .noClass
  | _, _ => .ok false

/-- Whether a value belongs to one of the classes, tested from left to right. -/
def holdsAny (v : Value) : List Shape → Except ClassProblem Bool
  | [] => .ok false
  | a :: rest => do
    if ← a.holds v then return true
    holdsAny v rest

/-- Whether a value belongs to a member of an optional class, tested from left to right. -/
def holdsMember (v : Value) : List Shape → Except ClassProblem Bool
  | [] => .ok false
  | a :: rest =>
    match a.holds v with
    | .ok true => .ok true
    | .ok false | .error .anything => holdsMember v rest
    | .error .parameterised => .error .memberParameterised
    | .error _ => .error .memberNoClass

/-- Whether a shape accepts a value. A boolean is accepted only where booleans are named: it is
never a number. -/
def accepts (a : Shape) (v : Value) : Except ClassProblem Bool :=
  match a, v with
  | .anything, _ => .ok true
  | _, .boolean _ => .ok (boolean.isIn a.classes)
  | .optional row, _ => holdsMember v row
  | _, _ => holdsAny v a.classes

/-- The shape that is tested for in its place: of a class with parameters only the class counts.
Other shapes than classes and unions of them are refused. -/
def normalise : Shape → Except SignatureProblem Shape
  | .tupleOf _ => .ok .tuple
  | .listOf _ => .ok .list
  | a@(.nothing) | a@(.ellipsis) | a@(.named _) | a@(.optional _) => .error (.unsupported a.shown)
  | a => .ok a

end Shape

end StackShell
