import StackShell.Number

/-!
# Values and programs

A program is a list of statements. Statements hold values, as literals, and a function value is
nothing but a program, so the two types are defined together. Every statement that stands for one
word of the source knows where that word is.
-/

namespace StackShell

/-- A place in a source text: lines and columns are counted from one. -/
structure Location where
  line : Int
  column : Int
deriving DecidableEq

/-- The place of a statement that comes from no source text. -/
def Location.nowhere : Location := ⟨0, 0⟩

/-- What takes the output of a script. -/
inductive Device where
  /-- Drops everything. -/
  | discard
  /-- Keeps a text in memory. -/
  | buffer
  /-- Shows everything to the viewers of a terminal session. -/
  | transcript
  /-- Writes to the output of the process. -/
  | console
deriving DecidableEq

mutual

/-- What a script computes with. Scripts themselves make numbers, booleans, strings and functions;
the other values come from functions of the host. -/
inductive Value where
  | number (n : Number)
  | boolean (b : Bool)
  | string (text : Text)
  | function (body : List Statement)
  | tuple (items : List Value)
  | absent
  /-- A whole stack, the top first. -/
  | stack (items : List Value)
  | device (d : Device)

/-- One statement. -/
inductive Statement where
  /-- Pushes a value. -/
  | literal (value : Value) (place : Location)
  /-- Pushes the value of a variable. -/
  | load (name : Text) (place : Location)
  /-- Pops a value into a variable. -/
  | store (name : Text) (place : Location)
  /-- Runs a command. -/
  | invoke (name : Text) (place : Location)
  /-- Runs the function in a variable, or, without a name, one popped off the stack. -/
  | call (name : Option Text) (place : Location)
  /-- Runs the body of the first branch whose condition gives true, or else `otherwise`. -/
  | conditional (branches : List Branch) (otherwise : Option (List Statement))
  /-- Runs the body as long as the condition gives true. -/
  | whileLoop (condition body : List Statement)
  /-- Binds a function to a variable, or, without a name, pushes it. -/
  | define (name : Option Text) (body : List Statement)
  /-- A branch outside any conditional: no statement at all. -/
  | stray

/-- A condition and what runs if it gives true. -/
inductive Branch where
  | mk (condition body : List Statement)

end

instance : Inhabited Value := ⟨.absent⟩

instance : Inhabited Statement := ⟨.stray⟩

/-- Statements in the order in which they run. -/
abbrev Program := List Statement

namespace Branch

/-- What decides whether the branch is taken. -/
def condition : Branch → Program
  | .mk c _ => c

/-- What runs if the branch is taken. -/
def body : Branch → Program
  | .mk _ b => b

end Branch

/-- The place of a statement that stands for one word of the source. -/
def Statement.place? : Statement → Option Location
  | .literal _ place | .load _ place | .store _ place | .invoke _ place | .call _ place =>
    some place
  | .conditional .. | .whileLoop .. | .define .. | .stray => none

/-- The class of a device, as diagnostics name it. -/
def Device.label : Device → Text
  | .discard => "NullIO"
  | .buffer => "BufferIO"
  | .transcript => "TerminalIO"
  | .console => "EchoIO"

namespace Value

/-- An integer value. -/
def int (n : Int) : Value := .number (.int n)

/-- The name of a value's type, as scripts see it. -/
def typeName : Value → Text
  | .number _ => "number"
  | .boolean _ => "boolean"
  | .string _ => "string"
  | .function _ => "function"
  | .tuple _ => "tuple"
  | .absent => "NoneType"
  | .stack _ => "Stack"
  | .device d => d.label

/-- The name of a value's class, as the host sees it. -/
def className : Value → Text
  | .number (.int _) => "int"
  | .number (.float _) => "float"
  | .boolean _ => "bool"
  | .string _ => "str"
  | .function _ => "Function"
  | v => v.typeName

/-- Whether a value is a number. -/
def isNumber : Value → Bool
  | .number _ => true
  | _ => false

end Value

end StackShell
