import StackShell.Command.Vocabulary
import StackShell.Program.Equality
import StackShell.Program.Printer
import StackShell.Text.Ansi

/-!
# Built-in commands

The commands that every script may use: arithmetic, comparison, logic, questions about types, stack
shuffling, strings and output. Each one is a routine; where it takes two operands, `b` is the deeper
one and `a` the top.
-/

namespace StackShell

namespace Reply

/-- A result and nothing visible. -/
def value (v : Value) : Reply := ⟨[], .ok v⟩

/-- A result or a failure, and nothing visible. -/
def ofExcept (result : Except Failure Value) : Reply := ⟨[], result⟩

/-- Something visible and no result. -/
def event (e : Event) : Reply := ⟨[e], .ok .absent⟩

/-- A failure. -/
def fail (failure : Failure) : Reply := ⟨[], .error failure⟩

/-- What a routine does with arguments that its shapes rule out. -/
def misfit : Reply := fail (.fault .noArgument)

end Reply

/-- What comes of putting a text out on a device. The console sends it, without its control
sequences, to a strict stream. -/
def Device.print (device : Device) (text : Text) : Reply :=
  match device with
  | .console =>
    match (Text.ControlKind.any.strip text).written with
    | .ok _ => .event (.print text)
    | .error fault => .fail (.fault fault)
  | _ => .event (.print text)

/-- A problem with numbers as a fault. -/
def NumberProblem.fault : NumberProblem → Fault
  | .integerTooLarge => .integerTooLarge
  | .quotientTooLarge => .quotientTooLarge

namespace Builtin

/-! ## Shapes of routines -/

/-- A number of either kind. -/
def numeric : Shape := .union [.integer, .real]

/-- A parameter that takes an item. -/
def parameter (name : Text) (shape : Shape) : Parameter :=
  ⟨name, some shape, .positional⟩

/-- The parameter of a routine with one operand. -/
def one (shape : Shape) : List Parameter := [parameter "x" shape]

/-- The parameters of a routine with two operands. -/
def two (shape : Shape) : List Parameter := [parameter "b" shape, parameter "a" shape]

/-- The parameter that is given the output device. -/
def output : Parameter := parameter "io" .output

/-- A result that may fail. -/
def result (r : Except NumberProblem Number) : Reply :=
  match r with
  | .ok n => .value (.number n)
  | .error problem => .fail (.fault problem.fault)

/-- A routine on two numbers. -/
def numbers (out : Shape) (f : Number → Number → Reply)
    (hout : out ≠ .stack := by nofun) : Routine where
  name := ""
  parameters := two numeric
  result := some out
  body
    | [.number b, .number a] => f b a
    | _ => .misfit
  givesStack h := absurd (Option.some.inj h) hout

/-- A routine on one number. -/
def number (out : Shape) (f : Number → Reply)
    (hout : out ≠ .stack := by nofun) : Routine where
  name := ""
  parameters := one numeric
  result := some out
  body
    | [.number x] => f x
    | _ => .misfit
  givesStack h := absurd (Option.some.inj h) hout

/-- A comparison of two numbers. -/
def comparison (f : Number → Number → Bool) : Routine :=
  numbers .boolean fun b a => .value (.boolean (f b a))

/-- A division, which fails on zero. -/
def division (f : Number → Number → Except NumberProblem Number) : Routine :=
  numbers numeric fun b a =>
    if a.isZero then .fail (.of (.arithmetic .divisionByZero)) else result (f b a)

/-- A routine on two truth values. -/
def logic (f : Bool → Bool → Bool) : Routine where
  name := ""
  parameters := two .boolean
  result := some .boolean
  body
    | [.boolean b, .boolean a] => .value (.boolean (f b a))
    | _ => .misfit

/-- A routine on one value of any type. -/
def any (out : Shape) (f : Value → Reply)
    (hout : out ≠ .stack := by nofun) : Routine where
  name := ""
  parameters := one .anything
  result := some out
  body
    | [x] => f x
    | _ => .misfit
  givesStack h := absurd (Option.some.inj h) hout

/-- A routine on two values of any type. -/
def anyTwo (out : Shape) (f : Value → Value → Reply)
    (hout : out ≠ .stack := by nofun) : Routine where
  name := ""
  parameters := two .anything
  result := some out
  body
    | [b, a] => f b a
    | _ => .misfit
  givesStack h := absurd (Option.some.inj h) hout

/-- A question about a value. -/
def question (f : Value → Bool) : Routine :=
  any .boolean fun x => .value (.boolean (f x))

/-- Results of any type, `n` of them. -/
def several (n : Nat) : Shape := .tupleOf (List.replicate n .anything)

/-- The text that is put out for a value. -/
def textOf (v : Value) : Except Failure Text :=
  v.printed.mapError Failure.fault

/-- A routine that puts out the text of a value and `ending`. -/
def printing (ending : Text) : Routine where
  name := ""
  parameters := [output, parameter "x" .anything]
  result := some .nothing
  body
    | [.device device, x] =>
      match textOf x with
      | .ok text => device.print (text ++ ending)
      | .error failure => .fail failure
    | _ => .misfit

/-! ## The commands -/

/-- The greatest integer that is not above a number. An integer has to be in the range of
doubles. -/
def floorOf (x : Number) : Reply :=
  match x.toFloat with
  | .error problem => .fail (.fault problem.fault)
  | .ok y =>
    match x.floor? with
    | some n => .value (.int n)
    | none => .fail (.of (.arithmetic (.noFloor (Decimal.realText y))))

/-- Joins two strings. -/
def concat : Routine where
  name := ""
  parameters := two .string
  result := some .string
  body
    | [.string b, .string a] => .value (.string (b ++ a))
    | _ => .misfit

/-- The number of characters of a string. -/
def length : Routine where
  name := ""
  parameters := one .string
  result := some .integer
  body
    | [.string x] => .value (.int x.length)
    | _ => .misfit

/-- The number of values on the stack. -/
def depth : Routine where
  name := ""
  parameters := [parameter "s" .stack]
  result := some .integer
  body
    | [.stack items] => .value (.int items.length)
    | _ => .misfit

/-- Takes everything off the stack. -/
def clearStack : Routine where
  name := ""
  parameters := [parameter "s" .stack]
  result := some .stack
  body _ := .value (.stack [])
  givesStack _ _ _ h := ⟨[], (Except.ok.inj h).symm⟩

/-- Puts the lowest of three values on top. -/
def rotate : Routine where
  name := ""
  parameters := [parameter "c" .anything, parameter "b" .anything, parameter "a" .anything]
  result := some (several 3)
  body
    | [c, b, a] => .value (.tuple [b, a, c])
    | _ => .misfit

/-- Clears the output. -/
def clear : Routine where
  name := ""
  parameters := [output]
  result := some .nothing
  body _ := .event .clear

/-- The commands by name, in the order in which they are registered. -/
def routines : List (Text × Routine) :=
  [ ⟨"abs", number numeric fun x => .value (.number x.abs)⟩,
    ⟨"add", numbers numeric fun b a => result (b.add a)⟩,
    ⟨"and", logic fun b a => b && a⟩,
    ⟨"boolean?", question fun | .boolean _ => true | _ => false⟩,
    ⟨"clear", clear⟩,
    ⟨"clear-stack", clearStack⟩,
    ⟨"concat", concat⟩,
    ⟨"depth", depth⟩,
    ⟨"div", division Number.div⟩,
    ⟨"drop", any .nothing fun _ => .value .absent⟩,
    ⟨"dup", any (several 2) fun x => .value (.tuple [x, x])⟩,
    ⟨"eq", anyTwo .boolean fun b a => .value (.boolean (b.equal a))⟩,
    ⟨"floor", number .integer floorOf⟩,
    ⟨"function?", question fun | .function _ => true | _ => false⟩,
    ⟨"ge", comparison fun b a => a.atMost b⟩,
    ⟨"gt", comparison fun b a => a.less b⟩,
    ⟨"idiv", division Number.floorDiv⟩,
    ⟨"le", comparison Number.atMost⟩,
    ⟨"length", length⟩,
    ⟨"lt", comparison Number.less⟩,
    ⟨"max", numbers numeric fun b a => .value (.number (b.maximum a))⟩,
    ⟨"min", numbers numeric fun b a => .value (.number (b.minimum a))⟩,
    ⟨"mul", numbers numeric fun b a => result (b.mul a)⟩,
    ⟨"ne", anyTwo .boolean fun b a => .value (.boolean (!b.equal a))⟩,
    ⟨"neg", number numeric fun x => .value (.number x.neg)⟩,
    ⟨"not", { name := "", parameters := one .boolean, result := some .boolean,
              body := fun | [.boolean x] => .value (.boolean (!x)) | _ => .misfit }⟩,
    ⟨"number?", question Value.isNumber⟩,
    ⟨"or", logic fun b a => b || a⟩,
    ⟨"over", anyTwo (several 3) fun b a => .value (.tuple [b, a, b])⟩,
    ⟨"print", printing "\n"⟩,
    ⟨"rem", division Number.floorMod⟩,
    ⟨"rot", rotate⟩,
    ⟨"str", any .string fun x => .ofExcept ((textOf x).map Value.string)⟩,
    ⟨"string?", question fun | .string _ => true | _ => false⟩,
    ⟨"sub", numbers numeric fun b a => result (b.sub a)⟩,
    ⟨"swap", anyTwo (several 2) fun b a => .value (.tuple [a, b])⟩,
    ⟨"type-of", any .string fun x => .value (.string x.typeName)⟩,
    ⟨"write", printing ""⟩ ]

/-- Second names. -/
def aliases : List (Text × Text) :=
  [ ("+", "add"), ("-", "sub"), ("*", "mul"), ("/", "div"), ("//", "idiv"), ("%", "rem"),
    ("=", "eq"), ("==", "eq"), ("!=", "ne"), ("<", "lt"), ("<=", "le"), (">", "gt"), (">=", "ge"),
    ("pop", "drop"), ("stack-size", "depth"), (".", "print") ]

/-- Registers routines in order. -/
def register (v : Vocabulary) : List (Text × Routine) → Except SignatureProblem Vocabulary
  | [] => .ok v
  | (name, r) :: rest => do
    let v ← v.addRoutine name r
    register v rest

end Builtin

/-- The vocabulary with the built-in commands alone. -/
def Vocabulary.builtins : Vocabulary :=
  let v : Vocabulary := { Vocabulary.empty with aliases := .ofList Builtin.aliases }
  match Builtin.register v Builtin.routines with
  | .ok v => v
  | .error _ => v

end StackShell
