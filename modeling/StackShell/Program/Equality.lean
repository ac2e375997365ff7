import StackShell.Program.Basic

/-!
# Equality of values

Two values are equal to a script if they have one type and one content. Functions are equal if their
bodies are: the same statements with the same names at the same places. Inside a body, and inside a
tuple, literals are compared by content alone, so that there a boolean equals the number that counts
it; and what is not a number equals itself there, though it does not on the stack.
-/

namespace StackShell

/-- Equality inside a larger value: not being a number is a content like any other. -/
def Number.alike (a b : Number) : Bool :=
  a.same b ||
    match a.exact, b.exact with
    | .nan, .nan => true
    | _, _ => false

/-- The number that counts a boolean. -/
def countOf (b : Bool) : Number :=
  .int (if b then 1 else 0)

mutual

/-- Equality of content. -/
def Value.alike : Value → Value → Bool
  | .number a, .number b => a.alike b
  | .number a, .boolean b => a.alike (countOf b)
  | .boolean a, .number b => (countOf a).alike b
  | .boolean a, .boolean b => a == b
  | .string a, .string b => a == b
  | .function a, .function b => Program.alike a b
  | .tuple a, .tuple b => Value.allAlike a b
  | .absent, .absent => true
  | .stack a, .stack b => Value.allAlike a b
  | .device a, .device b => a == b
  | _, _ => false
termination_by structural x => x

/-- Equality of content, item by item. -/
def Value.allAlike : List Value → List Value → Bool
  | [], [] => true
  | a :: as, b :: bs => Value.alike a b && Value.allAlike as bs
  | _, _ => false
termination_by structural x => x

/-- Equality of statements. -/
def Statement.alike : Statement → Statement → Bool
  | .literal a p, .literal b q => Value.alike a b && p == q
  | .load a p, .load b q => a == b && p == q
  | .store a p, .store b q => a == b && p == q
  | .invoke a p, .invoke b q => a == b && p == q
  | .call a p, .call b q => a == b && p == q
  | .conditional as a, .conditional bs b => Branch.allAlike as bs && Program.optionAlike a b
  | .whileLoop a b, .whileLoop c d => Program.alike a c && Program.alike b d
  | .define a b, .define c d => a == c && Program.alike b d
  | .stray, .stray => true
  | _, _ => false
termination_by structural x => x

/-- Equality of programs. -/
def Program.alike : List Statement → List Statement → Bool
  | [], [] => true
  | a :: as, b :: bs => Statement.alike a b && Program.alike as bs
  | _, _ => false
termination_by structural x => x

/-- Equality of programs that may be missing. -/
def Program.optionAlike : Option (List Statement) → Option (List Statement) → Bool
  | none, none => true
  | some a, some b => Program.alike a b
  | _, _ => false
termination_by structural x => x

/-- Equality of branches. -/
def Branch.alike : Branch → Branch → Bool
  | .mk a b, .mk c d => Program.alike a c && Program.alike b d
termination_by structural x => x

/-- Equality of branches, one by one. -/
def Branch.allAlike : List Branch → List Branch → Bool
  | [], [] => true
  | a :: as, b :: bs => Branch.alike a b && Branch.allAlike as bs
  | _, _ => false
termination_by structural x => x

end

/-- Equality as scripts see it. -/
def Value.equal (b a : Value) : Bool :=
  b.typeName == a.typeName &&
    match b, a with
    | .number y, .number x => y.same x
    | _, _ => b.alike a

end StackShell
