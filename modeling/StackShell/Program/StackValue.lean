import StackShell.Failure

/-!
# Stacks as values

A whole stack may be handed to a host function as a value. It is neither true nor false, and it is
never made of nothing: the empty stack is there from the start.
-/

namespace StackShell.StackValue

/-- Whether a stack counts as true: the question is refused. -/
def truth (_ : List Value) : Except Fault Bool :=
  .error .stackTruth

/-- A stack made of what is under its top and the top. -/
def make (rest : Option (List Value)) (top : Option Value) : Except Fault (List Value) :=
  match rest, top with
  | none, none => .error .emptyStack
  | _, _ => .ok (top.toList ++ rest.getD [])

end StackShell.StackValue
