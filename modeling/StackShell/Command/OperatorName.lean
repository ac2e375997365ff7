import StackShell.Failure

/-!
# Names of operators

The functions of an extension carry names that are made from the names of their commands: `op_` in
front, and letters in the place of the marks that a function's name cannot have.
-/

namespace StackShell.OperatorName

/-- One character of a command's name inside a function's name. -/
def mark : CodePoint → List CodePoint
  | .char '-' => [.char '_']
  | .char '!' => [.char '_', .char 'b']
  | .char '?' => [.char '_', .char 'q']
  | c => [c]

/-- The letters in front of every operator's name. -/
def opening : List CodePoint := [.char 'o', .char 'p', .char '_']

/-- The name of the function behind a command. -/
def ofCommand (name : Text) : Text :=
  Text.ofList (opening ++ name.toList.flatMap mark)

/-- Puts the marks back. -/
def unmark : List CodePoint → List CodePoint
  | .char '_' :: .char 'b' :: rest => .char '!' :: unmark rest
  | .char '_' :: .char 'q' :: rest => .char '?' :: unmark rest
  | c :: rest => (if c == '_' then '-' else c) :: unmark rest
  | [] => []

/-- The name of the command that a function stands for. -/
def toCommand (function : Text) : Except ExtensionProblem Text :=
  match function.toList with
  | .char 'o' :: .char 'p' :: .char '_' :: rest => .ok (Text.ofList (unmark rest))
  | _ => .error (.badName function)

end StackShell.OperatorName
