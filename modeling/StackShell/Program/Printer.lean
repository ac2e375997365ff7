import StackShell.Failure

/-!
# Values and programs as text

A value is written the way it would stand in a source text: strings in double quotes, functions with
their bodies. A program is written on one line with single blanks between its words; an empty body
leaves nothing. Values that no source text can hold are written in the form that inspection gives.

Writing fails on an integer whose text would be too long and on a stray branch.
-/

namespace StackShell

/-- The parts that are not empty, with single blanks between them. -/
def joinWords (parts : List Text) : Text :=
  Text.intercalate " " (parts.filter (!·.isEmpty))

/-- A number as text. -/
def Number.text (n : Number) : Except Fault Text :=
  match n.text? with
  | some text => .ok text
  | none => .error (.textTooLong none)

/-! ## Inspection -/

mutual

/-- A value as it is shown inside a tuple or a stack. -/
def Value.inspect : Value → Except Fault Text
  | .number n => n.text
  | .boolean b => .ok (if b then "True" else "False")
  | .string text => .ok (Text.quoted text)
  | .function body => .ok ("<fn:" ++ toString body.length ++ ">")
  | .tuple items => do
    let parts ← Value.inspectAll items
    match parts with
    | [part] => return "(" ++ part ++ ",)"
    | _ => return "(" ++ Text.intercalate ", " parts ++ ")"
  | .absent => .ok "None"
  | .stack items => do
    let parts ← Value.inspectAll items
    if parts.isEmpty then return "< nil >"
    return "< " ++ Text.intercalate " " parts.reverse ++ " >"
  | .device d => .ok ("<" ++ d.label ++ ">")
termination_by structural x => x

/-- Each value as it is shown inside a tuple or a stack. -/
def Value.inspectAll : List Value → Except Fault (List Text)
  | [] => .ok []
  | v :: rest => do
    let part ← Value.inspect v
    let parts ← Value.inspectAll rest
    return part :: parts
termination_by structural x => x

end

/-! ## Source form -/

/-- A character inside double quotes. -/
def sourceChar (c : CodePoint) : List CodePoint :=
  if c == '\\' || c == '"' then [.char '\\', c] else [c]

/-- A string in double quotes: backslashes and double quotes are escaped, all else stands as it
is. -/
def sourceString (text : Text) : Text :=
  "\"" ++ Text.ofList (text.toList.flatMap sourceChar) ++ "\""

mutual

/-- A value as it stands in a source text. -/
def Value.source : Value → Except Fault Text
  | .boolean b => .ok (if b then "true" else "false")
  | .string text => .ok (sourceString text)
  | .number n => n.text
  | .function [] => .ok "fn end"
  | .function (s :: body) => do
    let first ← Statement.source s
    let rest ← Program.parts body
    return "fn " ++ Text.intercalate " " (first :: rest) ++ " end"
  | v => v.inspect
termination_by structural x => x

/-- A statement as it stands in a source text. -/
def Statement.source : Statement → Except Fault Text
  | .literal value _ => Value.source value
  | .load name _ | .invoke name _ => .ok name
  | .store name _ => .ok ("=" ++ name)
  | .call none _ => .ok "@"
  | .call (some name) _ => .ok ("@" ++ name)
  | .conditional branches otherwise => do
    let parts ← Branch.parts "if" branches
    let last ← Program.otherwiseParts otherwise
    return joinWords (parts ++ last ++ [("end" : Text)])
  | .whileLoop condition body => do
    let c ← Program.parts condition
    let b ← Program.parts body
    return joinWords ["while", Text.intercalate " " c, "do", Text.intercalate " " b, "end"]
  | .define name body => do
    let b ← Program.parts body
    let head := match name with
      | some name => "def " ++ name
      | none => "fn"
    return joinWords [head, Text.intercalate " " b, "end"]
  | .stray => .error (.unknownStatement "Branch")
termination_by structural x => x

/-- Each statement as it stands in a source text. -/
def Program.parts : List Statement → Except Fault (List Text)
  | [] => .ok []
  | s :: rest => do
    let part ← Statement.source s
    let parts ← Program.parts rest
    return part :: parts
termination_by structural x => x

/-- The words of a last branch without a condition, if there is one. -/
def Program.otherwiseParts : Option (List Statement) → Except Fault (List Text)
  | none => .ok []
  | some body => do
    let b ← Program.parts body
    return ["else", Text.intercalate " " b]
termination_by structural x => x

/-- The words of one branch. -/
def Branch.words (keyword : Text) : Branch → Except Fault (List Text)
  | .mk condition body => do
    let c ← Program.parts condition
    let b ← Program.parts body
    return [keyword, Text.intercalate " " c, "then", Text.intercalate " " b]
termination_by structural x => x

/-- The words of the branches; the first one opens with `keyword`. -/
def Branch.parts (keyword : Text) : List Branch → Except Fault (List Text)
  | [] => .ok []
  | branch :: rest => do
    let parts ← Branch.words keyword branch
    let others ← Branch.parts "elif" rest
    return parts ++ others
termination_by structural x => x

end

/-- A program on one line. -/
def Program.source (program : Program) : Except Fault Text :=
  return Text.intercalate " " (← Program.parts program)

/-- A value as scripts print it: a string as it is, all else as in a source text. -/
def Value.printed : Value → Except Fault Text
  | .string text => .ok text
  | v => v.source

/-- A stack on one line, its top last. -/
def stackLine (stack : List Value) : Except Fault Text := do
  if stack.isEmpty then return "∅"
  let parts ← stack.reverse.mapM Value.source
  return Text.intercalate " " parts

end StackShell
