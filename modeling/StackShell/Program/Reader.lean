import StackShell.Failure
import StackShell.Program.Block

/-!
# Reading programs

A source text becomes a program in three steps: it is scanned, the tokens are grouped into blocks,
and every leaf becomes one statement. A bare word invokes a command if there is one of that name
when the text is read, and loads a variable otherwise.

The first token that does not fit is reported before a character that cannot be scanned, and an open
block only if neither is met. Literals are read last: those of inner blocks before those of the part
around them.
-/

namespace StackShell

namespace Program

/-- The characters of a lexeme without the first one. -/
def nameOf (token : Lexeme) : Text :=
  Text.ofList (token.text.drop 1)

/-- The characters between the quotes of a string literal. -/
def innerOf (token : Lexeme) : List CodePoint :=
  (token.text.drop 1).dropLast

/-- The value of an integer literal in the named part of a program. -/
def readIntegerToken (part : Text) (token : Lexeme) : Except Failure Value :=
  match Decimal.readInteger token.text with
  | .ok n => .ok (.int n)
  | .error (.tooLong digits) => .error (.fault (.literalTooLong part digits))
  | .error .malformed => .error (.fault (.notInteger (Text.ofList token.text)))

variable [Platform]

/-- The value of a string literal. -/
def readStringToken (file : Option Text) (token : Lexeme) : Except Failure Value :=
  match Escape.decode (innerOf token) with
  | .ok text => .ok (.string text)
  | .error problem =>
    .error (.of (.parse ⟨.literal (Text.ofList token.text) problem, token.place, file⟩))

/-- What the reading of leaves depends on: which words are commands, and the name of the source. -/
structure Reading where
  isCommand : Text → Bool
  file : Option Text

/-- The statement that a leaf becomes in the named part of a program. -/
def Reading.atom (reading : Reading) (part : Text) (token : Lexeme) : Except Failure Statement :=
  match token.kind with
  | .integer => return .literal (← readIntegerToken part token) token.place
  | .real => .ok (.literal (.number (.float (Decimal.readReal token.text))) token.place)
  | .string => return .literal (← readStringToken reading.file token) token.place
  | .keyword .trueWord => .ok (.literal (.boolean true) token.place)
  | .keyword .falseWord => .ok (.literal (.boolean false) token.place)
  | .store => .ok (.store (nameOf token) token.place)
  | .namedCall => .ok (.call (some (nameOf token)) token.place)
  | .atSign | .keyword .callWord => .ok (.call none token.place)
  | _ =>
    let word := Text.ofList token.text
    .ok (if reading.isCommand word then .invoke word token.place else .load word token.place)

/-- A leaf that is still to be read, or a statement. -/
inductive Pending where
  | leaf (token : Lexeme)
  | ready (statement : Statement)

/-- Reads the leaves among the statements of one part. -/
def Reading.leaves (reading : Reading) (part : Text) : List Pending → Except Failure Program
  | [] => .ok []
  | .leaf token :: rest => do
    let s ← reading.atom part token
    let others ← reading.leaves part rest
    return s :: others
  | .ready s :: rest => do
    let others ← reading.leaves part rest
    return s :: others

/-- The name of the outermost part of a program. -/
def topPart : Text := "start"

/-- The name of every part of a program inside a block. -/
def innerPart : Text := "body"

mutual

/-- Reads the blocks inside a node. -/
def Reading.node (reading : Reading) : Node → Except Failure Pending
  | .atom token => .ok (.leaf token)
  | .conditional branches otherwise => do
    let bs ← reading.branches branches
    let o ← reading.otherwise otherwise
    return .ready (.conditional bs o)
  | .whileLoop condition body => do
    let c ← reading.leaves innerPart (← reading.nodes condition)
    let b ← reading.leaves innerPart (← reading.nodes body)
    return .ready (.whileLoop c b)
  | .define name body => do
    let b ← reading.leaves innerPart (← reading.nodes body)
    return .ready (.define (name.map fun token => Text.ofList token.text) b)
termination_by structural x => x

/-- Reads the blocks inside the nodes, in order. -/
def Reading.nodes (reading : Reading) : List Node → Except Failure (List Pending)
  | [] => .ok []
  | node :: rest => do
    let p ← reading.node node
    let ps ← reading.nodes rest
    return p :: ps
termination_by structural x => x

/-- Reads the last branch without a condition, if there is one. -/
def Reading.otherwise (reading : Reading) : Option (List Node) → Except Failure (Option Program)
  | none => .ok none
  | some body => do
    let b ← reading.leaves innerPart (← reading.nodes body)
    return some b
termination_by structural x => x

/-- Reads a branch, the condition first. -/
def Reading.branch (reading : Reading) : NodeBranch → Except Failure Branch
  | .mk condition body => do
    let c ← reading.leaves innerPart (← reading.nodes condition)
    let b ← reading.leaves innerPart (← reading.nodes body)
    return .mk c b
termination_by structural x => x

/-- Reads branches in order. -/
def Reading.branches (reading : Reading) : List NodeBranch → Except Failure (List Branch)
  | [] => .ok []
  | branch :: rest => do
    let b ← reading.branch branch
    let bs ← reading.branches rest
    return b :: bs
termination_by structural x => x

end

/-- Groups the tokens of a scan into blocks. -/
def blocks (file : Option Text) (scan : Token.Scan) : Except Failure (List Node) :=
  let tokens := scan.tokens
  let refuse (problem : ParseProblem) (place : Location) : Except Failure (List Node) :=
    .error (.of (.parse ⟨problem, place, file⟩))
  match Block.Reader.empty.takeAll tokens with
  | .error token => refuse (.token (Text.ofList token.text)) token.place
  | .ok reader =>
    match scan.stuck, reader.finish? with
    | some (c, place), _ => refuse (.character c) place
    | none, some nodes => .ok nodes
    | none, none => refuse .endOfInput ((tokens.getLast?.map (·.place)).getD Token.start)

/-- Reads a source text as a program. -/
def parse (isCommand : Text → Bool) (source : Text) (file : Option Text) :
    Except Failure Program := do
  let nodes ← blocks file (Token.scan source)
  let reading : Reading := ⟨isCommand, file⟩
  reading.leaves topPart (← reading.nodes nodes)

end Program

end StackShell
