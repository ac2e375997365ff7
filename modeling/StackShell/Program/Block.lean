import StackShell.Program.Token

/-!
# Blocks

The block structure of a token sequence. Tokens are taken one at a time by a reader that remembers
which blocks are open; a token that does not fit where it stands is refused. A sequence of tokens is
a program exactly if every token is taken and no block is open at the end.

The result is a tree of nodes whose leaves are the tokens that become one statement each.
-/

namespace StackShell

mutual

/-- A token that becomes one statement, or a block. -/
inductive Node where
  | atom (token : Lexeme)
  | conditional (branches : List NodeBranch) (otherwise : Option (List Node))
  | whileLoop (condition body : List Node)
  | define (name : Option Lexeme) (body : List Node)

/-- A condition and a body. -/
inductive NodeBranch where
  | mk (condition body : List Node)

end

namespace Block

/-- The part of a block that is being read. Branches that are complete are kept in reverse. -/
inductive Part where
  | ifCondition (done : List NodeBranch)
  | ifBody (done : List NodeBranch) (condition : List Node)
  | elseBody (done : List NodeBranch)
  | whileCondition
  | whileBody (condition : List Node)
  /-- A definition before its name. -/
  | defName
  | defBody (name : Lexeme)
  | fnBody

/-- An open block: the part that is being read, and the nodes before the block in reverse. -/
structure Level where
  part : Part
  before : List Node

/-- What has been read: the nodes of the innermost part, in reverse, and the open blocks around
them, the innermost first. -/
structure Reader where
  nodes : List Node
  levels : List Level

/-- Before the first token. -/
def Reader.empty : Reader := ⟨[], []⟩

/-- Opens a block. -/
def Reader.enter (r : Reader) (part : Part) : Reader :=
  ⟨[], ⟨part, r.nodes⟩ :: r.levels⟩

/-- Goes on with the next part of the innermost block. -/
def Level.proceed (level : Level) (part : Part) (levels : List Level) : Reader :=
  ⟨[], ⟨part, level.before⟩ :: levels⟩

/-- Closes the innermost block, which becomes one node. -/
def Level.close (level : Level) (node : Node) (levels : List Level) : Reader :=
  ⟨node :: level.before, levels⟩

/-- Takes a keyword that separates or closes the parts of the innermost block. -/
def Reader.delimit (r : Reader) (k : Keyword) : Option Reader :=
  match r.levels with
  | [] => none
  | level :: levels =>
    let read := r.nodes.reverse
    match level.part, k with
    | .ifCondition done, .thenWord => some (level.proceed (.ifBody done read) levels)
    | .ifBody done condition, .elifWord =>
      some (level.proceed (.ifCondition (.mk condition read :: done)) levels)
    | .ifBody done condition, .elseWord =>
      some (level.proceed (.elseBody (.mk condition read :: done)) levels)
    | .ifBody done condition, .endWord =>
      some (level.close (.conditional (.mk condition read :: done).reverse none) levels)
    | .elseBody done, .endWord =>
      some (level.close (.conditional done.reverse (some read)) levels)
    | .whileCondition, .doWord => some (level.proceed (.whileBody read) levels)
    | .whileBody condition, .endWord => some (level.close (.whileLoop condition read) levels)
    | .defBody name, .endWord => some (level.close (.define (some name) read) levels)
    | .fnBody, .endWord => some (level.close (.define none read) levels)
    | _, _ => none

/-- Takes one token where statements may stand. -/
def Reader.accept (r : Reader) (token : Lexeme) : Option Reader :=
  match token.kind with
  | .keyword .ifWord => some (r.enter (.ifCondition []))
  | .keyword .whileWord => some (r.enter .whileCondition)
  | .keyword .defWord => some (r.enter .defName)
  | .keyword .fnWord => some (r.enter .fnBody)
  | .keyword .callWord | .keyword .trueWord | .keyword .falseWord | .real | .integer | .string
  | .store | .namedCall | .atSign | .word => some { r with nodes := .atom token :: r.nodes }
  | .keyword k => r.delimit k
  | .blank | .comment => none

/-- Takes one token: a definition needs its name first, anything else is a matter of
statements. -/
def Reader.take (r : Reader) (token : Lexeme) : Option Reader :=
  match r.levels with
  | ⟨.defName, before⟩ :: levels =>
    match token.kind with
    | .word => some ⟨[], ⟨.defBody token, before⟩ :: levels⟩
    | _ => none
  | _ => r.accept token

/-- Takes tokens in order until one does not fit. -/
def Reader.takeAll (r : Reader) : List Lexeme → Except Lexeme Reader
  | [] => .ok r
  | token :: rest =>
    match r.take token with
    | some r => r.takeAll rest
    | none => .error token

/-- The nodes that have been read, if no block is open. -/
def Reader.finish? (r : Reader) : Option (List Node) :=
  if r.levels.isEmpty then some r.nodes.reverse else none

end Block

end StackShell
