import StackShell.Document.Writer
import StackShell.State

/-!
# State as documents

Values, programs and whole states as documents. Every variant is an object whose field `type` names
it. Only what scripts themselves can make is persisted; commands never are.
-/

namespace StackShell.Snapshot

/-- The version of the format. -/
def version : Int := 1

/-- The variants of values. -/
inductive ValueTag where
  | boolean
  | number
  | string
  | function

/-- The name of a variant. -/
def ValueTag.name : ValueTag → Text
  | .boolean => "boolean"
  | .number => "number"
  | .string => "string"
  | .function => "function"

/-- All variants of values. -/
def ValueTag.all : List ValueTag := [.boolean, .number, .string, .function]

/-- The variant that a document names. -/
def ValueTag.ofDocument? : Document → Option ValueTag
  | .string text => all.find? fun tag => tag.name == text
  | _ => none

/-- The variants of statements. -/
inductive StatementTag where
  | literal
  | load
  | store
  | invoke
  | call
  | conditional
  | whileLoop
  | define

/-- The name of a variant. -/
def StatementTag.name : StatementTag → Text
  | .literal => "literal"
  | .load => "load"
  | .store => "store"
  | .invoke => "invoke"
  | .call => "call"
  | .conditional => "conditional"
  | .whileLoop => "while"
  | .define => "def"

/-- All variants of statements. -/
def StatementTag.all : List StatementTag :=
  [.literal, .load, .store, .invoke, .call, .conditional, .whileLoop, .define]

/-- The variant that a document names. -/
def StatementTag.ofDocument? : Document → Option StatementTag
  | .string text => all.find? fun tag => tag.name == text
  | _ => none

/-- An object with its variant in front. -/
def tagged (tag : Text) (fields : List Field) : Document :=
  .object (.mk "type" (.string tag) :: fields)

/-- A place as a document. -/
def place (l : Location) : Document :=
  .list [.int l.line, .int l.column]

/-- A name that may be missing as a document. -/
def optionalName : Option Text → Document
  | some name => .string name
  | none => .null

mutual

/-- A value as a document. -/
def encodeValue : Value → Except Failure Document
  | .boolean b => .ok (tagged ValueTag.boolean.name [.mk "value" (.bool b)])
  | .number (.int n) => .ok (tagged ValueTag.number.name [.mk "value" (.int n)])
  | .number (.float x) => .ok (tagged ValueTag.number.name [.mk "value" (.float x)])
  | .string text => .ok (tagged ValueTag.string.name [.mk "value" (.string text)])
  | .function body => do
    let b ← encodeProgram body
    return tagged ValueTag.function.name [.mk "body" (.list b)]
  | v => .error (.of (.codec (.unencodableValue v.className)))
termination_by structural x => x

/-- A statement as a document. -/
def encodeStatement : Statement → Except Failure Document
  | .literal value l => do
    let v ← encodeValue value
    return tagged StatementTag.literal.name [.mk "value" v, .mk "location" (place l)]
  | .load name l =>
    .ok (tagged StatementTag.load.name [.mk "name" (.string name), .mk "location" (place l)])
  | .store name l =>
    .ok (tagged StatementTag.store.name [.mk "name" (.string name), .mk "location" (place l)])
  | .invoke name l =>
    .ok (tagged StatementTag.invoke.name [.mk "name" (.string name), .mk "location" (place l)])
  | .call name l =>
    .ok (tagged StatementTag.call.name [.mk "name" (optionalName name), .mk "location" (place l)])
  | .conditional branches otherwise => do
    let bs ← encodeBranches branches
    let o ← encodeOtherwise otherwise
    return tagged StatementTag.conditional.name [.mk "branches" (.list bs), .mk "otherwise" o]
  | .whileLoop condition body => do
    let c ← encodeProgram condition
    let b ← encodeProgram body
    return tagged StatementTag.whileLoop.name [.mk "condition" (.list c), .mk "body" (.list b)]
  | .define name body => do
    let b ← encodeProgram body
    return tagged StatementTag.define.name [.mk "name" (optionalName name), .mk "body" (.list b)]
  | .stray => .error (.of (.codec (.unencodableStatement "Branch")))
termination_by structural x => x

/-- Statements as documents. -/
def encodeProgram : List Statement → Except Failure (List Document)
  | [] => .ok []
  | s :: rest => do
    let d ← encodeStatement s
    let ds ← encodeProgram rest
    return d :: ds
termination_by structural x => x

/-- A program that may be missing as a document. -/
def encodeOtherwise : Option (List Statement) → Except Failure Document
  | none => .ok .null
  | some body => do
    let b ← encodeProgram body
    return .list b
termination_by structural x => x

/-- A branch as a document. -/
def encodeBranch : Branch → Except Failure Document
  | .mk condition body => do
    let c ← encodeProgram condition
    let b ← encodeProgram body
    return .object [.mk "condition" (.list c), .mk "body" (.list b)]
termination_by structural x => x

/-- Branches as documents. -/
def encodeBranches : List Branch → Except Failure (List Document)
  | [] => .ok []
  | b :: rest => do
    let d ← encodeBranch b
    let ds ← encodeBranches rest
    return d :: ds
termination_by structural x => x

end

/-- Variables as fields. -/
def encodeVariables : List (Text × Value) → Except Failure (List Field)
  | [] => .ok []
  | (name, v) :: rest => do
    let d ← encodeValue v
    let fields ← encodeVariables rest
    return .mk name d :: fields

/-- The variables and the stack of a state as a document, the stack from the bottom to the top. -/
def encode (s : State) : Except Failure Document := do
  let bindings ← encodeVariables s.bindings.entries
  let stack ← s.values.mapM encodeValue
  return .object
    [.mk "version" (.int version), .mk "variables" (.object bindings), .mk "stack" (.list stack)]

end StackShell.Snapshot
