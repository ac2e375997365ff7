import StackShell.Snapshot.Encode

/-!
# States from documents

Reading back what was persisted. The document may hold anything, so each step says what it expects
and what else it meets. Problems inside a persisted state are reported as problems of the format,
save one: an infinite line or column.

Fields are looked up by going through them, so that every function here recurses on a part of its
document.
-/

namespace StackShell.Snapshot

/-- What is expected of a document. -/
inductive Expected where
  | bool
  | string
  | optionalString
  | list
  | object

/-- The name of what is expected. -/
def Expected.label : Expected → Text
  | .bool => "bool"
  | .string => "str"
  | .optionalString => "str | None"
  | .list => "list"
  | .object => "dict"

/-- The failure of a document that is not what is expected. -/
def unexpected {α : Type} (expected : Expected) (found : Document) : Except Failure α :=
  .error (.of (.codec (.unexpected expected.label found.inspect)))

/-- The failure of a missing field. -/
def missing {α : Type} (name : Text) : Except Failure α :=
  .error (.fault (.missingKey name))

/-- The data of a field that has to be there. -/
def required (name : Text) (fields : List Field) : Except Failure Document :=
  match Document.lookup name fields with
  | some d => .ok d
  | none => missing name

/-- A truth value. -/
def expectBool : Document → Except Failure Bool
  | .bool b => .ok b
  | d => unexpected .bool d

/-- A string. -/
def expectString : Document → Except Failure Text
  | .string text => .ok text
  | d => unexpected .string d

/-- A string or nothing. -/
def expectOptionalString : Document → Except Failure (Option Text)
  | .string text => .ok (some text)
  | .null => .ok none
  | d => unexpected .optionalString d

/-- A number. A truth value is none. -/
def expectNumber : Document → Except Failure Number
  | .int n => .ok (.int n)
  | .float x => .ok (.float x)
  | d => .error (.of (.codec (.invalidNumber d.inspect)))

/-- A document as an integer: doubles lose their fraction, and strings are read. -/
def toInteger : Document → Except Failure Int
  | .int n => .ok n
  | .bool b => .ok (if b then 1 else 0)
  | .float x =>
    match (Number.float x).exact with
    | .finite num den => .ok (num.tdiv den)
    | .infinite _ => .error (.fault .infiniteInteger)
    | .nan => .error (.fault .nanInteger)
  | .string text =>
    match Decimal.parseInteger text with
    | .ok n => .ok n
    | .error (.tooLong digits) => .error (.fault (.textTooLong (some digits)))
    | .error .malformed => .error (.fault (.notInteger text))
  | d => .error (.fault (.noInteger d.className))

/-- The parts of a document that is walked through: the items of a list, the characters of a string,
the names of an object. -/
def parts? : Document → Option (List Document)
  | .list items => some items
  | .string text => some (text.toList.map fun c => .string (Text.singleton c))
  | .object fields => some (fields.map fun f => .string f.name)
  | _ => none

/-- A place: two parts, or nothing at all. -/
def decodePlace : Document → Except Failure Location
  | .null => .ok .nowhere
  | d =>
    match parts? d with
    | none => .error (.fault (.noItems d.className))
    | some [line, column] => do
      let line ← toInteger line
      let column ← toInteger column
      return ⟨line, column⟩
    | some parts =>
      .error (.fault (if parts.length > 2 then .tooManyItems else .tooFewItems parts.length))

/-- The place of a statement. -/
def placeOf (fields : List Field) : Except Failure Location :=
  decodePlace ((Document.lookup "location" fields).getD .null)

/-- The failure of asking something other than an object for a field. -/
def noField {α : Type} : Document → Except Failure α
  | .list _ => .error (.fault .listField)
  | .string _ => .error (.fault .stringField)
  | d => .error (.fault (.notSubscriptable d.className))

/-- The failure of asking something other than an object for its variant. -/
def noVariant {α : Type} (d : Document) : Except Failure α :=
  .error (.fault (.noAttribute d.className "get"))

/-- The variant of an object. -/
def variant (fields : List Field) : Document :=
  (Document.lookup "type" fields).getD .null

mutual

/-- Reads a value. -/
def decodeValue : Document → Except Failure Value
  | .object fields =>
    match ValueTag.ofDocument? (variant fields) with
    | some .boolean => return .boolean (← expectBool (← required "value" fields))
    | some .number => return .number (← expectNumber (← required "value" fields))
    | some .string => return .string (← expectString (← required "value" fields))
    | some .function => return .function (← programUnder "body" fields)
    | none => .error (.of (.codec (.unknownValue (variant fields).plain)))
  | d => noVariant d
termination_by structural x => x

/-- Reads a statement. -/
def decodeStatement : Document → Except Failure Statement
  | .object fields =>
    match StatementTag.ofDocument? (variant fields) with
    | some .literal => do
      let v ← valueUnder "value" fields
      return .literal v (← placeOf fields)
    | some .load => do
      let name ← expectString (← required "name" fields)
      return .load name (← placeOf fields)
    | some .store => do
      let name ← expectString (← required "name" fields)
      return .store name (← placeOf fields)
    | some .invoke => do
      let name ← expectString (← required "name" fields)
      return .invoke name (← placeOf fields)
    | some .call => do
      let name ← expectOptionalString (← required "name" fields)
      return .call name (← placeOf fields)
    | some .conditional => do
      let branches ← branchesUnder "branches" fields
      let otherwise ← otherwiseUnder "otherwise" fields
      return .conditional branches otherwise
    | some .whileLoop => do
      let condition ← programUnder "condition" fields
      let body ← programUnder "body" fields
      return .whileLoop condition body
    | some .define => do
      let name ← expectOptionalString (← required "name" fields)
      let body ← programUnder "body" fields
      return .define name body
    | none => .error (.of (.codec (.unknownStatement (variant fields).plain)))
  | d => noVariant d
termination_by structural x => x

/-- Reads a program. -/
def decodeProgram : Document → Except Failure Program
  | .list items => decodeStatements items
  | d => unexpected .list d
termination_by structural x => x

/-- Reads statements. -/
def decodeStatements : List Document → Except Failure Program
  | [] => .ok []
  | d :: rest => do
    let s ← decodeStatement d
    let others ← decodeStatements rest
    return s :: others
termination_by structural x => x

/-- Reads the value under a name. -/
def valueUnder (name : Text) : List Field → Except Failure Value
  | [] => missing name
  | .mk key d :: rest => if key == name then decodeValue d else valueUnder name rest
termination_by structural x => x

/-- Reads the program under a name. -/
def programUnder (name : Text) : List Field → Except Failure Program
  | [] => missing name
  | .mk key d :: rest => if key == name then decodeProgram d else programUnder name rest
termination_by structural x => x

/-- Reads the program under a name, if there is anything. -/
def otherwiseUnder (name : Text) : List Field → Except Failure (Option Program)
  | [] => .ok none
  | .mk key d :: rest =>
    if key == name then decodeOtherwise d else otherwiseUnder name rest
termination_by structural x => x

/-- Reads a program that may be missing. -/
def decodeOtherwise : Document → Except Failure (Option Program)
  | .null => .ok none
  | .list items => return some (← decodeStatements items)
  | d => unexpected .list d
termination_by structural x => x

/-- Reads the branches under a name. -/
def branchesUnder (name : Text) : List Field → Except Failure (List Branch)
  | [] => missing name
  | .mk key d :: rest => if key == name then decodeBranches d else branchesUnder name rest
termination_by structural x => x

/-- Reads the branches that a document holds. What is walked through without being a list holds
none. -/
def decodeBranches : Document → Except Failure (List Branch)
  | .list items => decodeEachBranch items
  | d =>
    match parts? d with
    | none => .error (.fault (.notIterable d.className))
    | some [] => .ok []
    | some (first :: _) => noField first
termination_by structural x => x

/-- Reads branches. -/
def decodeEachBranch : List Document → Except Failure (List Branch)
  | [] => .ok []
  | d :: rest => do
    let b ← decodeBranch d
    let others ← decodeEachBranch rest
    return b :: others
termination_by structural x => x

/-- Reads a branch, the condition first. -/
def decodeBranch : Document → Except Failure Branch
  | .object fields => do
    let condition ← programUnder "condition" fields
    let body ← programUnder "body" fields
    return .mk condition body
  | d => noField d
termination_by structural x => x

end

/-- Whether a version is the one that is read. -/
def isCurrent (d : Document) : Bool :=
  match d with
  | .int n => n == version
  | .float x => (Number.float x).same (.int version)
  | .bool b => b
  | _ => false

/-- Reads variables in order. -/
def decodeVariables : List Field → Except Failure (List (Text × Value))
  | [] => .ok []
  | .mk name d :: rest => do
    let v ← decodeValue d
    let others ← decodeVariables rest
    return (name, v) :: others

/-- Reads the variables and the values, from the bottom to the top, out of the fields of a state. -/
def decodeContent (fields : List Field) : Except Failure (List (Text × Value) × List Value) := do
  let bindings ← match ← required "variables" fields with
    | .object inner => decodeVariables inner
    | d => unexpected .object d
  let values ← match ← required "stack" fields with
    | .list items => items.mapM decodeValue
    | d => unexpected .list d
  return (bindings, values)

/-- Whether a fault in a persisted state is a problem of the format. -/
def isMalformed (fault : Fault) : Bool :=
  (["KeyError", "TypeError", "ValueError", "AttributeError"] : List Text).contains fault.label

/-- What a failure inside a persisted state is reported as. -/
def reportMalformed : Failure → Failure
  | .fault fault =>
    if isMalformed fault then .of (.codec (.malformed fault)) else .fault fault
  | failure => failure

/-- Reads the variables and the values, from the bottom to the top, of a persisted state. -/
def decode (d : Document) : Except Failure (List (Text × Value) × List Value) :=
  match d with
  | .object fields =>
    let found := (Document.lookup "version" fields).getD .null
    if isCurrent found then (decodeContent fields).mapError reportMalformed
    else .error (.of (.codec (.version found.plain)))
  | _ => .error (.of (.codec .notMapping))

/-- A state with the variables and values that a document persists. -/
def restore (d : Document) (device : Device) : Except Failure State := do
  let (bindings, values) ← decode d
  return { State.initial device with bindings := .ofList bindings, stack := values.reverse }

end StackShell.Snapshot
