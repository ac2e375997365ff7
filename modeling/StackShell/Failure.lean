import StackShell.Program.Basic
import StackShell.Program.Escape

/-!
# Failures

Two families of failures stop a piece of work. A *script failure* is the fault of a script or of the
data a script is restored from; it has a cause, and a place in the source if it arose while the
script ran. A *fault* is any other failure of the host, such as a number that cannot be written.

Causes are kept as data. Their wording is given here, once, by `Cause.message` and `Fault.message`,
and the name under which a failure is reported by `Kind.label` and `Fault.label`.
-/

namespace StackShell

/-! ## Faults of the host -/

/-- What a test of a value's class cannot deal with. -/
inductive ClassProblem where
  /-- The class is no class at all. -/
  | noClass
  /-- The class has parameters. -/
  | parameterised
  /-- The class that holds everything, inside a union. -/
  | anything
  /-- A member of an optional class is no class at all. -/
  | memberNoClass
  /-- A member of an optional class has parameters. -/
  | memberParameterised

/-- A failure that is not the script's own. -/
inductive Fault where
  /-- The text of an integer is too long to be written, or, with its length, to be read. -/
  | textTooLong (digits : Option Nat)
  /-- An integer literal of that many digits, met while the named part of a program was built. -/
  | literalTooLong (part : Text) (digits : Nat)
  /-- An integer lies beyond the largest double. -/
  | integerTooLarge
  /-- A quotient of integers lies beyond the largest double. -/
  | quotientTooLarge
  /-- A count lies beyond what a text can be long. -/
  | countTooLarge
  /-- An infinite double was to become an integer. -/
  | infiniteInteger
  /-- What is not a number was to become an integer. -/
  | nanInteger
  /-- A text is not that of an integer. -/
  | notInteger (text : Text)
  /-- A value of the class cannot become an integer. -/
  | noInteger (className : Text)
  /-- Parts of a program are nested too deep. -/
  | depth
  /-- A run was given up. -/
  | unfinished
  /-- A statement of the class is not known. -/
  | unknownStatement (className : Text)
  /-- A column has a negative width. -/
  | negativeWidth
  /-- A stack was to be made of nothing. -/
  | emptyStack
  /-- A stack was taken for a truth value. -/
  | stackTruth
  /-- More than two items where two are needed. -/
  | tooManyItems
  /-- Fewer than two items where two are needed. -/
  | tooFewItems (got : Nat)
  /-- A value of the class was to be taken apart into two. -/
  | noItems (className : Text)
  /-- A value of the class was to be walked through. -/
  | notIterable (className : Text)
  /-- A value of the class was asked for a field. -/
  | notSubscriptable (className : Text)
  /-- A list was asked for a field. -/
  | listField
  /-- A string was asked for a field. -/
  | stringField
  /-- A field is missing. -/
  | missingKey (name : Text)
  /-- A value of the class lacks the ability. -/
  | noAttribute (className ability : Text)
  /-- A command that does not exist was to be run. -/
  | notCallable
  /-- A function of the host asked for an argument that it was not given. -/
  | noArgument
  /-- A failure was raised without all that it has to say. -/
  | incompleteRaise
  /-- A value's class was tested in a way that has no answer. -/
  | classTest (problem : ClassProblem)
  /-- An alias stands for no command. -/
  | danglingAlias (second name : Text)
  /-- A terminal was used after it was closed. -/
  | terminalClosed
  /-- A text cannot be written because of its surrogates. -/
  | unencodable (surrogates : Text.Unencodable)
  /-- The bytes of a file are no text; the decoder says why. -/
  | undecodable (reason : Text)
  /-- A file cannot be opened because it is missing. -/
  | noSuchFile (path : Text)
  /-- A file cannot be opened because it is a directory. -/
  | isDirectory (path : Text)
  /-- A file cannot be opened because a part of its path is no directory. -/
  | notDirectory (path : Text)
  /-- A function of the host reported a bad value. -/
  | raisedValue (text : Text)
  /-- A function of the host reported a missing key. -/
  | raisedKey (text : Text)

namespace Fault

/-- The name under which a fault is reported. -/
def label : Fault → Text
  | .textTooLong _ | .nanInteger | .notInteger _ | .negativeWidth | .emptyStack | .tooManyItems
  | .tooFewItems _ | .raisedValue _ => "ValueError"
  | .literalTooLong .. => "VisitError"
  | .integerTooLarge | .quotientTooLarge | .countTooLarge | .infiniteInteger => "OverflowError"
  | .noInteger _ | .stackTruth | .noItems _ | .notIterable _ | .notSubscriptable _ | .listField
  | .stringField | .notCallable | .incompleteRaise | .classTest _ => "TypeError"
  | .depth => "RecursionError"
  | .unfinished => "TimeoutError"
  | .unknownStatement _ => "NotImplementedError"
  | .missingKey _ | .raisedKey _ => "KeyError"
  | .noAttribute .. => "AttributeError"
  | .noArgument => "IndexError"
  | .danglingAlias .. => "AssertionError"
  | .terminalClosed => "RuntimeError"
  | .unencodable _ => "UnicodeEncodeError"
  | .undecodable _ => "UnicodeDecodeError"
  | .noSuchFile _ => "FileNotFoundError"
  | .isDirectory _ => "IsADirectoryError"
  | .notDirectory _ => "NotADirectoryError"

/-- How the limit on the text of integers is worded. -/
def lengthMessage (digits : Option Nat) : Text :=
  "Exceeds the limit (4300 digits) for integer string conversion"
    ++ (match digits with
        | some n => ": value has " ++ toString n ++ " digits"
        | none => "")
    ++ "; use sys.set_int_max_str_digits() to increase the limit"

/-- The wording of a fault, apart from the quotes around a missing key. -/
def detail : Fault → Text
  | .textTooLong digits => lengthMessage digits
  | .literalTooLong part digits =>
    "Error trying to process rule \"" ++ part ++ "\":\n\n" ++ lengthMessage (some digits)
  | .integerTooLarge => "int too large to convert to float"
  | .quotientTooLarge => "integer division result too large for a float"
  | .countTooLarge => "cannot fit 'int' into an index-sized integer"
  | .infiniteInteger => "cannot convert float infinity to integer"
  | .nanInteger => "cannot convert float NaN to integer"
  | .notInteger text =>
    "invalid literal for int() with base 10: " ++ Text.ofList ((Text.quoted text).toList.take 200)
  | .noInteger className =>
    "int() argument must be a string, a bytes-like object or a real number, not '" ++ className
      ++ "'"
  | .depth => "maximum recursion depth exceeded"
  | .unfinished => "the run was given up"
  | .unknownStatement className => "Unknown statement type `" ++ className ++ "`."
  | .negativeWidth => "Sign not allowed in string format specifier"
  | .emptyStack => "Use the canonical `nil` instance for empty stacks"
  | .stackTruth => "Stack truth value is ambiguous; compare with `is nil` or `is not nil`."
  | .tooManyItems => "too many values to unpack (expected 2)"
  | .tooFewItems got => "not enough values to unpack (expected 2, got " ++ toString got ++ ")"
  | .noItems className => "cannot unpack non-iterable " ++ className ++ " object"
  | .notIterable className => "'" ++ className ++ "' object is not iterable"
  | .notSubscriptable className => "'" ++ className ++ "' object is not subscriptable"
  | .listField => "list indices must be integers or slices, not str"
  | .stringField => "string indices must be integers, not 'str'"
  | .missingKey name => name
  | .noAttribute className ability =>
    "'" ++ className ++ "' object has no attribute '" ++ ability ++ "'"
  | .notCallable => "'NoneType' object is not callable"
  | .noArgument => "tuple index out of range"
  | .incompleteRaise =>
    "ScriptTypeMismatch.__init__() missing 1 required positional argument: 'actual'"
  | .classTest .noClass => "isinstance() arg 2 must be a type, a tuple of types, or a union"
  | .classTest .parameterised => "isinstance() argument 2 cannot be a parameterized generic"
  | .classTest .anything => "typing.Any cannot be used with isinstance()"
  | .classTest .memberNoClass =>
    "issubclass() arg 2 must be a class, a tuple of classes, or a union"
  | .classTest .memberParameterised => "issubclass() argument 2 cannot be a parameterized generic"
  | .danglingAlias second name =>
    "Alias `" ++ second ++ "` refers to missing command `" ++ name ++ "`."
  | .terminalClosed => "Terminal is closed."
  | .unencodable surrogates => surrogates.message
  | .undecodable reason => reason
  | .noSuchFile path => "[Errno 2] No such file or directory: " ++ Text.quoted path
  | .isDirectory path => "[Errno 21] Is a directory: " ++ Text.quoted path
  | .notDirectory path => "[Errno 20] Not a directory: " ++ Text.quoted path
  | .raisedValue text | .raisedKey text => text

/-- The wording of a fault. A missing key is shown in quotes. -/
def message (fault : Fault) : Text :=
  match fault with
  | .missingKey name | .raisedKey name => Text.quoted name
  | _ => fault.detail

/-- A fault as it is quoted inside another message. -/
def quoted (fault : Fault) : Text :=
  fault.label ++ "(" ++ Text.quoted fault.detail ++ ")"

end Fault

/-- The string that a strict stream takes for a text. -/
def Text.written (text : Text) : Except Fault String :=
  text.encode.mapError Fault.unencodable

/-! ## Causes of script failures -/

/-- The kinds of script failures. -/
inductive Kind where
  | general
  | parse
  | incomplete
  | runtime
  | unknownCommand
  | undefinedVariable
  | underflow
  | mismatch
  | arithmetic
  | recursion
  | cancelled
  | signature
  | codec
  | extension
deriving DecidableEq

/-- The name under which a kind is reported. -/
def Kind.label : Kind → Text
  | .general => "ScriptError"
  | .parse => "ScriptParseError"
  | .incomplete => "ScriptIncompleteParse"
  | .runtime => "ScriptRuntimeError"
  | .unknownCommand => "ScriptUnknownCommand"
  | .undefinedVariable => "ScriptUndefinedVariable"
  | .underflow => "ScriptStackUnderflow"
  | .mismatch => "ScriptTypeMismatch"
  | .arithmetic => "ScriptArithmeticError"
  | .recursion => "ScriptRecursionError"
  | .cancelled => "ScriptCancelled"
  | .signature => "ScriptTypeMissing"
  | .codec => "ScriptCodecError"
  | .extension => "ScriptModuleError"

/-- Whether failures of the kind arise while a script runs: these are given a place. -/
def Kind.isRuntime : Kind → Bool
  | .runtime | .unknownCommand | .undefinedVariable | .underflow | .mismatch | .arithmetic
  | .recursion => true
  | _ => false

/-- What is missing on the stack. -/
inductive Underflow where
  | pop
  | condition
  | call
  /-- A command needs more items than there are. -/
  | arguments (command : Text) (needed available : Nat)

/-- What has no result. -/
inductive Undefined where
  | divisionByZero
  /-- A double that lies on no floor, by its text. -/
  | noFloor (text : Text)
  | negativeRepeat (count : Text)
  | longRepeat

/-- Why a run was stopped. -/
inductive Stop where
  | requested
  | limit (steps : Int)
  | terminalClosed

/-- What is wrong with the shapes of a host function. -/
inductive SignatureProblem where
  | notPositional (command : Text)
  | unannotated (command : Text) (parameters : List Text)
  | noResult (command : Text)
  | wholeStack (command : Text)
  | unsupported (shape : Text)

/-- What is wrong with persisted state, or with state that is to be persisted. -/
inductive CodecProblem where
  | notDocument (detail : Text)
  | notMapping
  | version (found : Text)
  | malformed (fault : Fault)
  | unknownValue (tag : Text)
  | unknownStatement (tag : Text)
  | invalidNumber (found : Text)
  | unexpected (expected found : Text)
  | unencodableValue (className : Text)
  | unencodableStatement (className : Text)

/-- What is wrong with an extension. -/
inductive ExtensionProblem where
  | notFound (name : Text)
  /-- Loading it failed with the message. -/
  | broken (name message : Text)
  /-- It does not list its operators. -/
  | unlisted (name : Text)
  /-- A listed function is not named like an operator. -/
  | badName (function : Text)

/-- What is wrong with a source text. -/
inductive ParseProblem where
  /-- No token starts with the character. -/
  | character (c : CodePoint)
  /-- The token does not fit. -/
  | token (text : Text)
  /-- A block is open at the end of the text. -/
  | endOfInput
  /-- The string literal with this text cannot be decoded. -/
  | literal (text : Text) (problem : Escape.Problem)

/-- A problem of a source text, where it is, and the name of the source. -/
structure ParseError where
  problem : ParseProblem
  place : Location
  source : Option Text

/-- Why a script failed. -/
inductive Cause where
  | parse (error : ParseError)
  | unknownCommand (name : Text)
  | undefinedVariable (name : Text)
  | underflow (missing : Underflow)
  | mismatch (expected actual : Text)
  | arithmetic (problem : Undefined)
  | tooDeep
  | cancelled (reason : Stop)
  | signature (problem : SignatureProblem)
  | codec (problem : CodecProblem)
  | extension (problem : ExtensionProblem)
  /-- A failure that a function of the host words itself. -/
  | raised (kind : Kind) (text : Text)

/-- The wording of an underflow. -/
def Underflow.message : Underflow → Text
  | .pop => "Cannot pop from an empty stack."
  | .condition => "Condition left nothing on the stack."
  | .call => "Call needs a function on the stack."
  | .arguments command needed available =>
    "`" ++ command ++ "` needs " ++ toString needed ++ " item(s) on the stack, but "
      ++ toString available ++ " available."

/-- The wording of an arithmetic problem. -/
def Undefined.message : Undefined → Text
  | .divisionByZero => "Division by zero."
  | .noFloor text => "Cannot round " ++ text ++ "."
  | .negativeRepeat count => "Cannot repeat a string " ++ count ++ " times."
  | .longRepeat => "Repeated string would exceed 1,048,576 characters."

/-- The wording of a reason to stop. -/
def Stop.message : Stop → Text
  | .requested => "Execution was cancelled."
  | .limit steps => "Step limit of " ++ toString steps ++ " reached."
  | .terminalClosed => "Terminal was closed."

/-- The wording of a shape problem. -/
def SignatureProblem.message : SignatureProblem → Text
  | .notPositional command =>
    "Command `" ++ command ++ "` may only take plain positional parameters."
  | .unannotated command parameters =>
    "Command `" ++ command ++ "` must annotate parameters: " ++ Text.intercalate ", " parameters
      ++ "."
  | .noResult command => "Command `" ++ command ++ "` must declare a return annotation."
  | .wholeStack command =>
    "Command `" ++ command ++ "` taking the whole `Stack` cannot take other items."
  | .unsupported shape => "Unsupported type in command annotation: " ++ shape ++ "."

/-- The wording of a problem with persisted state. -/
def CodecProblem.message : CodecProblem → Text
  | .notDocument detail => "Context state is not valid JSON: " ++ detail
  | .notMapping => "Context state must be a mapping."
  | .version found => "Unsupported context state version `" ++ found ++ "`."
  | .malformed fault => "Malformed context state: " ++ fault.quoted
  | .unknownValue tag => "Unknown value type `" ++ tag ++ "`."
  | .unknownStatement tag => "Unknown statement type `" ++ tag ++ "`."
  | .invalidNumber found => "Invalid number `" ++ found ++ "`."
  | .unexpected expected found => "Expected " ++ expected ++ ", found `" ++ found ++ "`."
  | .unencodableValue className => "Cannot encode value of type `" ++ className ++ "`."
  | .unencodableStatement className => "Cannot encode statement of type `" ++ className ++ "`."

/-- The wording of a problem with an extension. -/
def ExtensionProblem.message : ExtensionProblem → Text
  | .notFound name => "Module `" ++ name ++ "` not found."
  | .broken _ message => message
  | .unlisted name => "Module `" ++ name ++ "` must list its operators in `__commands__`."
  | .badName function => "Command function `" ++ function ++ "` must be named `op_*`."

/-- The file that a problem with an extension is about. -/
def ExtensionProblem.file? : ExtensionProblem → Option Text
  | .broken name _ | .unlisted name => some (name ++ ".py")
  | .notFound _ | .badName _ => none

/-- The name that a problem with an extension is about. -/
def ExtensionProblem.subject : ExtensionProblem → Text
  | .notFound name | .broken name _ | .unlisted name | .badName name => name

/-- A place in words. -/
def Location.text (place : Location) : Text :=
  "line " ++ toString place.line ++ ", column " ++ toString place.column

namespace ParseError

/-- The wording of a problem with a source text. -/
def message (error : ParseError) : Text :=
  let place := error.place.text
  match error.problem with
  | .character c => "Unexpected character `" ++ Text.singleton c ++ "` at " ++ place ++ "."
  | .token text => "Unexpected `" ++ text ++ "` at " ++ place ++ "."
  | .endOfInput => "Unexpected end of input, a block is missing its `end`?"
  | .literal _ problem => "Invalid string literal at " ++ place ++ ": " ++ problem.message

/-- The text of the token that the problem is about; empty at the end of the source. -/
def token (error : ParseError) : Text :=
  match error.problem with
  | .character c => Text.singleton c
  | .token text | .literal text _ => text
  | .endOfInput => ""

end ParseError

namespace Cause

/-- The kind of a cause. -/
def kind : Cause → Kind
  | .parse error =>
    match error.problem with
    | .endOfInput => .incomplete
    | _ => .parse
  | .unknownCommand _ => .unknownCommand
  | .undefinedVariable _ => .undefinedVariable
  | .underflow _ => .underflow
  | .mismatch .. => .mismatch
  | .arithmetic _ => .arithmetic
  | .tooDeep => .recursion
  | .cancelled _ => .cancelled
  | .signature _ => .signature
  | .codec _ => .codec
  | .extension _ => .extension
  | .raised kind _ => kind

/-- The wording of a cause. -/
def message : Cause → Text
  | .parse error => error.message
  | .unknownCommand name => "Unknown command `" ++ name ++ "`."
  | .undefinedVariable name => "Variable `" ++ name ++ "` is not defined."
  | .underflow missing => missing.message
  | .mismatch expected actual => "Expected " ++ expected ++ ", got " ++ actual ++ "."
  | .arithmetic problem => problem.message
  | .tooDeep => "Maximum call depth exceeded."
  | .cancelled reason => reason.message
  | .signature problem => problem.message
  | .codec problem => problem.message
  | .extension problem => problem.message
  | .raised _ text => text

/-- The command or variable that a cause is about. -/
def name? : Cause → Option Text
  | .unknownCommand name | .undefinedVariable name => some name
  | _ => none

end Cause

/-! ## Failures -/

/-- Why a piece of work stopped. -/
inductive Failure where
  /-- The script's own failure, with the place of the statement that failed, if known. -/
  | script (cause : Cause) (place : Option Location)
  /-- A failure of the host. -/
  | fault (fault : Fault)

namespace Failure

/-- A script failure without a place. -/
def of (cause : Cause) : Failure :=
  .script cause none

/-- The name under which a failure is reported. -/
def label : Failure → Text
  | .script cause _ => cause.kind.label
  | .fault f => f.label

/-- The wording of a failure. -/
def message : Failure → Text
  | .script cause _ => cause.message
  | .fault f => f.message

/-- Whether a failure says that a source text ends too early. -/
def isIncomplete : Failure → Bool
  | .script cause _ => cause.kind = .incomplete
  | .fault _ => false

/-- Gives a failure that arose while a script ran a place, unless it has one. -/
def locate (place : Location) : Failure → Failure
  | .script cause none => .script cause (if cause.kind.isRuntime then some place else none)
  | failure => failure

end Failure

end StackShell
