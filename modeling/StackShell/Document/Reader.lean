import StackShell.Document.Basic

/-!
# Reading documents

The reader goes through the text from left to right and keeps what is left of it. A problem is
reported at the place where the rest of the text begins. Of two fields with one name the later one
counts, in the place of the earlier.

The names of the doubles that are no numbers are read, too, and an integer must not be too long.
-/

namespace StackShell.Document

/-- What is wrong with a text. -/
inductive ReadProblem where
  | value
  | fieldName
  | colon
  | comma
  | openString
  | control
  | escape
  | unicodeEscape
  | extra
  | byteOrderMark

/-- The wording of a problem. -/
def ReadProblem.message : ReadProblem → Text
  | .value => "Expecting value"
  | .fieldName => "Expecting property name enclosed in double quotes"
  | .colon => "Expecting ':' delimiter"
  | .comma => "Expecting ',' delimiter"
  | .openString => "Unterminated string starting at"
  | .control => "Invalid control character at"
  | .escape => "Invalid \\escape"
  | .unicodeEscape => "Invalid \\uXXXX escape"
  | .extra => "Extra data"
  | .byteOrderMark => "Unexpected UTF-8 BOM (decode using utf-8-sig)"

/-- Why a text is not read. -/
inductive ReadError where
  /-- A problem where `rest` begins. -/
  | problem (kind : ReadProblem) (rest : List CodePoint)
  /-- An integer of that many digits. -/
  | tooLong (digits : Nat)

/-- The blanks between the parts of a document. -/
def isSpace (c : CodePoint) : Bool :=
  c == ' ' || c == '\t' || c == '\n' || c == '\r'

/-- The text after the blanks at its start. -/
def skip (text : List CodePoint) : List CodePoint :=
  text.dropWhile isSpace

/-! ## Strings -/

/-- The number that four hexadecimal digits write. -/
def hexFour? (a b c d : CodePoint) : Option Nat := do
  let a ← Text.hexDigit? a
  let b ← Text.hexDigit? b
  let c ← Text.hexDigit? c
  let d ← Text.hexDigit? d
  return ((a * 16 + b) * 16 + c) * 16 + d

/-- The character that a backslash and one more stand for. -/
def unescape? : CodePoint → Option CodePoint
  | .char '"' => some '"'
  | .char '\\' => some '\\'
  | .char '/' => some '/'
  | .char 'b' => some '\x08'
  | .char 'f' => some '\x0c'
  | .char 'n' => some '\n'
  | .char 'r' => some '\r'
  | .char 't' => some '\t'
  | _ => none

/-- Whether a code unit opens a surrogate pair. -/
def isHigh (n : Nat) : Bool := 0xd800 ≤ n && n ≤ 0xdbff

/-- Whether a code unit closes a surrogate pair. -/
def isLow (n : Nat) : Bool := 0xdc00 ≤ n && n ≤ 0xdfff

/-- The character of a surrogate pair. -/
def joinPair (high low : Nat) : CodePoint :=
  CodePoint.ofNat (0x10000 + (high - 0xd800) * 0x400 + (low - 0xdc00))

/-- A character of a string, or the code unit that an escape with four digits gives. -/
inductive CodeUnit where
  | plain (c : CodePoint)
  | escaped (n : Nat)

/-- The characters of a row of code units: two that form a surrogate pair are one character. -/
def joinUnits : List CodeUnit → List CodePoint
  | [] => []
  | .plain c :: rest => c :: joinUnits rest
  | .escaped high :: .escaped low :: rest =>
    if isHigh high && isLow low then joinPair high low :: joinUnits rest
    else CodePoint.ofNat high :: joinUnits (.escaped low :: rest)
  | .escaped n :: rest => CodePoint.ofNat n :: joinUnits rest

/-- Puts a code unit before what was read. -/
def before (unit : CodeUnit) (tail : Except ReadError (List CodeUnit × List CodePoint)) :
    Except ReadError (List CodeUnit × List CodePoint) :=
  tail.map fun (units, rest) => (unit :: units, rest)

/-- Reads a string after its opening quote; `start` is the text from that quote on. An escape with
four digits needs a character after it. -/
def readUnits (start : List CodePoint) :
    List CodePoint → Except ReadError (List CodeUnit × List CodePoint)
  | [] => .error (.problem .openString start)
  | .char '"' :: rest => .ok ([], rest)
  | .char '\\' :: .char 'u' :: a :: b :: c :: d :: e :: rest =>
    match hexFour? a b c d with
    | some n => before (.escaped n) (readUnits start (e :: rest))
    | none => .error (.problem .unicodeEscape (.char 'u' :: a :: b :: c :: d :: e :: rest))
  | .char '\\' :: .char 'u' :: rest => .error (.problem .unicodeEscape (.char 'u' :: rest))
  | .char '\\' :: c :: rest =>
    match unescape? c with
    | some c => before (.plain c) (readUnits start rest)
    | none => .error (.problem .escape (.char '\\' :: c :: rest))
  | [.char '\\'] => .error (.problem .openString start)
  | c :: rest =>
    if c.toNat < 0x20 then .error (.problem .control (c :: rest))
    else before (.plain c) (readUnits start rest)

/-- Reads a string after its opening quote; `start` is the text from that quote on. -/
def readString (start text : List CodePoint) : Except ReadError (Text × List CodePoint) :=
  (readUnits start text).map fun (units, rest) => (Text.ofList (joinUnits units), rest)

/-! ## Numbers -/

/-- The length of the whole part of a number: a zero alone, or digits. -/
def wholeLength (text : List CodePoint) : Nat :=
  match text with
  | .char '0' :: _ => 1
  | _ => (text.takeWhile CodePoint.isDigit).length

/-- The length of a fraction, zero where there is none. -/
def fractionLength (text : List CodePoint) : Nat :=
  match text with
  | .char '.' :: rest =>
    let digits := (rest.takeWhile CodePoint.isDigit).length
    if digits == 0 then 0 else digits + 1
  | _ => 0

/-- The length of an exponent, zero where there is none. -/
def exponentLength (text : List CodePoint) : Nat :=
  match text with
  | c :: rest =>
    if c == 'e' || c == 'E' then
      let sign := match rest with
        | .char '+' :: _ | .char '-' :: _ => 1
        | _ => 0
      let digits := ((rest.drop sign).takeWhile CodePoint.isDigit).length
      if digits == 0 then 0 else 1 + sign + digits
    else 0
  | [] => 0

/-- Reads a number. -/
def readNumber (text : List CodePoint) : Except ReadError (Document × List CodePoint) :=
  let sign := Text.minusLength text
  let whole := wholeLength (text.drop sign)
  if whole == 0 then .error (.problem .value text)
  else
    let fraction := fractionLength (text.drop (sign + whole))
    let exponent := exponentLength (text.drop (sign + whole + fraction))
    let size := sign + whole + fraction + exponent
    let (lexeme, rest) := (text.take size, text.drop size)
    if fraction + exponent == 0 then
      match Decimal.readInteger lexeme with
      | .ok n => .ok (.int n, rest)
      | .error (.tooLong digits) => .error (.tooLong digits)
      | .error .malformed => .error (.problem .value text)
    else .ok (.float (Decimal.readReal lexeme), rest)

/-! ## Values -/

/-- The fixed words and what they stand for. -/
def words : List (List CodePoint × Document) :=
  [ (("null" : Text).toList, .null), (("true" : Text).toList, .bool true),
    (("false" : Text).toList, .bool false), (("NaN" : Text).toList, .float Decimal.notANumber),
    (("Infinity" : Text).toList, .float Decimal.infinity),
    (("-Infinity" : Text).toList, .float (-Decimal.infinity)) ]

/-- Reads a fixed word. -/
def readWord? (text : List CodePoint) : Option (Document × List CodePoint) :=
  words.findSome? fun (word, d) =>
    if word.isPrefixOf text then some (d, text.drop word.length) else none

mutual

/-- Reads a value of any kind; `fuel` bounds how much can be read. -/
def readValue : Nat → List CodePoint → Except ReadError (Document × List CodePoint)
  | 0, text => .error (.problem .value text)
  | fuel + 1, text =>
    match text with
    | .char '"' :: rest => (readString text rest).map fun (inner, rest) => (.string inner, rest)
    | .char '[' :: rest =>
      match skip rest with
      | .char ']' :: rest => .ok (.list [], rest)
      | inner => (readItems fuel inner).map fun (items, rest) => (.list items, rest)
    | .char '\x7b' :: rest =>
      match skip rest with
      | .char '\x7d' :: rest => .ok (.object [], rest)
      | inner => (readFields fuel [] inner).map fun (fields, rest) => (.object fields, rest)
    | _ =>
      match readWord? text with
      | some found => .ok found
      | none => readNumber text

/-- Reads the items of a list up to its closing bracket. -/
def readItems : Nat → List CodePoint → Except ReadError (List Document × List CodePoint)
  | 0, text => .error (.problem .value text)
  | fuel + 1, text => do
    let (item, rest) ← readValue fuel text
    match skip rest with
    | .char ']' :: rest => .ok ([item], rest)
    | .char ',' :: rest =>
      let (items, rest) ← readItems fuel (skip rest)
      return (item :: items, rest)
    | rest => .error (.problem .comma rest)

/-- Reads the fields of an object up to its closing brace, adding to those before them. -/
def readFields : Nat → List Field → List CodePoint → Except ReadError (List Field × List CodePoint)
  | 0, _, text => .error (.problem .value text)
  | fuel + 1, fields, text =>
    match text with
    | .char '"' :: rest => do
      let (name, rest) ← readString text rest
      match skip rest with
      | .char ':' :: rest =>
        let (value, rest) ← readValue fuel (skip rest)
        let fields := putField name value fields
        match skip rest with
        | .char '\x7d' :: rest => .ok (fields, rest)
        | .char ',' :: rest => readFields fuel fields (skip rest)
        | rest => .error (.problem .comma rest)
      | rest => .error (.problem .colon rest)
    | _ => .error (.problem .fieldName text)

end

/-- Reads a whole text. -/
def readAll (text : List CodePoint) : Except ReadError Document :=
  match text with
  | .char '\ufeff' :: _ => .error (.problem .byteOrderMark text)
  | _ => do
    let (d, rest) ← readValue (2 * text.length + 2) (skip text)
    match skip rest with
    | [] => return d
    | rest => .error (.problem .extra rest)

/-! ## Reports -/

/-- Where in the text its last part `rest` begins: line, column and index. -/
def position (text rest : List CodePoint) : Text :=
  let index := text.length - rest.length
  let seen := text.take index
  let line := seen.count (.char '\n') + 1
  let column := (seen.reverse.takeWhile (· != .char '\n')).length + 1
  "line " ++ toString line ++ " column " ++ toString column ++ " (char " ++ toString index ++ ")"

/-- The failure that a reader's error is reported as. -/
def ReadError.failure (text : List CodePoint) : ReadError → Failure
  | .problem kind rest =>
    .of (.codec (.notDocument (kind.message ++ ": " ++ position text rest)))
  | .tooLong digits => .fault (.textTooLong (some digits))

/-- Reads a document. -/
def read (text : Text) : Except Failure Document :=
  (readAll text.toList).mapError (ReadError.failure text.toList)

end StackShell.Document
