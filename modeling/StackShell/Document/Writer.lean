import StackShell.Document.Basic

/-!
# Written documents

The text of a document. Without an indent it is one line with a blank after each comma and colon;
with one, every item and field has a line of its own. Strings keep all characters save quotes,
backslashes and controls. The text of a document that holds a long integer does not exist.
-/

namespace StackShell.Document

/-- A character inside a string. -/
def escapeChar (c : CodePoint) : List CodePoint :=
  if c == '"' || c == '\\' then [.char '\\', c]
  else if c == '\n' then [.char '\\', .char 'n']
  else if c == '\r' then [.char '\\', .char 'r']
  else if c == '\t' then [.char '\\', .char 't']
  else if c == '\x0c' then [.char '\\', .char 'f']
  else if c == '\x08' then [.char '\\', .char 'b']
  else if c.toNat < 0x20 then .char '\\' :: .char 'u' :: (Text.hex 4 c.toNat).toList
  else [c]

/-- A string in quotes. -/
def quote (text : Text) : Text :=
  "\"" ++ Text.ofList (text.toList.flatMap escapeChar) ++ "\""

/-- How items are set out: on one line, or each on a line of its own after so many indents. -/
inductive Style where
  | line
  | block (indent : Text)

/-- A new line at the given level. -/
def newLine (indent : Text) (level : Nat) : Text :=
  "\n" ++ Text.join (List.replicate level indent)

/-- Sets out the parts between two brackets. -/
def Style.enclose (style : Style) (level : Nat) (opening closing : Text) (parts : List Text) :
    Text :=
  match style, parts with
  | _, [] => opening ++ closing
  | .line, parts => opening ++ Text.intercalate ", " parts ++ closing
  | .block indent, parts =>
    let inner := newLine indent (level + 1)
    opening ++ inner ++ Text.intercalate ("," ++ inner) parts ++ newLine indent level ++ closing

/-- A double; the ones that are no numbers have names. -/
def floatText (x : Float) : Text :=
  match Decimal.Binary.ofFloat x with
  | .nan => "NaN"
  | .infinite negative => if negative then "-Infinity" else "Infinity"
  | .finite .. => Decimal.realText x

mutual

/-- The text of a document at the given level. -/
def textAt (style : Style) (level : Nat) : Document → Except Fault Text
  | .null => .ok "null"
  | .bool b => .ok (if b then "true" else "false")
  | .int n =>
    match Decimal.integerText? n with
    | some text => .ok text
    | none => .error (.textTooLong none)
  | .float x => .ok (floatText x)
  | .string text => .ok (quote text)
  | .list items => do
    let parts ← textsAt style (level + 1) items
    return style.enclose level "[" "]" parts
  | .object fields => do
    let parts ← fieldTextsAt style (level + 1) fields
    return style.enclose level "\x7b" "\x7d" parts
termination_by structural x => x

/-- The texts of documents at the given level. -/
def textsAt (style : Style) (level : Nat) : List Document → Except Fault (List Text)
  | [] => .ok []
  | d :: rest => do
    let part ← textAt style level d
    let parts ← textsAt style level rest
    return part :: parts
termination_by structural x => x

/-- The text of a field at the given level. -/
def fieldTextAt (style : Style) (level : Nat) : Field → Except Fault Text
  | .mk name value => do
    let part ← textAt style level value
    return quote name ++ ": " ++ part
termination_by structural x => x

/-- The texts of fields at the given level. -/
def fieldTextsAt (style : Style) (level : Nat) : List Field → Except Fault (List Text)
  | [] => .ok []
  | f :: rest => do
    let part ← fieldTextAt style level f
    let parts ← fieldTextsAt style level rest
    return part :: parts
termination_by structural x => x

end

/-- The text of a document. -/
def write (style : Style) (d : Document) : Except Fault Text :=
  textAt style 0 d

end StackShell.Document
