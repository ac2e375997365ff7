import StackShell.Platform
import StackShell.Text.Digit
import StackShell.Text.Encoding

/-!
# Escapes in string literals

The characters between the quotes of a string literal are read in two steps. First the text is
spelled in ASCII: a character outside ASCII becomes an eight-digit escape. Then the escapes are
decoded from left to right. A position in a diagnostic counts characters of the spelled text.

Decoding goes one character at a time; a `Mode` says which escape is open, if any.
-/

namespace StackShell.Escape

/-- The escapes with a fixed number of hexadecimal digits. -/
inductive HexKind where
  | two
  | four
  | eight

/-- How many digits the escape has. -/
def HexKind.width : HexKind → Nat
  | .two => 2
  | .four => 4
  | .eight => 8

/-- What is wrong with an escape. -/
inductive Reason where
  | truncated (kind : HexKind)
  | beyondUnicode
  | malformedName
  | unknownName

/-- Why the text of a literal is refused. -/
inductive Problem where
  /-- The text, its opening quote included, holds surrogates. -/
  | unencodable (surrogates : Text.Unencodable)
  /-- The text holds a null character. -/
  | nullCharacter
  /-- The characters from `first` up to, but without, `stop` are no valid escape. -/
  | undecodable (first stop : Nat) (reason : Reason)

/-- The wording of a reason. -/
def Reason.message : Reason → Text
  | .truncated .two => "truncated \\xXX escape"
  | .truncated .four => "truncated \\uXXXX escape"
  | .truncated .eight => "truncated \\UXXXXXXXX escape"
  | .beyondUnicode => "illegal Unicode character"
  | .malformedName => "malformed \\N character escape"
  | .unknownName => "unknown Unicode character name"

/-- The wording of a problem. -/
def Problem.message : Problem → Text
  | .unencodable surrogates => surrogates.message
  | .nullCharacter => "source code string cannot contain null bytes"
  | .undecodable first stop reason =>
    "(unicode error) 'unicodeescape' codec can't decode bytes in position " ++ toString first ++ "-"
      ++ toString (stop - 1) ++ ": " ++ reason.message

/-- A character outside ASCII as an escape. -/
def spellChar (c : CodePoint) : List CodePoint :=
  .char '\\' :: .char 'U' :: (Text.hex 8 c.toNat).toList

/-- The text in ASCII. A backslash before a character outside ASCII stands for itself, and a
carriage return is a line end like any other. -/
def spell : List CodePoint → List CodePoint
  | [] => []
  | .char '\\' :: c :: rest =>
    if c == '\r' then .char '\\' :: .char '\n' :: spell rest
    else if c.toNat < 0x80 then .char '\\' :: c :: spell rest
    else ("\\u005c" : Text).toList ++ spellChar c ++ spell rest
  | c :: rest => (if c.toNat < 0x80 then [c] else spellChar c) ++ spell rest

/-- The characters that a backslash and one letter stand for. -/
def simple? : CodePoint → Option (List CodePoint)
  | .char '\n' => some []
  | .char '\\' => some [.char '\\']
  | .char '\'' => some [.char '\'']
  | .char '"' => some [.char '"']
  | .char 'a' => some [.char '\x07']
  | .char 'b' => some [.char '\x08']
  | .char 't' => some [.char '\t']
  | .char 'n' => some [.char '\n']
  | .char 'v' => some [.char '\x0b']
  | .char 'f' => some [.char '\x0c']
  | .char 'r' => some [.char '\r']
  | _ => none

/-- The value of an octal digit. -/
def octal? (c : CodePoint) : Option Nat :=
  if '0' ≤ c ∧ c ≤ '7' then some (c.toNat - 0x30) else none

/-- The escape that is open. Each one knows the position of its backslash, save the octal escape,
which cannot fail. -/
inductive Mode where
  | plain
  | slash (start : Nat)
  /-- An octal escape that may take `left` more digits. -/
  | octal (left value : Nat)
  /-- A hexadecimal escape that needs `left` more digits. -/
  | hex (start : Nat) (kind : HexKind) (left value : Nat)
  /-- Before the brace of a name. -/
  | name (start : Nat)
  /-- Inside a name, its letters in reverse. -/
  | letters (start : Nat) (seen : List CodePoint)

/-- What an escape that is open at the end of the text, at position `stop`, gives. -/
def Mode.close (stop : Nat) : Mode → Except Problem (List CodePoint)
  | .plain => .ok []
  | .slash _ => .ok [.char '\\']
  | .octal _ value => .ok [CodePoint.ofNat value]
  | .hex start kind _ _ => .error (.undecodable start stop (.truncated kind))
  | .name start | .letters start _ => .error (.undecodable start stop .malformedName)

variable [Platform]

/-- The characters that one more character gives, and the escape that is open after it. -/
def Mode.step (pos : Nat) (c : CodePoint) : Mode → Except Problem (List CodePoint × Mode)
  | .plain => .ok (plain c)
  | .slash start =>
    match simple? c, octal? c, c with
    | some out, _, _ => .ok (out, .plain)
    | _, some d, _ => .ok ([], .octal 2 d)
    | _, _, .char 'x' => .ok ([], .hex start .two 2 0)
    | _, _, .char 'u' => .ok ([], .hex start .four 4 0)
    | _, _, .char 'U' => .ok ([], .hex start .eight 8 0)
    | _, _, .char 'N' => .ok ([], .name start)
    | _, _, _ => .ok ([.char '\\', c], .plain)
  | .octal left value =>
    match left, octal? c with
    | left + 1, some d => .ok ([], .octal left (8 * value + d))
    | _, _ =>
      let (out, mode) := plain c
      .ok (CodePoint.ofNat value :: out, mode)
  | .hex start kind left value =>
    match Text.hexDigit? c with
    | none => .error (.undecodable start pos (.truncated kind))
    | some d =>
      let value := 16 * value + d
      if left > 1 then .ok ([], .hex start kind (left - 1) value)
      else if value > 0x10ffff then .error (.undecodable start (pos + 1) .beyondUnicode)
      else .ok ([CodePoint.ofNat value], .plain)
  | .name start =>
    if c == '\x7b' then .ok ([], .letters start [])
    else .error (.undecodable start pos .malformedName)
  | .letters start seen =>
    if c == '\x7d' then
      if seen.isEmpty then .error (.undecodable start pos .malformedName)
      else
        match Platform.character? (Text.ofList seen.reverse) with
        | some named => .ok ([named], .plain)
        | none => .error (.undecodable start (pos + 1) .unknownName)
    else .ok ([], .letters start (c :: seen))
where
  /-- A character outside any escape. -/
  plain (c : CodePoint) : List CodePoint × Mode :=
    if c == '\\' then ([], .slash pos) else ([c], .plain)

/-- Decodes the rest of a spelled text from position `pos` on. -/
def decodeFrom (pos : Nat) (mode : Mode) : List CodePoint → Except Problem (List CodePoint)
  | [] => mode.close pos
  | c :: rest => do
    let (out, mode) ← mode.step pos c
    let tail ← decodeFrom (pos + 1) mode rest
    return out ++ tail

/-- The string that the characters between the quotes of a literal stand for. -/
def decode (inner : List CodePoint) : Except Problem Text :=
  match (Text.ofList (.char '"' :: inner)).encode with
  | .error surrogates => .error (.unencodable surrogates)
  | .ok _ =>
    if inner.contains '\x00' then .error .nullCharacter
    else (decodeFrom 0 .plain (spell inner)).map Text.ofList

end StackShell.Escape
