import StackShell.Text.Quoted

/-!
# Encoding

A text is sent to a stream or a file in an encoding of characters. Surrogates have none: a strict
stream refuses a text that holds one, a lenient stream takes their numbers instead.
-/

namespace StackShell

namespace CodePoint

/-- The character that a code point is. -/
def char? : CodePoint → Option Char
  | char c => some c
  | lone _ => none

/-- Whether a code point is a character. -/
def isChar (c : CodePoint) : Bool :=
  c.char?.isSome

end CodePoint

namespace Text

/-- The first surrogates of a text: they stand from place `first` up to, but without, `stop`. -/
structure Unencodable where
  first : Nat
  stop : Nat
  /-- The first of them, by its distance from U+D800. -/
  surrogate : Fin 0x800

/-- The wording of a refusal. -/
def Unencodable.message (u : Unencodable) : Text :=
  if u.stop = u.first + 1 then
    "'utf-8' codec can't encode character '\\u" ++ hex 4 (0xd800 + u.surrogate) ++ "' in position "
      ++ toString u.first ++ ": surrogates not allowed"
  else
    "'utf-8' codec can't encode characters in position " ++ toString u.first ++ "-"
      ++ toString (u.stop - 1) ++ ": surrogates not allowed"

/-- The string that is written for a text, unless it holds a surrogate. -/
def encode (text : Text) : Except Unencodable String :=
  match text.toList.dropWhile CodePoint.isChar with
  | .lone surrogate :: rest =>
    let first := (text.toList.takeWhile CodePoint.isChar).length
    .error ⟨first, first + 1 + (rest.takeWhile (!·.isChar)).length, surrogate⟩
  | _ => .ok (String.ofList (text.toList.filterMap CodePoint.char?))

/-- What a lenient stream takes for a code point: the escape of a surrogate. -/
def escapedChars : CodePoint → List Char
  | .char c => [c]
  | .lone offset => '\\' :: 'u' :: Nat.toDigits 16 (0xd800 + offset)

/-- The string that a lenient stream takes for a text. -/
def escaped (text : Text) : String :=
  String.ofList (text.toList.flatMap escapedChars)

end Text

end StackShell
