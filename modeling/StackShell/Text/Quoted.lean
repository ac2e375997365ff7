import StackShell.Text.Basic
import StackShell.Text.Printable

/-!
# Quoted texts

The quoted form of a text as diagnostics show it. It is enclosed in single quotes unless the text
holds a single quote and no double one; the enclosing quote, backslashes and characters that do not
print are written as escapes.
-/

namespace StackShell.Text

/-- The number `n` in lower-case hexadecimal digits, filled up with zeros to `width`. -/
def hex (width n : Nat) : Text :=
  let digits := Nat.toDigits 16 n
  Text.ofList ((List.replicate (width - digits.length) '0' ++ digits).map .char)

/-- One character inside the quotes `quote`. -/
def quotedChar (quote c : CodePoint) : Text :=
  if c == quote || c == '\\' then Text.ofList [.char '\\', c]
  else if c == '\t' then "\\t"
  else if c == '\n' then "\\n"
  else if c == '\r' then "\\r"
  else if isPrintable c then Text.singleton c
  else if c.toNat < 0x100 then "\\x" ++ hex 2 c.toNat
  else if c.toNat < 0x10000 then "\\u" ++ hex 4 c.toNat
  else "\\U" ++ hex 8 c.toNat

/-- The quote that encloses a text. -/
def quoteFor (text : Text) : CodePoint :=
  if text.contains '\'' && !text.contains '"' then '"' else '\''

/-- The quoted form of a text. -/
def quoted (text : Text) : Text :=
  let quote := quoteFor text
  Text.singleton quote ++ Text.join (text.toList.map (quotedChar quote)) ++ Text.singleton quote

end StackShell.Text
