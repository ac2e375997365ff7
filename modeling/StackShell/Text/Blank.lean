import StackShell.Text.Basic
import StackShell.Text.Ranges

/-!
# Blank characters

White space in the sense of Unicode: it separates words, and it is what trimming removes.
-/

namespace StackShell.Text

/-- The code points that count as white space. -/
def blanks : Ranges :=
  #[(0x9, 0xd), (0x1c, 0x20), (0x85, 0x85), (0xa0, 0xa0), (0x1680, 0x1680), (0x2000, 0x200a),
    (0x2028, 0x2029), (0x202f, 0x202f), (0x205f, 0x205f), (0x3000, 0x3000)]

/-- White space of any script, the separators U+001C to U+001F included. -/
def isBlank (c : CodePoint) : Bool :=
  blanks.has c.toNat

/-- A text without the blanks at its two ends. -/
def trim (text : Text) : Text :=
  let front := text.toList.dropWhile isBlank
  Text.ofList (front.reverse.dropWhile isBlank).reverse

end StackShell.Text
