import StackShell.Text.CodePoint

/-!
# Finding and replacing

Search for one row of characters inside another, and replacement of all its occurrences from left to
right. Occurrences do not overlap.
-/

namespace StackShell.Text

/-- Whether `part` occurs in the text. -/
def occurs (part : List CodePoint) : List CodePoint → Bool
  | [] => part.isEmpty
  | c :: rest => part.isPrefixOf (c :: rest) || occurs part rest

/-- Replaces the occurrences of a row of characters that is not empty. -/
def replaceRow (first : CodePoint) (more new text : List CodePoint) : List CodePoint :=
  match text with
  | [] => []
  | c :: rest =>
    if (first :: more).isPrefixOf (c :: rest) then
      new ++ replaceRow first more new (rest.drop more.length)
    else c :: replaceRow first more new rest
termination_by text.length
decreasing_by
  · simp only [List.length_drop, List.length_cons]
    omega
  · simp

/-- Replaces all occurrences of `old` by `new`. The empty row occurs before each character and at
the end. -/
def replaceAll (old new text : List CodePoint) : List CodePoint :=
  match old with
  | [] => new ++ text.flatMap fun c => c :: new
  | first :: more => replaceRow first more new text

/-- Puts `value` in the place of each `%1` and a percent sign in the place of each `%%`, in one
pass. The value is asked for only where it is needed. -/
def fillTemplate {ε : Type} (value : Except ε (List CodePoint)) :
    List CodePoint → Except ε (List CodePoint)
  | .char '%' :: .char '1' :: rest => do
    let v ← value
    let tail ← fillTemplate value rest
    return v ++ tail
  | .char '%' :: .char '%' :: rest => do
    let tail ← fillTemplate value rest
    return .char '%' :: tail
  | c :: rest => do
    let tail ← fillTemplate value rest
    return c :: tail
  | [] => .ok []

end StackShell.Text
