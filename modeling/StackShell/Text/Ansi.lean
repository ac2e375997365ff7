import StackShell.Text.Basic

/-!
# Terminal control sequences

A control sequence is an escape character, an opening bracket, parameters, intermediate characters
and a final character. Two kinds are removed from text: colours alone, for plain output, and all
control sequences, for script output that does not go to a screen.
-/

namespace StackShell.Text

/-- A kind of control sequence: which characters are its parameters, which may stand between them
and the end, and which may end it. -/
structure ControlKind where
  isParameter : CodePoint → Bool
  isIntermediate : CodePoint → Bool
  isFinal : CodePoint → Bool

/-- Colours and other attributes of text. -/
def ControlKind.colour : ControlKind where
  isParameter c := c.isDigit || c == ';'
  isIntermediate _ := false
  isFinal c := c == 'm'

/-- Every control sequence: parameters are digits and the six signs after them, intermediate
characters run from the blank to the slash, and final ones from the at sign to the tilde. -/
def ControlKind.any : ControlKind where
  isParameter c := '0' ≤ c && c ≤ '?'
  isIntermediate c := ' ' ≤ c && c ≤ '/'
  isFinal c := '@' ≤ c && c ≤ '~'

/-- What follows a control sequence of the kind that stands at the start of the text. -/
def ControlKind.after? (kind : ControlKind) : List CodePoint → Option (List CodePoint)
  | .char '\x1b' :: .char '[' :: rest =>
    match (rest.dropWhile kind.isParameter).dropWhile kind.isIntermediate with
    | c :: tail => if kind.isFinal c then some tail else none
    | [] => none
  | _ => none

theorem ControlKind.length_after? {kind : ControlKind} {text tail : List CodePoint}
    (h : kind.after? text = some tail) : tail.length < text.length := by
  unfold after? at h
  split at h
  next rest =>
    split at h
    next c t heq =>
      have hle := ((List.dropWhile_sublist kind.isIntermediate).trans
        (List.dropWhile_sublist kind.isParameter (l := rest))).length_le
      rw [heq] at hle
      split at h
      · cases h
        simp only [List.length_cons] at hle ⊢
        omega
      · cases h
    next => cases h
  next => cases h

/-- Removes the control sequences of the kind from a row of characters. -/
def ControlKind.stripChars (kind : ControlKind) (text : List CodePoint) : List CodePoint :=
  match _h : kind.after? text with
  | some tail => kind.stripChars tail
  | none =>
    match text with
    | [] => []
    | c :: rest => c :: kind.stripChars rest
termination_by text.length
decreasing_by
  · exact ControlKind.length_after? _h
  · simp

/-- Removes the control sequences of the kind from a text. -/
def ControlKind.strip (kind : ControlKind) (text : Text) : Text :=
  Text.ofList (kind.stripChars text.toList)

end StackShell.Text
