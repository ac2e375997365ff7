import StackShell.Command.Builtin
import StackShell.Text.Blank
import StackShell.Text.LetterCase
import StackShell.Text.Search

/-!
# The text extension

Operators on strings that a script gets once the extension `text` is loaded.
-/

namespace StackShell.TextExtension

open Builtin (parameter one two textOf)

/-- An operator from one string to another. -/
def mapping (name : Text) (f : Text → Text) : Routine where
  name := name
  parameters := one .string
  result := some .string
  body
    | [.string x] => .value (.string (f x))
    | _ => .misfit

/-- Whether the top string occurs in the one below. -/
def contains : Routine where
  name := "op_contains_q"
  parameters := two .string
  result := some .boolean
  body
    | [.string b, .string a] => .value (.boolean (Text.occurs a.toList b.toList))
    | _ => .misfit

/-- Replaces the second string by the top one in the third. -/
def replace : Routine where
  name := "op_replace"
  parameters := [parameter "c" .string, parameter "b" .string, parameter "a" .string]
  result := some .string
  body
    | [.string c, .string b, .string a] =>
      .value (.string (Text.ofList (Text.replaceAll b.toList a.toList c.toList)))
    | _ => .misfit

/-- The longest string that repetition may give. -/
def longest : Nat := Decimal.pow2 20

/-- The greatest count that a text can have. -/
def greatestCount : Int := Decimal.pow2 63 - 1

/-- Repeats a string. -/
def repeated (text : Text) (count : Int) : Except Failure Value :=
  if count < 0 then
    match Decimal.integerText? count with
    | some shown => .error (.of (.arithmetic (.negativeRepeat shown)))
    | none => .error (.fault (.textTooLong none))
  else if (text.length : Int) * count > longest then .error (.of (.arithmetic .longRepeat))
  else if count > greatestCount then .error (.fault .countTooLarge)
  else if text.isEmpty then .ok (.string "")
  else .ok (.string (Text.join (List.replicate count.toNat text)))

/-- Repeats a string as often as the top says. -/
def repetition : Routine where
  name := "op_repeat"
  parameters := [parameter "b" .string, parameter "a" .integer]
  result := some .string
  body
    | [.string b, .number (.int a)] => .ofExcept (repeated b a)
    | _ => .misfit

/-- Fills the template on top with the text of the value below. -/
def format : Routine where
  name := "op_format"
  parameters := [parameter "b" .anything, parameter "a" .string]
  result := some .string
  body
    | [b, .string a] =>
      let filled := Text.fillTemplate ((textOf b).map Text.toList) a.toList
      .ofExcept (filled.map fun row => .string (Text.ofList row))
    | _ => .misfit

/-- The extension. -/
def extension : Extension :=
  .operators
    [ mapping "op_upper" Text.upper, mapping "op_lower" Text.lower, mapping "op_trim" Text.trim,
      contains, replace, repetition, format ]

end StackShell.TextExtension
