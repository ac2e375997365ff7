import StackShell.Diagnostic.Colour
import StackShell.Diagnostic.Excerpt
import StackShell.Program.Printer

/-!
# Reports

How a failed submission is reported on the console: a banner for the family of the failure, a line
of detail, the kind of the failure, and what helps to find it: an excerpt of the source, the stack,
or the trail of a failure that is not the script's own.
-/

namespace StackShell.CommandLine

/-- A report of a failure. -/
structure Report where
  banner : Text
  detail : Text
  /-- The kind of the failure. -/
  label : Text
  context : Text

/-- The text of a report. -/
def Report.text (r : Report) : Text :=
  Colour.paint "30;43" (" " ++ r.banner ++ " ") ++ " " ++ r.detail ++ " (Exception: "
    ++ Colour.paint "33" r.label ++ ")\n" ++ r.context ++ "\n"

/-- The last line of a trail: the kind of a failure and its message, if there is one. -/
def trailEnd (label message : Text) : Text :=
  if message.isEmpty then label ++ "\n" else label ++ ": " ++ message ++ "\n"

/-- The trail of a single failure. -/
def trail (label message : Text) : Text :=
  "Traceback (most recent call last):\n" ++ trailEnd label message

/-- The trail of a failure that is not the script's own. A literal that is too long is met as a
number, and then again as a part of the program. -/
def faultTrail (fault : Fault) : Text :=
  match fault with
  | .literalTooLong _ digits =>
    let inner := Fault.textTooLong (some digits)
    trail inner.label inner.message
      ++ "\nDuring handling of the above exception, another exception occurred:\n\n"
      ++ trail ("lark.exceptions." ++ fault.label) fault.message
  | _ => trail fault.label fault.message

/-- The place and the token that a problem with a source text is about. -/
def parseFocus (file : Text) : Cause → Excerpt.Focus
  | .parse error => ⟨file, some error.place.line, some error.place.column, some error.token⟩
  | _ => ⟨file, none, none, none⟩

/-- An optional text, or the word for nothing. -/
def orNothing (text : Option Text) : Text :=
  text.getD "None"

/-- The report of a script failure, of the source with the name, that left the stack. -/
def scriptReport (cause : Cause) (place : Option Location) (name source : Text)
    (stack : List Value) : Except Fault Report := do
  let label := cause.kind.label
  match cause.kind with
  | .parse | .incomplete =>
    let excerpt := Excerpt.render (parseFocus name cause) source
    return { banner := "SYNTAX ERROR.", label
             detail := "Parsing `" ++ Colour.paint Colour.white name ++ "` failed."
             context := excerpt ++ "\n" ++ Colour.paint Colour.grey cause.message ++ "\n" }
  | .cancelled => return { banner := "CANCELLED.", label, detail := cause.message, context := "" }
  | .extension =>
    let (subject, file) := match cause with
      | .extension problem => (some problem.subject, problem.file?)
      | _ => (none, none)
    return { banner := "IMPORT ERROR.", label
             detail := "Extension `" ++ orNothing subject ++ "` failed to load from "
               ++ Colour.paint Colour.white (orNothing file)
             context := trail ("stackterm.errors." ++ label) cause.message }
  | .general | .signature | .codec =>
    return { banner := "SCRIPT ERROR.", label, detail := cause.message, context := "" }
  | .runtime | .unknownCommand | .undefinedVariable | .underflow | .mismatch | .arithmetic
  | .recursion =>
    let excerpt := match place with
      | some l =>
        if l.line > 0 then
          Excerpt.render ⟨name, some l.line, some l.column, some (cause.name?.getD "")⟩ source
        else ""
      | none => ""
    let line ← stackLine stack
    return { banner := "RUNTIME ERROR.", label, detail := cause.message
             context := excerpt ++ Colour.code "1;33" ++ "  Stack content is" ++ Colour.code "0;33"
               ++ "\n    " ++ line ++ Colour.reset ++ "\n" }

/-- The report of a failure, of the source with the name, that left the stack. -/
def reportOf (failure : Failure) (name source : Text) (stack : List Value) :
    Except Fault Report :=
  match failure with
  | .script cause place => scriptReport cause place name source stack
  | .fault fault =>
    .ok { banner := "PYTHON ERROR.", detail := "A command raised an unexpected exception!"
          label := fault.label, context := faultTrail fault }

end StackShell.CommandLine
