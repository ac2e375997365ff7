import StackShell.Command.Routine
import StackShell.Command.OperatorName

/-!
# Vocabularies

The commands that scripts may use, by name. An alias is a second name; it is looked up first, so an
alias hides a command of the same name. A vocabulary also remembers which extensions it has loaded.
-/

namespace StackShell

/-- What stands under a name: a command, and its signature if it was made from a routine. -/
structure Entry where
  command : Command
  signature : Option Signature

/-- The commands that scripts may use. -/
structure Vocabulary where
  entries : Table Entry
  aliases : Table Text
  extensions : List Text

/-- The functions of an extension, or why there are none. -/
inductive Extension where
  | operators (routines : List Routine)
  /-- The extension does not list its operators. -/
  | unlisted
  /-- The extension fails with the message when it is loaded. -/
  | broken (message : Text)

namespace Vocabulary

/-- The vocabulary without commands. -/
def empty : Vocabulary := ⟨.empty, .empty, []⟩

/-- The name of the command that a name stands for. -/
def resolve (v : Vocabulary) (name : Text) : Text :=
  (v.aliases.get? name).getD name

/-- What stands under a name. -/
def entry? (v : Vocabulary) (name : Text) : Option Entry :=
  v.entries.get? (v.resolve name)

/-- The command under a name. -/
def command? (v : Vocabulary) (name : Text) : Option Command :=
  (v.entry? name).map (·.command)

/-- Whether a command stands under a name. -/
def contains (v : Vocabulary) (name : Text) : Bool :=
  (v.entry? name).isSome

/-- The signature of the command under a name. -/
def signature? (v : Vocabulary) (name : Text) : Option Signature :=
  (v.entry? name).bind (·.signature)

/-- All names: the commands in the order of their registration, then the aliases. -/
def names (v : Vocabulary) : List Text :=
  v.entries.keys ++ v.aliases.keys

/-- Registers a command. -/
def addCommand (v : Vocabulary) (name : Text) (command : Command) : Vocabulary :=
  { v with entries := v.entries.insert name ⟨command, none⟩ }

/-- Registers a routine as a command. Its own name is used in diagnostics where `name` is empty. -/
def addRoutine (v : Vocabulary) (name : Text) (r : Routine) :
    Except SignatureProblem Vocabulary := do
  let sig ← r.signature (if name.isEmpty then r.name else name)
  return { v with entries := v.entries.insert name ⟨r.command sig name, some sig⟩ }

/-- Registers a second name. -/
def addAlias (v : Vocabulary) (second name : Text) : Vocabulary :=
  { v with aliases := v.aliases.insert second name }

/-- The first alias that stands for no command. -/
def dangling? (v : Vocabulary) : Option (Text × Text) :=
  v.aliases.entries.find? fun (_, name) => !v.entries.contains name

/-- Registers the operators of an extension in order, until one is refused. -/
def addOperators (v : Vocabulary) (extension : Text) : List Routine → Vocabulary × Option Failure
  | [] => (v, none)
  | r :: rest =>
    match OperatorName.toCommand r.name with
    | .error problem => (v, some (.of (.extension problem)))
    | .ok name =>
      match v.addRoutine (extension ++ "." ++ name) r with
      | .error problem => (v, some (.of (.signature problem)))
      | .ok v => v.addOperators extension rest

/-- Loads an extension, given what is found under its name. Commands that were registered before a
failure stay. -/
def load (v : Vocabulary) (name : Text) (found : Option Extension) :
    Vocabulary × Option Failure :=
  if v.extensions.contains name then (v, none)
  else
    match found with
    | none => (v, some (.of (.extension (.notFound name))))
    | some (.broken message) => (v, some (.of (.extension (.broken name message))))
    | some .unlisted => (v, some (.of (.extension (.unlisted name))))
    | some (.operators routines) =>
      match v.addOperators name routines with
      | (v, none) => ({ v with extensions := v.extensions ++ [name] }, none)
      | (v, some failure) => (v, some failure)

end Vocabulary

end StackShell
