import StackShell.Command.TextExtension
import StackShell.Document.Reader
import StackShell.Host.Session

/-!
# Hosts

A host makes sessions. Every session gets a vocabulary of its own, built from the built-in commands,
the extensions, the routines and the commands that the host has registered, in this order.
Registration is checked at once: what is refused leaves no trace.
-/

namespace StackShell

/-- Where extensions are looked for: the places in order, each with its extensions by name. -/
abbrev Shelf := List (Table Extension)

/-- The extension under a name. The text extension is always the packaged one. -/
def Shelf.find? (shelf : Shelf) (name : Text) : Option Extension :=
  if name == "text" then some TextExtension.extension
  else shelf.findSome? fun place => place.get? name

/-- What a maker of sessions has registered. -/
structure Host where
  limit : Option Int
  shelf : Shelf
  routines : Table Routine
  commands : Table Command
  extensions : List Text

namespace Host

/-- A host that has registered nothing. -/
def new (limit : Option Int) (shelf : Shelf) : Host :=
  { limit, shelf, routines := .empty, commands := .empty, extensions := [] }

/-- Registers a routine. -/
def registerRoutine (h : Host) (name : Text) (r : Routine) : Except Failure Host :=
  match r.signature (if name.isEmpty then r.name else name) with
  | .ok _ => .ok { h with routines := h.routines.insert name r }
  | .error problem => .error (.of (.signature problem))

/-- Registers a command. -/
def registerCommand (h : Host) (name : Text) (command : Command) : Host :=
  { h with commands := h.commands.insert name command }

/-- Registers an extension. -/
def loadExtension (h : Host) (name : Text) : Except Failure Host :=
  match Vocabulary.empty.load name (h.shelf.find? name) with
  | (_, some failure) => .error failure
  | (_, none) =>
    .ok (if h.extensions.contains name then h else { h with extensions := h.extensions ++ [name] })

/-- Loads extensions in order. -/
def loadAll (shelf : Shelf) (v : Vocabulary) : List Text → Except Failure Vocabulary
  | [] => .ok v
  | name :: rest =>
    match v.load name (shelf.find? name) with
    | (_, some failure) => .error failure
    | (v, none) => loadAll shelf v rest

/-- A vocabulary with all that is registered. -/
def vocabulary (h : Host) : Except Failure Vocabulary := do
  let v ← loadAll h.shelf .builtins h.extensions
  let v ← (Builtin.register v h.routines.entries).mapError fun p => Failure.of (.signature p)
  return h.commands.entries.foldl (fun v (name, command) => v.addCommand name command) v

/-- A session on a fresh state. -/
def newSession (h : Host) (device : Device) : Except Failure Session := do
  return .on (← h.vocabulary) h.limit (.initial device)

/-- A session on a persisted state. -/
def restore (h : Host) (d : Document) (device : Device) : Except Failure Session := do
  let v ← h.vocabulary
  let state ← Snapshot.restore d device
  return .on v h.limit state

/-- A session on a state that was persisted as text. -/
def load (h : Host) (text : Text) (device : Device) : Except Failure Session := do
  h.restore (← Document.read text) device

/-- The signature of a command. -/
def signature? (h : Host) (name : Text) : Except Failure (Option Signature) := do
  return (← h.vocabulary).signature? name

/-- The names of all commands, sorted. -/
def commandNames (h : Host) : Except Failure (List Text) := do
  return (← h.vocabulary).names.mergeSort fun a b => !(b < a)

end Host

/-- Runs a source text on a fresh session of a host, dropping the output: the values it leaves, from
the bottom to the top. -/
def Host.evaluate [Platform] (h : Host) (source : Text) (file : Option Text) :
    Except Failure (List Value) := do
  let s ← h.newSession .discard
  match s.submit source file with
  | (s, none) => return s.state.values
  | (_, some failure) => throw failure

end StackShell
