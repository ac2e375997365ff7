import StackShell.Text.Basic

/-!
# Tables

A table maps names to entries and remembers the order in which the names first came: a new entry for
a known name takes the place of the old one, an entry for a new name goes to the end.
-/

namespace StackShell

/-- Names with their entries, in the order in which the names first came. -/
structure Table (α : Type) where
  entries : List (Text × α)

namespace Table

variable {α : Type}

/-- The table without entries. -/
def empty : Table α := ⟨[]⟩

/-- The entry of a name. -/
def get? (table : Table α) (name : Text) : Option α :=
  table.entries.lookup name

/-- Whether a name has an entry. -/
def contains (table : Table α) (name : Text) : Bool :=
  (table.get? name).isSome

/-- Puts an entry into a row: in the place of the first one with the name, or at the end. -/
def put (name : Text) (entry : α) : List (Text × α) → List (Text × α)
  | [] => [(name, entry)]
  | (key, old) :: rest =>
    if name == key then (name, entry) :: rest else (key, old) :: put name entry rest

/-- The table with an entry for a name. -/
def insert (table : Table α) (name : Text) (entry : α) : Table α :=
  ⟨put name entry table.entries⟩

/-- The names in order. -/
def keys (table : Table α) : List Text :=
  table.entries.map (·.1)

/-- The table of a row of entries, put in from left to right. -/
def ofList (entries : List (Text × α)) : Table α :=
  entries.foldl (fun table e => table.insert e.1 e.2) empty

end Table

end StackShell
