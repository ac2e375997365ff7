import Mathlib.Logic.Basic
import StackShell.Program.Basic

/-!
# Programs and their places

Two programs that differ only in where their words stand in the source text are the same program
without places. A function value holds a program, so values have places too. A program may also be
moved: each place in it becomes another one. Without places, everything has moved to no place at all
(`Program.unplaced_eq_relocate`).
-/

namespace StackShell

mutual

/-- A value without the places of the statements in it. -/
def Value.unplaced : Value → Value
  | .number n => .number n
  | .boolean b => .boolean b
  | .string text => .string text
  | .function body => .function (Program.unplaced body)
  | .tuple items => .tuple (Value.allUnplaced items)
  | .absent => .absent
  | .stack items => .stack (Value.allUnplaced items)
  | .device d => .device d
termination_by structural x => x

/-- Each value without its places. -/
def Value.allUnplaced : List Value → List Value
  | [] => []
  | v :: rest => Value.unplaced v :: Value.allUnplaced rest
termination_by structural x => x

/-- A statement without its places. -/
def Statement.unplaced : Statement → Statement
  | .literal value _ => .literal (Value.unplaced value) .nowhere
  | .load name _ => .load name .nowhere
  | .store name _ => .store name .nowhere
  | .invoke name _ => .invoke name .nowhere
  | .call name _ => .call name .nowhere
  | .conditional branches otherwise =>
    .conditional (Branch.allUnplaced branches) (Program.optionUnplaced otherwise)
  | .whileLoop condition body => .whileLoop (Program.unplaced condition) (Program.unplaced body)
  | .define name body => .define name (Program.unplaced body)
  | .stray => .stray
termination_by structural x => x

/-- A program without its places. -/
def Program.unplaced : List Statement → List Statement
  | [] => []
  | s :: rest => Statement.unplaced s :: Program.unplaced rest
termination_by structural x => x

/-- A program that may be missing, without its places. -/
def Program.optionUnplaced : Option (List Statement) → Option (List Statement)
  | none => none
  | some body => some (Program.unplaced body)
termination_by structural x => x

/-- A branch without its places. -/
def Branch.unplaced : Branch → Branch
  | .mk condition body => .mk (Program.unplaced condition) (Program.unplaced body)
termination_by structural x => x

/-- Each branch without its places. -/
def Branch.allUnplaced : List Branch → List Branch
  | [] => []
  | b :: rest => Branch.unplaced b :: Branch.allUnplaced rest
termination_by structural x => x

end

/-- Whether a statement has a place is not changed. -/
theorem Statement.place?_unplaced_isSome (s : Statement) :
    s.unplaced.place?.isSome = s.place?.isSome := by
  cases s <;> rfl

/-! ## Moving places -/

mutual

/-- A value with the places of the statements in it moved. -/
def Value.relocate (r : Location → Location) : Value → Value
  | .number n => .number n
  | .boolean b => .boolean b
  | .string text => .string text
  | .function body => .function (Program.relocate r body)
  | .tuple items => .tuple (Value.relocateAll r items)
  | .absent => .absent
  | .stack items => .stack (Value.relocateAll r items)
  | .device d => .device d
termination_by structural x => x

/-- Each value with its places moved. -/
def Value.relocateAll (r : Location → Location) : List Value → List Value
  | [] => []
  | v :: rest => Value.relocate r v :: Value.relocateAll r rest
termination_by structural x => x

/-- A statement with its places moved. -/
def Statement.relocate (r : Location → Location) : Statement → Statement
  | .literal value place => .literal (Value.relocate r value) (r place)
  | .load name place => .load name (r place)
  | .store name place => .store name (r place)
  | .invoke name place => .invoke name (r place)
  | .call name place => .call name (r place)
  | .conditional branches otherwise =>
    .conditional (Branch.relocateAll r branches) (Program.relocateOption r otherwise)
  | .whileLoop condition body =>
    .whileLoop (Program.relocate r condition) (Program.relocate r body)
  | .define name body => .define name (Program.relocate r body)
  | .stray => .stray
termination_by structural x => x

/-- A program with its places moved. -/
def Program.relocate (r : Location → Location) : List Statement → List Statement
  | [] => []
  | s :: rest => Statement.relocate r s :: Program.relocate r rest
termination_by structural x => x

/-- A program that may be missing, with its places moved. -/
def Program.relocateOption (r : Location → Location) :
    Option (List Statement) → Option (List Statement)
  | none => none
  | some body => some (Program.relocate r body)
termination_by structural x => x

/-- A branch with its places moved. -/
def Branch.relocate (r : Location → Location) : Branch → Branch
  | .mk condition body => .mk (Program.relocate r condition) (Program.relocate r body)
termination_by structural x => x

/-- Each branch with its places moved. -/
def Branch.relocateAll (r : Location → Location) : List Branch → List Branch
  | [] => []
  | b :: rest => Branch.relocate r b :: Branch.relocateAll r rest
termination_by structural x => x

end

section

variable (r : Location → Location)

theorem Value.relocateAll_eq_map (values : List Value) :
    Value.relocateAll r values = values.map (Value.relocate r) := by
  induction values with
  | nil => rfl
  | cons v rest ih => rw [Value.relocateAll, ih, List.map_cons]

theorem Program.relocate_eq_map (program : Program) :
    Program.relocate r program = program.map (Statement.relocate r) := by
  induction program with
  | nil => rfl
  | cons s rest ih => rw [Program.relocate, ih, List.map_cons]

theorem Program.length_relocate (program : Program) :
    (Program.relocate r program).length = program.length := by
  rw [Program.relocate_eq_map, List.length_map]

theorem Program.relocate_append (program other : Program) :
    Program.relocate r (program ++ other) =
      Program.relocate r program ++ Program.relocate r other := by
  rw [relocate_eq_map, relocate_eq_map, relocate_eq_map, List.map_append]

/-- A statement has its own place moved, if it has one. -/
theorem Statement.place?_relocate (s : Statement) : (s.relocate r).place? = s.place?.map r := by
  cases s <;> rfl

end

/-! ## No places as a move -/

mutual

theorem Value.unplaced_eq_relocate (v : Value) :
    v.unplaced = v.relocate fun _ => .nowhere := by
  cases v with
  | function body => exact congrArg Value.function (Program.unplaced_eq_relocate body)
  | tuple items => exact congrArg Value.tuple (Value.allUnplaced_eq_relocateAll items)
  | stack items => exact congrArg Value.stack (Value.allUnplaced_eq_relocateAll items)
  | number | boolean | string | absent | device => rfl
termination_by structural v

theorem Value.allUnplaced_eq_relocateAll (values : List Value) :
    Value.allUnplaced values = Value.relocateAll (fun _ => .nowhere) values := by
  cases values with
  | nil => rfl
  | cons v rest =>
    exact congrArg₂ List.cons (Value.unplaced_eq_relocate v)
      (Value.allUnplaced_eq_relocateAll rest)
termination_by structural values

theorem Statement.unplaced_eq_relocate (s : Statement) :
    s.unplaced = s.relocate fun _ => .nowhere := by
  cases s with
  | literal v place =>
    exact congrArg (Statement.literal · .nowhere) (Value.unplaced_eq_relocate v)
  | conditional branches otherwise =>
    exact congrArg₂ Statement.conditional (Branch.allUnplaced_eq_relocateAll branches)
      (Program.optionUnplaced_eq_relocateOption otherwise)
  | whileLoop condition body =>
    exact congrArg₂ Statement.whileLoop (Program.unplaced_eq_relocate condition)
      (Program.unplaced_eq_relocate body)
  | define name body => exact congrArg (Statement.define name) (Program.unplaced_eq_relocate body)
  | load | store | invoke | call | stray => rfl
termination_by structural s

theorem Program.unplaced_eq_relocate (program : List Statement) :
    Program.unplaced program = Program.relocate (fun _ => .nowhere) program := by
  cases program with
  | nil => rfl
  | cons s rest =>
    exact congrArg₂ List.cons (Statement.unplaced_eq_relocate s) (Program.unplaced_eq_relocate rest)
termination_by structural program

theorem Program.optionUnplaced_eq_relocateOption (program : Option (List Statement)) :
    Program.optionUnplaced program = Program.relocateOption (fun _ => .nowhere) program := by
  cases program with
  | none => rfl
  | some body => exact congrArg some (Program.unplaced_eq_relocate body)
termination_by structural program

theorem Branch.unplaced_eq_relocate (b : Branch) :
    b.unplaced = b.relocate fun _ => .nowhere := by
  cases b with
  | mk condition body =>
    exact congrArg₂ Branch.mk (Program.unplaced_eq_relocate condition)
      (Program.unplaced_eq_relocate body)
termination_by structural b

theorem Branch.allUnplaced_eq_relocateAll (branches : List Branch) :
    Branch.allUnplaced branches = Branch.relocateAll (fun _ => .nowhere) branches := by
  cases branches with
  | nil => rfl
  | cons b rest =>
    exact congrArg₂ List.cons (Branch.unplaced_eq_relocate b)
      (Branch.allUnplaced_eq_relocateAll rest)
termination_by structural branches

end

end StackShell
