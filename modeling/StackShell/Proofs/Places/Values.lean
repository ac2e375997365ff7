import StackShell.Command.Shape
import StackShell.Program.Equality
import StackShell.Program.Printer
import StackShell.Proofs.Places.Basic

/-!
# What does not depend on places

The type of a value, its text, and whether a shape accepts it are the same wherever its places are
moved to; so are the texts of programs. Whether two values are equal is the same as long as
different places stay different: functions are equal only at the same places
(`Value.equal_relocate`).
-/

namespace StackShell

variable (r : Location → Location)

/-! ## Types -/

@[simp] theorem Value.typeName_relocate (v : Value) : (v.relocate r).typeName = v.typeName := by
  cases v <;> rfl

namespace Shape

theorem holds_relocate (a : Shape) (v : Value) : a.holds (v.relocate r) = a.holds v := by
  cases v with
  | number n => cases n <;> rfl
  | boolean | string | function | tuple | absent | stack | device => cases a <;> rfl

theorem holdsAny_relocate (v : Value) (row : List Shape) :
    holdsAny (v.relocate r) row = holdsAny v row := by
  induction row with
  | nil => rfl
  | cons a rest ih => rw [holdsAny, holdsAny, holds_relocate, ih]

theorem holdsMember_relocate (v : Value) (row : List Shape) :
    holdsMember (v.relocate r) row = holdsMember v row := by
  induction row with
  | nil => rfl
  | cons a rest ih => rw [holdsMember, holdsMember, holds_relocate, ih]

theorem accepts_relocate (a : Shape) (v : Value) : a.accepts (v.relocate r) = a.accepts v := by
  have hany := holdsAny_relocate r v
  have hmember := holdsMember_relocate r v
  cases v with
  | boolean b => rfl
  | number | string | function | tuple | absent | stack | device =>
    cases a <;> first
      | rfl
      | exact hany _
      | exact hmember _

end Shape

/-! ## Texts -/

mutual

theorem Value.inspect_relocate (v : Value) : (v.relocate r).inspect = v.inspect := by
  cases v with
  | function body => rw [Value.relocate, Value.inspect, Value.inspect, Program.length_relocate]
  | tuple items => rw [Value.relocate, Value.inspect, Value.inspect, Value.inspectAll_relocate]
  | stack items => rw [Value.relocate, Value.inspect, Value.inspect, Value.inspectAll_relocate]
  | number | boolean | string | absent | device => rfl
termination_by structural v

theorem Value.inspectAll_relocate (values : List Value) :
    Value.inspectAll (Value.relocateAll r values) = Value.inspectAll values := by
  cases values with
  | nil => rfl
  | cons v rest =>
    rw [Value.relocateAll, Value.inspectAll, Value.inspectAll, Value.inspect_relocate,
      Value.inspectAll_relocate]
termination_by structural values

end

mutual

/-- The source text of a value has no places in it. -/
theorem Value.source_relocate (v : Value) : (v.relocate r).source = v.source := by
  cases v with
  | function body =>
    cases body with
    | nil => rfl
    | cons s body =>
      rw [Value.relocate, Program.relocate, Value.source, Value.source, Statement.source_relocate,
        Program.parts_relocate]
  | tuple items => exact Value.inspect_relocate r (.tuple items)
  | stack items => exact Value.inspect_relocate r (.stack items)
  | number | boolean | string | absent | device => rfl
termination_by structural v

theorem Statement.source_relocate (s : Statement) : (s.relocate r).source = s.source := by
  cases s with
  | literal v place => exact Value.source_relocate v
  | conditional branches otherwise =>
    rw [Statement.relocate, Statement.source, Statement.source, Branch.parts_relocate,
      Program.otherwiseParts_relocate]
  | whileLoop condition body =>
    rw [Statement.relocate, Statement.source, Statement.source, Program.parts_relocate,
      Program.parts_relocate]
  | define name body =>
    show (Program.parts (Program.relocate r body) >>= _) = (Program.parts body >>= _)
    rw [Program.parts_relocate]
  | call name place => cases name <;> rfl
  | load | store | invoke | stray => rfl
termination_by structural s

theorem Program.parts_relocate (program : List Statement) :
    Program.parts (Program.relocate r program) = Program.parts program := by
  cases program with
  | nil => rfl
  | cons s rest =>
    rw [Program.relocate, Program.parts, Program.parts, Statement.source_relocate,
      Program.parts_relocate]
termination_by structural program

theorem Program.otherwiseParts_relocate (program : Option (List Statement)) :
    Program.otherwiseParts (Program.relocateOption r program) = Program.otherwiseParts program := by
  cases program with
  | none => rfl
  | some body =>
    rw [Program.relocateOption, Program.otherwiseParts, Program.otherwiseParts,
      Program.parts_relocate]
termination_by structural program

theorem Branch.words_relocate (keyword : Text) (b : Branch) :
    Branch.words keyword (b.relocate r) = Branch.words keyword b := by
  cases b with
  | mk condition body =>
    rw [Branch.relocate, Branch.words, Branch.words, Program.parts_relocate, Program.parts_relocate]
termination_by structural b

theorem Branch.parts_relocate (keyword : Text) (branches : List Branch) :
    Branch.parts keyword (Branch.relocateAll r branches) = Branch.parts keyword branches := by
  cases branches with
  | nil => rfl
  | cons b rest =>
    rw [Branch.relocateAll, Branch.parts, Branch.parts, Branch.words_relocate,
      Branch.parts_relocate]
termination_by structural branches

end

theorem Value.printed_relocate (v : Value) : (v.relocate r).printed = v.printed := by
  cases v with
  | string text => rfl
  | number | boolean | function | tuple | absent | stack | device =>
    exact Value.source_relocate r _

/-! ## Equality -/

variable {r}

/-- Two places are the same before and after a move that keeps different places different. -/
theorem Location.beq_relocate (hr : Function.Injective r) (p q : Location) :
    (r p == r q) = (p == q) :=
  Bool.eq_iff_iff.2 (by rw [beq_iff_eq, beq_iff_eq, hr.eq_iff])

mutual

theorem Value.alike_relocate (hr : Function.Injective r) (a b : Value) :
    (a.relocate r).alike (b.relocate r) = a.alike b := by
  cases a with
  | function body =>
    cases b with
    | function body' => exact Program.alike_relocate hr body body'
    | _ => rfl
  | tuple items =>
    cases b with
    | tuple items' => exact Value.allAlike_relocate hr items items'
    | _ => rfl
  | stack items =>
    cases b with
    | stack items' => exact Value.allAlike_relocate hr items items'
    | _ => rfl
  | number | boolean | string | absent | device => cases b <;> rfl
termination_by structural a

theorem Value.allAlike_relocate (hr : Function.Injective r) (as bs : List Value) :
    Value.allAlike (Value.relocateAll r as) (Value.relocateAll r bs) = Value.allAlike as bs := by
  cases as with
  | nil => cases bs <;> rfl
  | cons a as =>
    cases bs with
    | nil => rfl
    | cons b bs =>
      exact congrArg₂ and (Value.alike_relocate hr a b) (Value.allAlike_relocate hr as bs)
termination_by structural as

theorem Statement.alike_relocate (hr : Function.Injective r) (s t : Statement) :
    (s.relocate r).alike (t.relocate r) = s.alike t := by
  cases s with
  | literal v place =>
    cases t with
    | literal v' place' =>
      exact congrArg₂ and (Value.alike_relocate hr v v') (Location.beq_relocate hr place place')
    | _ => rfl
  | load name place =>
    cases t with
    | load name' place' =>
      exact congrArg (name == name' && ·) (Location.beq_relocate hr place place')
    | _ => rfl
  | store name place =>
    cases t with
    | store name' place' =>
      exact congrArg (name == name' && ·) (Location.beq_relocate hr place place')
    | _ => rfl
  | invoke name place =>
    cases t with
    | invoke name' place' =>
      exact congrArg (name == name' && ·) (Location.beq_relocate hr place place')
    | _ => rfl
  | call name place =>
    cases t with
    | call name' place' =>
      exact congrArg (name == name' && ·) (Location.beq_relocate hr place place')
    | _ => rfl
  | conditional branches otherwise =>
    cases t with
    | conditional branches' otherwise' =>
      exact congrArg₂ and (Branch.allAlike_relocate hr branches branches')
        (Program.optionAlike_relocate hr otherwise otherwise')
    | _ => rfl
  | whileLoop condition body =>
    cases t with
    | whileLoop condition' body' =>
      exact congrArg₂ and (Program.alike_relocate hr condition condition')
        (Program.alike_relocate hr body body')
    | _ => rfl
  | define name body =>
    cases t with
    | define name' body' =>
      exact congrArg (name == name' && ·) (Program.alike_relocate hr body body')
    | _ => rfl
  | stray => cases t <;> rfl
termination_by structural s

theorem Program.alike_relocate (hr : Function.Injective r) (as bs : List Statement) :
    Program.alike (Program.relocate r as) (Program.relocate r bs) = Program.alike as bs := by
  cases as with
  | nil => cases bs <;> rfl
  | cons a as =>
    cases bs with
    | nil => rfl
    | cons b bs =>
      exact congrArg₂ and (Statement.alike_relocate hr a b) (Program.alike_relocate hr as bs)
termination_by structural as

theorem Program.optionAlike_relocate (hr : Function.Injective r) (a b : Option (List Statement)) :
    Program.optionAlike (Program.relocateOption r a) (Program.relocateOption r b) =
      Program.optionAlike a b := by
  cases a with
  | none => cases b <;> rfl
  | some a =>
    cases b with
    | none => rfl
    | some b => exact Program.alike_relocate hr a b
termination_by structural a

theorem Branch.alike_relocate (hr : Function.Injective r) (a b : Branch) :
    (a.relocate r).alike (b.relocate r) = a.alike b := by
  cases a with
  | mk condition body =>
    cases b with
    | mk condition' body' =>
      exact congrArg₂ and (Program.alike_relocate hr condition condition')
        (Program.alike_relocate hr body body')
termination_by structural a

theorem Branch.allAlike_relocate (hr : Function.Injective r) (as bs : List Branch) :
    Branch.allAlike (Branch.relocateAll r as) (Branch.relocateAll r bs) =
      Branch.allAlike as bs := by
  cases as with
  | nil => cases bs <;> rfl
  | cons a as =>
    cases bs with
    | nil => rfl
    | cons b bs =>
      exact congrArg₂ and (Branch.alike_relocate hr a b) (Branch.allAlike_relocate hr as bs)
termination_by structural as

end

/-- Values are equal to a script exactly if they are after a move that keeps different places
different. -/
theorem Value.equal_relocate (hr : Function.Injective r) (b a : Value) :
    (b.relocate r).equal (a.relocate r) = b.equal a := by
  have halike := Value.alike_relocate hr b a
  unfold Value.equal
  rw [Value.typeName_relocate, Value.typeName_relocate]
  cases b with
  | number y =>
    cases a with
    | number x => rfl
    | _ => rw [← halike]; rfl
  | _ => rw [← halike]; rfl

end StackShell
