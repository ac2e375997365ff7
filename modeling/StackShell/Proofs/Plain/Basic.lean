import StackShell.State

/-!
# Plain values

A value is plain if a script can make it by itself: a number, a truth value, a string, or a function
whose body holds plain literals only. A state is plain if its stack and its variables hold plain
values and every variable is listed once. Plain values are those that can be persisted.

Often more is known of the functions that scripts make: that each word in them, at any depth, has
some property. `PlainWith good` says that a value is plain and that all the statements in it that
stand for one word are `good`. Scripts move such values around but never change them, so this is
kept whatever the property is; plain values are those with no property asked for
(`State.plain_iff`).
-/

namespace StackShell

mutual

/-- Whether a script can make the value. -/
def Value.Plain : Value → Prop
  | .number _ | .boolean _ | .string _ => True
  | .function body => Program.Plain body
  | .tuple _ | .absent | .stack _ | .device _ => False
termination_by structural x => x

/-- Whether all literals in a statement are plain. -/
def Statement.Plain : Statement → Prop
  | .literal v _ => Value.Plain v
  | .load .. | .store .. | .invoke .. | .call .. => True
  | .conditional branches otherwise => Branch.AllPlain branches ∧ Program.OptionPlain otherwise
  | .whileLoop condition body => Program.Plain condition ∧ Program.Plain body
  | .define _ body => Program.Plain body
  | .stray => False
termination_by structural x => x

/-- Whether all literals in a program are plain. -/
def Program.Plain : List Statement → Prop
  | [] => True
  | s :: rest => Statement.Plain s ∧ Program.Plain rest
termination_by structural x => x

/-- Whether all literals in a program that may be missing are plain. -/
def Program.OptionPlain : Option (List Statement) → Prop
  | none => True
  | some body => Program.Plain body
termination_by structural x => x

/-- Whether all literals in a branch are plain. -/
def Branch.Plain : Branch → Prop
  | .mk condition body => Program.Plain condition ∧ Program.Plain body
termination_by structural x => x

/-- Whether all literals in the branches are plain. -/
def Branch.AllPlain : List Branch → Prop
  | [] => True
  | b :: rest => Branch.Plain b ∧ Branch.AllPlain rest
termination_by structural x => x

end

/-- Whether all values of a row are plain. -/
def Value.AllPlain (values : List Value) : Prop :=
  ∀ v ∈ values, v.Plain

/-- Whether the stack and the variables hold plain values, every variable listed once. -/
structure State.Plain (s : State) : Prop where
  stack : Value.AllPlain s.stack
  bindings : ∀ name v, (name, v) ∈ s.bindings.entries → v.Plain
  distinct : s.bindings.keys.Nodup

theorem Value.AllPlain.reverse {values : List Value} (hvalues : Value.AllPlain values) :
    Value.AllPlain values.reverse :=
  fun v hv => hvalues v (List.mem_reverse.1 hv)

/-! ## Plain values with good statements -/

section

variable (good : Statement → Prop)

mutual

/-- Whether a script can make the value, and all words in it are good. -/
def Value.PlainWith : Value → Prop
  | .number _ | .boolean _ | .string _ => True
  | .function body => Program.PlainWith body
  | .tuple _ | .absent | .stack _ | .device _ => False
termination_by structural x => x

/-- Whether all literals in a statement are plain, and all words in it are good. -/
def Statement.PlainWith : Statement → Prop
  | .literal v place => Value.PlainWith v ∧ good (.literal v place)
  | .load name place => good (.load name place)
  | .store name place => good (.store name place)
  | .invoke name place => good (.invoke name place)
  | .call name place => good (.call name place)
  | .conditional branches otherwise =>
    Branch.AllPlainWith branches ∧ Program.OptionPlainWith otherwise
  | .whileLoop condition body => Program.PlainWith condition ∧ Program.PlainWith body
  | .define _ body => Program.PlainWith body
  | .stray => False
termination_by structural x => x

/-- Whether all literals in a program are plain, and all words in it are good. -/
def Program.PlainWith : List Statement → Prop
  | [] => True
  | s :: rest => Statement.PlainWith s ∧ Program.PlainWith rest
termination_by structural x => x

/-- The same for a program that may be missing. -/
def Program.OptionPlainWith : Option (List Statement) → Prop
  | none => True
  | some body => Program.PlainWith body
termination_by structural x => x

/-- The same for a branch. -/
def Branch.PlainWith : Branch → Prop
  | .mk condition body => Program.PlainWith condition ∧ Program.PlainWith body
termination_by structural x => x

/-- The same for branches. -/
def Branch.AllPlainWith : List Branch → Prop
  | [] => True
  | b :: rest => Branch.PlainWith b ∧ Branch.AllPlainWith rest
termination_by structural x => x

end

/-- Whether all values of a row are plain with good words. -/
def Value.AllPlainWith (values : List Value) : Prop :=
  ∀ v ∈ values, v.PlainWith good

/-- Whether the stack and the variables hold plain values with good words, every variable listed
once. -/
structure State.PlainWith (s : State) : Prop where
  stack : Value.AllPlainWith good s.stack
  bindings : ∀ name v, (name, v) ∈ s.bindings.entries → v.PlainWith good
  distinct : s.bindings.keys.Nodup

end

section

variable {good : Statement → Prop}

theorem Value.AllPlainWith.nil : Value.AllPlainWith good [] := by
  intro v hv
  cases hv

theorem Value.AllPlainWith.cons {v : Value} {values : List Value} (hv : v.PlainWith good)
    (hvalues : Value.AllPlainWith good values) : Value.AllPlainWith good (v :: values) := by
  intro w hw
  rcases List.mem_cons.1 hw with rfl | hw
  · exact hv
  · exact hvalues w hw

theorem Value.AllPlainWith.append {values others : List Value}
    (hvalues : Value.AllPlainWith good values) (hothers : Value.AllPlainWith good others) :
    Value.AllPlainWith good (values ++ others) := by
  intro w hw
  rcases List.mem_append.1 hw with hw | hw
  · exact hvalues w hw
  · exact hothers w hw

theorem Value.AllPlainWith.reverse {values : List Value}
    (hvalues : Value.AllPlainWith good values) : Value.AllPlainWith good values.reverse :=
  fun v hv => hvalues v (List.mem_reverse.1 hv)

theorem Value.AllPlainWith.head {v : Value} {values : List Value}
    (h : Value.AllPlainWith good (v :: values)) : v.PlainWith good :=
  h v List.mem_cons_self

theorem Value.AllPlainWith.tail {v : Value} {values : List Value}
    (h : Value.AllPlainWith good (v :: values)) : Value.AllPlainWith good values :=
  fun w hw => h w (List.mem_cons_of_mem v hw)

end

/-! ## Plain values are those with any statements -/

mutual

theorem Value.plain_iff (v : Value) : v.Plain ↔ v.PlainWith fun _ => True := by
  cases v with
  | function body => exact Program.plain_iff body
  | _ => exact Iff.rfl

theorem Statement.plain_iff (s : Statement) : s.Plain ↔ s.PlainWith fun _ => True := by
  cases s with
  | literal v place => exact (Value.plain_iff v).trans (iff_of_eq (and_true _)).symm
  | conditional branches otherwise =>
    exact and_congr (Branch.allPlain_iff branches) (Program.optionPlain_iff otherwise)
  | whileLoop condition body =>
    exact and_congr (Program.plain_iff condition) (Program.plain_iff body)
  | define name body => exact Program.plain_iff body
  | _ => exact Iff.rfl

theorem Program.plain_iff (program : List Statement) :
    Program.Plain program ↔ Program.PlainWith (fun _ => True) program := by
  cases program with
  | nil => exact Iff.rfl
  | cons s rest => exact and_congr (Statement.plain_iff s) (Program.plain_iff rest)

theorem Program.optionPlain_iff (otherwise : Option (List Statement)) :
    Program.OptionPlain otherwise ↔ Program.OptionPlainWith (fun _ => True) otherwise := by
  cases otherwise with
  | none => exact Iff.rfl
  | some body => exact Program.plain_iff body

theorem Branch.plain_iff (b : Branch) : b.Plain ↔ b.PlainWith fun _ => True := by
  cases b with
  | mk condition body => exact and_congr (Program.plain_iff condition) (Program.plain_iff body)

theorem Branch.allPlain_iff (branches : List Branch) :
    Branch.AllPlain branches ↔ Branch.AllPlainWith (fun _ => True) branches := by
  cases branches with
  | nil => exact Iff.rfl
  | cons b rest => exact and_congr (Branch.plain_iff b) (Branch.allPlain_iff rest)

end

/-! ## Less may be asked for -/

section

variable {good good' : Statement → Prop}

mutual

theorem Value.PlainWith.mono (hgood : ∀ s, good s → good' s) (v : Value)
    (h : v.PlainWith good) : v.PlainWith good' := by
  match v, h with
  | .function body, h => exact Program.PlainWith.mono hgood body h
  | .number _, _ | .boolean _, _ | .string _, _ => trivial

theorem Statement.PlainWith.mono (hgood : ∀ s, good s → good' s) (s : Statement)
    (h : s.PlainWith good) : s.PlainWith good' := by
  match s, h with
  | .literal v place, h => exact ⟨Value.PlainWith.mono hgood v h.1, hgood _ h.2⟩
  | .load _ _, h | .store _ _, h | .invoke _ _, h | .call _ _, h => exact hgood _ h
  | .conditional branches otherwise, h =>
    exact ⟨Branch.AllPlainWith.mono hgood branches h.1,
      Program.OptionPlainWith.mono hgood otherwise h.2⟩
  | .whileLoop condition body, h =>
    exact ⟨Program.PlainWith.mono hgood condition h.1, Program.PlainWith.mono hgood body h.2⟩
  | .define name body, h => exact Program.PlainWith.mono hgood body h

theorem Program.PlainWith.mono (hgood : ∀ s, good s → good' s)
    (program : List Statement) (h : Program.PlainWith good program) :
    Program.PlainWith good' program := by
  match program, h with
  | [], _ => trivial
  | s :: rest, h =>
    exact ⟨Statement.PlainWith.mono hgood s h.1, Program.PlainWith.mono hgood rest h.2⟩

theorem Program.OptionPlainWith.mono (hgood : ∀ s, good s → good' s)
    (otherwise : Option (List Statement)) (h : Program.OptionPlainWith good otherwise) :
    Program.OptionPlainWith good' otherwise := by
  match otherwise, h with
  | none, _ => trivial
  | some body, h => exact Program.PlainWith.mono hgood body h

theorem Branch.PlainWith.mono (hgood : ∀ s, good s → good' s) (b : Branch)
    (h : b.PlainWith good) : b.PlainWith good' := by
  match b, h with
  | .mk condition body, h =>
    exact ⟨Program.PlainWith.mono hgood condition h.1, Program.PlainWith.mono hgood body h.2⟩

theorem Branch.AllPlainWith.mono (hgood : ∀ s, good s → good' s)
    (branches : List Branch) (h : Branch.AllPlainWith good branches) :
    Branch.AllPlainWith good' branches := by
  match branches, h with
  | [], _ => trivial
  | b :: rest, h =>
    exact ⟨Branch.PlainWith.mono hgood b h.1, Branch.AllPlainWith.mono hgood rest h.2⟩

end

end

/-- A value that is plain with good words is plain. -/
theorem Value.PlainWith.plain {good : Statement → Prop} {v : Value} (h : v.PlainWith good) :
    v.Plain :=
  v.plain_iff.2 (Value.PlainWith.mono (fun _ _ => trivial) v h)

/-- Before anything ran, nothing is on the stack and in the variables. -/
theorem State.initial_plainWith (good : Statement → Prop) (device : Device) :
    (State.initial device).PlainWith good := by
  refine ⟨.nil, ?_, .nil⟩
  intro name v hmem
  cases hmem

/-- Plain states are those in which no property is asked for. -/
theorem State.plain_iff (s : State) : s.Plain ↔ s.PlainWith fun _ => True := by
  constructor
  · rintro ⟨hstack, hbindings, hdistinct⟩
    exact ⟨fun v hv => (Value.plain_iff v).1 (hstack v hv),
      fun name v hv => (Value.plain_iff v).1 (hbindings name v hv), hdistinct⟩
  · rintro ⟨hstack, hbindings, hdistinct⟩
    exact ⟨fun v hv => (Value.plain_iff v).2 (hstack v hv),
      fun name v hv => (Value.plain_iff v).2 (hbindings name v hv), hdistinct⟩

theorem State.PlainWith.mono {good good' : Statement → Prop} (hgood : ∀ s, good s → good' s)
    {s : State} (h : s.PlainWith good) : s.PlainWith good' :=
  ⟨fun v hv => Value.PlainWith.mono hgood v (h.stack v hv),
    fun name v hv => Value.PlainWith.mono hgood v (h.bindings name v hv), h.distinct⟩

/-- A state that is plain with good words is plain. -/
theorem State.PlainWith.plain {good : Statement → Prop} {s : State} (h : s.PlainWith good) :
    s.Plain :=
  s.plain_iff.2 (h.mono fun _ _ => trivial)

end StackShell
