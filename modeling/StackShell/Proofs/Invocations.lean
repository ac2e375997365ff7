import StackShell.Proofs.Routines
import StackShell.Proofs.Runs

/-!
# What a run may invoke

The commands that a value, a program or a state names, at whatever depth: in the bodies of
functions, in the functions among the literals of those bodies, in the parts of values that only the
host can make. A run moves programs around but writes no new ones. So whatever it comes to invoke
was named where it started, or in what a routine or the checkpoint gave it
(`Machine.Reaches.invocations`).
-/

namespace StackShell

mutual

/-- The names of the commands that a value invokes, at any depth. -/
def Value.invocations : Value → List Text
  | .number _ | .boolean _ | .string _ | .absent | .device _ => []
  | .function body => Program.invocations body
  | .tuple items | .stack items => Value.allInvocations items
termination_by structural x => x

/-- The names of the commands that the values of a row invoke. -/
def Value.allInvocations : List Value → List Text
  | [] => []
  | v :: rest => Value.invocations v ++ Value.allInvocations rest
termination_by structural x => x

/-- The names of the commands that a statement invokes, at any depth. -/
def Statement.invocations : Statement → List Text
  | .literal v _ => Value.invocations v
  | .invoke name _ => [name]
  | .load .. | .store .. | .call .. | .stray => []
  | .conditional branches otherwise =>
    Branch.allInvocations branches ++ Program.optionInvocations otherwise
  | .whileLoop condition body => Program.invocations condition ++ Program.invocations body
  | .define _ body => Program.invocations body
termination_by structural x => x

/-- The names of the commands that a program invokes. -/
def Program.invocations : List Statement → List Text
  | [] => []
  | s :: rest => Statement.invocations s ++ Program.invocations rest
termination_by structural x => x

/-- The names of the commands that a program invokes, if there is one. -/
def Program.optionInvocations : Option (List Statement) → List Text
  | none => []
  | some body => Program.invocations body
termination_by structural x => x

/-- The names of the commands that a branch invokes. -/
def Branch.invocations : Branch → List Text
  | .mk condition body => Program.invocations condition ++ Program.invocations body
termination_by structural x => x

/-- The names of the commands that branches invoke. -/
def Branch.allInvocations : List Branch → List Text
  | [] => []
  | b :: rest => Branch.invocations b ++ Branch.allInvocations rest
termination_by structural x => x

end

/-- The names of the commands that the values on the stack and in the variables invoke. -/
def State.invocations (s : State) : List Text :=
  s.stack.flatMap Value.invocations ++ s.bindings.entries.flatMap fun e => e.2.invocations

/-- The names of the commands that a frame still has to invoke. -/
def Frame.invocations : Frame → List Text
  | .call _ rest | .chosen rest => Program.invocations rest
  | .branch body others otherwise rest =>
    Program.invocations body ++ Branch.allInvocations others ++
      Program.optionInvocations otherwise ++ Program.invocations rest
  | .loopCondition condition body rest | .loopBody condition body rest =>
    Program.invocations condition ++ Program.invocations body ++ Program.invocations rest

/-- The names of the commands that a machine may come to invoke. -/
def Machine.invocations (m : Machine) : List Text :=
  Program.invocations m.code ++ m.frames.flatMap Frame.invocations ++ m.state.invocations

theorem Value.allInvocations_eq (values : List Value) :
    allInvocations values = values.flatMap invocations := by
  induction values with
  | nil => rfl
  | cons v values ih => rw [allInvocations, ih, List.flatMap_cons]

/-! ## States -/

namespace State

variable {s : State} {allowed : Text → Prop}

/-- Whether a state names only such commands. -/
def InvokesOnly (allowed : Text → Prop) (s : State) : Prop :=
  ∀ name ∈ s.invocations, allowed name

theorem invokesOnly_iff : s.InvokesOnly allowed ↔
    (∀ v ∈ s.stack, ∀ name ∈ v.invocations, allowed name) ∧
      ∀ e ∈ s.bindings.entries, ∀ name ∈ e.2.invocations, allowed name := by
  simp only [InvokesOnly, invocations, List.forall_mem_append, List.mem_flatMap]
  constructor
  · intro h
    exact ⟨fun v hv name hname => h.1 name ⟨v, hv, hname⟩,
      fun e he name hname => h.2 name ⟨e, he, hname⟩⟩
  · rintro ⟨hstack, hbindings⟩
    constructor
    · rintro name ⟨v, hv, hname⟩
      exact hstack v hv name hname
    · rintro name ⟨e, he, hname⟩
      exact hbindings e he name hname

namespace InvokesOnly

variable (h : s.InvokesOnly allowed)
include h

theorem push {v : Value} (hv : ∀ name ∈ v.invocations, allowed name) :
    (s.push v).InvokesOnly allowed := by
  obtain ⟨hstack, hbindings⟩ := invokesOnly_iff.1 h
  exact invokesOnly_iff.2 ⟨List.forall_mem_cons.2 ⟨hv, hstack⟩, hbindings⟩

theorem pop {v : Value} {stack : List Value} (hs : s.stack = v :: stack) :
    (∀ name ∈ v.invocations, allowed name) ∧ { s with stack }.InvokesOnly allowed := by
  obtain ⟨hstack, hbindings⟩ := invokesOnly_iff.1 h
  rw [hs] at hstack
  obtain ⟨hv, hstack⟩ := List.forall_mem_cons.1 hstack
  exact ⟨hv, invokesOnly_iff.2 ⟨hstack, hbindings⟩⟩

theorem assign (key : Text) {v : Value} (hv : ∀ name ∈ v.invocations, allowed name) :
    (s.assign key v).InvokesOnly allowed := by
  obtain ⟨hstack, hbindings⟩ := invokesOnly_iff.1 h
  refine invokesOnly_iff.2 ⟨hstack, fun e he => ?_⟩
  rcases Table.mem_put he with heq | hold
  · obtain rfl : e = (key, v) := heq
    exact hv
  · exact hbindings e hold

theorem get? {key : Text} {v : Value} (hv : s.bindings.get? key = some v) :
    ∀ name ∈ v.invocations, allowed name :=
  (invokesOnly_iff.1 h).2 (key, v) (Table.mem_of_get? hv)

end InvokesOnly

end State

/-! ## Runs -/

variable {allowed : Text → Prop}

/-- Whether a machine can come to invoke only such commands. -/
def Machine.InvokesOnly (allowed : Text → Prop) (m : Machine) : Prop :=
  ∀ name ∈ m.invocations, allowed name

/-- The commands of those names and the checkpoint name no others. -/
structure Environment.AddsOnly (allowed : Text → Prop) (env : Environment) : Prop where
  commands : ∀ name command, allowed name → env.command? name = some command →
    ∀ s : State, s.InvokesOnly allowed → (command s).state.InvokesOnly allowed
  checkpoint : ∀ statement (s : State), s.InvokesOnly allowed →
    (env.checkpoint statement s).state.InvokesOnly allowed

namespace Machine

theorem invokesOnly_iff {m : Machine} : m.InvokesOnly allowed ↔
    (∀ name ∈ Program.invocations m.code, allowed name) ∧
      (∀ name ∈ m.frames.flatMap Frame.invocations, allowed name) ∧
        m.state.InvokesOnly allowed := by
  simp only [InvokesOnly, invocations, State.InvokesOnly, List.forall_mem_append, and_assoc]

theorem choose_invokesOnly {branches : List Branch} {otherwise : Option Program} {rest : Program}
    {frames : List Frame} {s : State}
    (hbranches : ∀ name ∈ Branch.allInvocations branches, allowed name)
    (hotherwise : ∀ name ∈ Program.optionInvocations otherwise, allowed name)
    (hrest : ∀ name ∈ Program.invocations rest, allowed name)
    (hframes : ∀ name ∈ frames.flatMap Frame.invocations, allowed name)
    (hs : s.InvokesOnly allowed) :
    (choose branches otherwise rest frames s).InvokesOnly allowed := by
  rw [invokesOnly_iff]
  cases branches with
  | cons branch others =>
    obtain ⟨condition, body⟩ := branch
    simp only [Branch.allInvocations, Branch.invocations, List.forall_mem_append] at hbranches
    simp only [choose, Branch.condition, Branch.body, List.flatMap_cons, Frame.invocations,
      List.forall_mem_append]
    tauto
  | nil =>
    cases otherwise with
    | some body =>
      simp only [choose, List.flatMap_cons, Frame.invocations, List.forall_mem_append]
      exact ⟨hotherwise, ⟨hrest, hframes⟩, hs⟩
    | none => exact ⟨hrest, hframes, hs⟩

section

variable {env : Environment} (henv : env.AddsOnly allowed)
include henv

/-- A statement that begins leads only to what it names, what follows it and what the state
holds. -/
theorem Begins.invokesOnly {rest : Program} {frames : List Frame} {s : State}
    {statement : Statement} {m : Machine} (h : Begins env rest frames s statement m)
    (hm : (Machine.mk (statement :: rest) frames s).InvokesOnly allowed) :
    m.InvokesOnly allowed := by
  obtain ⟨hcode, hframes, hs⟩ := invokesOnly_iff.1 hm
  rw [Program.invocations, List.forall_mem_append] at hcode
  obtain ⟨hstatement, hrest⟩ := hcode
  rw [invokesOnly_iff]
  cases h with
  | literal v place => exact ⟨hrest, hframes, hs.push hstatement⟩
  | load place hv => exact ⟨hrest, hframes, hs.push (hs.get? hv)⟩
  | store name place hstack =>
    obtain ⟨hv, hpopped⟩ := hs.pop hstack
    exact ⟨hrest, hframes, hpopped.assign name hv⟩
  | @invoke name command s' place hcommand hdone =>
    have hname : allowed name := hstatement name List.mem_cons_self
    have hkept := henv.commands name command hname hcommand s hs
    rw [hdone] at hkept
    exact ⟨hrest, hframes, hkept⟩
  | callTop place hstack hdepth =>
    -- the body of a function on the stack is a part of the state
    obtain ⟨hbody, hpopped⟩ := hs.pop hstack
    exact ⟨hbody, List.forall_mem_append.2 ⟨hrest, hframes⟩, hpopped⟩
  | callNamed place hv hdepth =>
    exact ⟨hs.get? hv, List.forall_mem_append.2 ⟨hrest, hframes⟩, hs⟩
  | conditional branches otherwise =>
    obtain ⟨hbranches, hotherwise⟩ := List.forall_mem_append.1 hstatement
    exact invokesOnly_iff.1 (choose_invokesOnly hbranches hotherwise hrest hframes hs)
  | whileLoop condition body =>
    have hloop := List.forall_mem_append.2 ⟨hstatement, hrest⟩
    exact ⟨nofun, List.forall_mem_append.2 ⟨hloop, hframes⟩, hs⟩
  | push body => exact ⟨hrest, hframes, hs.push hstatement⟩
  | bind name body => exact ⟨hrest, hframes, hs.assign name hstatement⟩

theorem check_invokesOnly {statement : Statement} {s s' : State}
    (h : env.check statement s = .done s') (hs : s.InvokesOnly allowed) :
    s'.InvokesOnly allowed := by
  have hchecked := henv.checkpoint statement s hs
  rw [(Environment.check_eq_done h).1] at hchecked
  exact hchecked

/-- A step leads only to what the machine named before. -/
theorem Move.invokesOnly {m m' : Machine} (h : Move env m m') (hm : m.InvokesOnly allowed) :
    m'.InvokesOnly allowed := by
  obtain ⟨hcode, hframes, hs⟩ := invokesOnly_iff.1 hm
  cases h with
  | @begin statement rest frames s s' m hcheck hbegins =>
    have hs' : s'.InvokesOnly allowed := check_invokesOnly henv hcheck hs
    -- counting the statement changes neither the stack nor the variables
    exact hbegins.invokesOnly henv (invokesOnly_iff.2 ⟨hcode, hframes, hs'⟩)
  | returned place rest frames s =>
    obtain ⟨hrest, hframes⟩ := List.forall_mem_append.1 hframes
    exact invokesOnly_iff.2 ⟨hrest, hframes, hs⟩
  | left rest frames s =>
    obtain ⟨hrest, hframes⟩ := List.forall_mem_append.1 hframes
    exact invokesOnly_iff.2 ⟨hrest, hframes, hs⟩
  | taken hstack =>
    simp only [List.flatMap_cons, Frame.invocations, List.forall_mem_append] at hframes
    obtain ⟨⟨⟨⟨hbody, -⟩, -⟩, hrest⟩, hframes⟩ := hframes
    exact invokesOnly_iff.2
      ⟨hbody, List.forall_mem_append.2 ⟨hrest, hframes⟩, (hs.pop hstack).2⟩
  | passed hstack =>
    simp only [List.flatMap_cons, Frame.invocations, List.forall_mem_append] at hframes
    obtain ⟨⟨⟨⟨-, hothers⟩, hotherwise⟩, hrest⟩, hframes⟩ := hframes
    exact choose_invokesOnly hothers hotherwise hrest hframes (hs.pop hstack).2
  | again hstack =>
    obtain ⟨hloop, -⟩ := List.forall_mem_append.1 hframes
    have hbody := (List.forall_mem_append.1 (List.forall_mem_append.1 hloop).1).2
    exact invokesOnly_iff.2 ⟨hbody, hframes, (hs.pop hstack).2⟩
  | done hstack =>
    obtain ⟨hloop, hframes⟩ := List.forall_mem_append.1 hframes
    have hrest := (List.forall_mem_append.1 hloop).2
    exact invokesOnly_iff.2 ⟨hrest, hframes, (hs.pop hstack).2⟩
  | round hcheck =>
    obtain ⟨hloop, -⟩ := List.forall_mem_append.1 hframes
    have hcondition := (List.forall_mem_append.1 (List.forall_mem_append.1 hloop).1).1
    exact invokesOnly_iff.2 ⟨hcondition, hframes, check_invokesOnly henv hcheck hs⟩

/-- So does a run. -/
theorem Reaches.invokesOnly {m m' : Machine} (h : Reaches env m m') (hm : m.InvokesOnly allowed) :
    m'.InvokesOnly allowed :=
  h.invariant (fun _ _ hm hstep => (move_of_step hstep).invokesOnly henv hm) hm

end

end Machine

/-! ## Routines -/

/-- Whether what a routine makes of values that name only such commands names no others. -/
def Routine.AddsOnly (allowed : Text → Prop) (r : Routine) : Prop :=
  ∀ args, (∀ a ∈ args, ∀ name ∈ a.invocations, allowed name) →
    ∀ v, (r.body args).result = .ok v → ∀ name ∈ v.invocations, allowed name

namespace Signature

variable {sig : Signature}

/-- What a routine is given was taken off the stack, or is a device. -/
theorem mem_arguments {device : Device} {roles : List Role} {items : List Value} {a : Value}
    (h : a ∈ arguments device roles items) : a ∈ items ∨ a = .device device := by
  induction roles generalizing items with
  | nil => cases h
  | cons role roles ih =>
    cases role with
    | output =>
      rcases List.mem_cons.1 h with rfl | h
      · exact .inr rfl
      · exact ih h
    | _ =>
      cases items with
      | nil => exact ih h
      | cons v items =>
        rcases List.mem_cons.1 h with rfl | h
        · exact .inl List.mem_cons_self
        · exact (ih h).imp_left (List.mem_cons_of_mem v)

/-- The items that are taken, and what is left, name what the stack names. -/
theorem takeItems_invocations {label : Text} {stack base items : List Value}
    (h : sig.takeItems label stack = .ok (base, items))
    (hstack : ∀ v ∈ stack, ∀ name ∈ v.invocations, allowed name) :
    (∀ v ∈ base, ∀ name ∈ v.invocations, allowed name) ∧
      ∀ v ∈ items, ∀ name ∈ v.invocations, allowed name := by
  unfold takeItems at h
  split at h
  · cases h
    refine ⟨hstack, fun v hv name hname => ?_⟩
    obtain rfl := List.mem_singleton.1 hv
    rw [Value.invocations, Value.allInvocations_eq] at hname
    obtain ⟨item, hitem, hname⟩ := List.mem_flatMap.1 hname
    exact hstack item hitem name hname
  · obtain ⟨popped, rfl, rfl, -⟩ := popItems_eq_ok h
    obtain ⟨hpopped, hbase⟩ := List.forall_mem_append.1 hstack
    refine ⟨hbase, fun v hv => hpopped v ?_⟩
    simpa using hv

theorem itemsOf_invocations {v : Value} {items : List Value} (h : itemsOf v = .ok items)
    (hv : ∀ name ∈ v.invocations, allowed name) :
    ∀ item ∈ items, ∀ name ∈ item.invocations, allowed name := by
  unfold itemsOf at h
  split at h
  · cases h
    rw [Value.invocations, Value.allInvocations_eq] at hv
    exact fun item hitem name hname => hv name (List.mem_flatMap.2 ⟨item, hitem, hname⟩)
  · cases h
    intro item hitem
    obtain ⟨c, -, rfl⟩ := List.mem_map.1 hitem
    exact List.forall_mem_nil _
  · cases h
    simp [Value.invocations]
  · next top rest =>
    cases h
    rw [Value.invocations, Value.allInvocations, List.forall_mem_append] at hv
    simp only [List.forall_mem_cons, Value.invocations]
    exact ⟨hv.2, hv.1, List.forall_mem_nil _⟩
  · cases h

/-- The stack with a result names what it named before and what the result names. -/
theorem place_invocations {result : Yield} {base stack : List Value} {v : Value}
    (h : place result base v = .ok stack)
    (hbase : ∀ w ∈ base, ∀ name ∈ w.invocations, allowed name)
    (hv : ∀ name ∈ v.invocations, allowed name) :
    ∀ w ∈ stack, ∀ name ∈ w.invocations, allowed name := by
  unfold place at h
  split at h
  · split at h
    · cases h
      rw [Value.invocations, Value.allInvocations_eq] at hv
      exact fun w hw name hname => hv name (List.mem_flatMap.2 ⟨w, hw, hname⟩)
    · cases h
  · cases h
    exact hbase
  · cases h
    exact List.forall_mem_cons.2 ⟨hv, hbase⟩
  · obtain ⟨items, hitems, h⟩ := bind_eq_ok.1 h
    cases h
    have hparts := itemsOf_invocations hitems hv
    exact List.forall_mem_append.2 ⟨fun w hw => hparts w (List.mem_reverse.1 hw), hbase⟩

end Signature

/-- The command of a routine names what the state and the routine name. -/
theorem Routine.AddsOnly.command {r : Routine} (hr : r.AddsOnly allowed) (sig : Signature)
    (label : Text) {s : State} (hs : s.InvokesOnly allowed) :
    (r.command sig label s).state.InvokesOnly allowed := by
  cases h : r.command sig label s with
  | failed failure s' =>
    obtain ⟨log, rfl⟩ := Routine.command_eq_failed h
    exact hs
  | done s' =>
    obtain ⟨base, items, v, stack, log, htake, hresult, hplace, rfl⟩ := Routine.command_eq_done h
    obtain ⟨hstack, hbindings⟩ := State.invokesOnly_iff.1 hs
    obtain ⟨hbase, hitems⟩ := Signature.takeItems_invocations htake hstack
    have hargs : ∀ a ∈ Signature.arguments s.device sig.roles items,
        ∀ name ∈ a.invocations, allowed name := by
      intro a ha
      rcases Signature.mem_arguments ha with hitem | rfl
      · exact hitems a hitem
      · exact nofun
    have hv := hr _ hargs v hresult
    exact State.invokesOnly_iff.2 ⟨Signature.place_invocations hplace hbase hv, hbindings⟩

end StackShell
