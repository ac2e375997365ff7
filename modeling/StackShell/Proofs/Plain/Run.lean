import StackShell.Proofs.Acts
import StackShell.Proofs.Plain.Basic
import StackShell.Proofs.Tables

/-!
# Plain states stay plain

A plain program that runs on a plain state leaves a plain state, however it ends, as long as the
commands and the checkpoint keep states plain. The invariant covers the statements that are still to
run too: they come from the program, or from functions on the stack and in variables. That is also
why whatever holds of all words in the program, on the stack and in the variables holds of each
word that ever runs.
-/

namespace StackShell

variable {good : Statement → Prop}

/-- The host's part of a run keeps plain states plain, and their words good. -/
structure Environment.KeepsPlainWith (good : Statement → Prop) (env : Environment) : Prop where
  commands : ∀ name command, env.command? name = some command →
    ∀ s, s.PlainWith good → (command s).state.PlainWith good
  checkpoint : ∀ statement s, s.PlainWith good → (env.checkpoint statement s).state.PlainWith good

/-- Whether what a frame still has to run is plain, with good words. -/
def Frame.PlainWith (good : Statement → Prop) : Frame → Prop
  | .call _ rest | .chosen rest => Program.PlainWith good rest
  | .branch body others otherwise rest =>
    Program.PlainWith good body ∧ Branch.AllPlainWith good others ∧
      Program.OptionPlainWith good otherwise ∧ Program.PlainWith good rest
  | .loopCondition condition body rest | .loopBody condition body rest =>
    Program.PlainWith good condition ∧ Program.PlainWith good body ∧ Program.PlainWith good rest

/-- Whether all that a machine holds is plain, with good words. -/
structure Machine.PlainWith (good : Statement → Prop) (m : Machine) : Prop where
  code : Program.PlainWith good m.code
  frames : ∀ frame ∈ m.frames, frame.PlainWith good
  state : m.state.PlainWith good

/-! ## States -/

namespace State.PlainWith

variable {s : State}

theorem push (hs : s.PlainWith good) {v : Value} (hv : v.PlainWith good) :
    (s.push v).PlainWith good :=
  ⟨.cons hv hs.stack, hs.bindings, hs.distinct⟩

theorem assign (hs : s.PlainWith good) (name : Text) {v : Value} (hv : v.PlainWith good) :
    (s.assign name v).PlainWith good := by
  refine ⟨hs.stack, ?_, Table.nodup_keys_insert hs.distinct name v⟩
  intro key w hmem
  rcases Table.mem_put hmem with heq | hmem
  · cases heq
    exact hv
  · exact hs.bindings key w hmem

theorem withStack (hs : s.PlainWith good) {stack : List Value}
    (hstack : Value.AllPlainWith good stack) : { s with stack }.PlainWith good :=
  ⟨hstack, hs.bindings, hs.distinct⟩

/-- What lies under the top of a plain stack is plain. -/
theorem pop (hs : s.PlainWith good) {v : Value} {stack : List Value}
    (hstack : s.stack = v :: stack) : v.PlainWith good ∧ { s with stack }.PlainWith good := by
  have hall := hs.stack
  rw [hstack] at hall
  exact ⟨hall.head, hs.withStack hall.tail⟩

theorem get? (hs : s.PlainWith good) {name : Text} {v : Value}
    (h : s.bindings.get? name = some v) : v.PlainWith good :=
  hs.bindings name v (Table.mem_of_get? h)

end State.PlainWith

/-! ## Acts -/

/-- Whether what an act brings into the state is plain, with good words. -/
def Act.PlainWith (good : Statement → Prop) : Act → Prop
  | .literal v => v.PlainWith good
  | .define _ body => Program.PlainWith good body
  | _ => True

section Acts

variable {env : Environment} (hkeeps : env.KeepsPlainWith good)
include hkeeps

theorem Environment.check_plainWith (statement : Statement) {s : State} (hs : s.PlainWith good) :
    (env.check statement s).state.PlainWith good := by
  rcases env.check_state statement s with h | h
  · rw [h]
    exact hs
  · rw [h]
    exact hkeeps.checkpoint statement s hs

/-- An act with plain parts keeps a plain state plain. -/
theorem Act.perform_plainWith {act : Act} (hact : act.PlainWith good) (s : State)
    (hs : s.PlainWith good) : (act.perform env s).state.PlainWith good := by
  cases act with
  | start statement =>
    have hcheck := Environment.check_plainWith hkeeps statement hs
    simp only [perform]
    split
    · next s' hdone =>
      rw [hdone] at hcheck
      exact ⟨hcheck.stack, hcheck.bindings, hcheck.distinct⟩
    · next failure s' hfailed =>
      rw [hfailed] at hcheck
      exact hcheck
  | round loop => exact Environment.check_plainWith hkeeps loop hs
  | literal v => exact hs.push hact
  | load name =>
    simp only [perform]
    split
    · next v hv => exact hs.push (hs.get? (State.lookup_eq_ok hv))
    · exact hs
  | store name =>
    simp only [perform, State.pop]
    cases hstack : s.stack with
    | nil => exact hs
    | cons v stack =>
      obtain ⟨hv, hrest⟩ := hs.pop hstack
      exact hrest.assign name hv
  | invoke name =>
    simp only [perform]
    split
    · next command hcommand => exact hkeeps.commands name command hcommand s hs
    · exact hs
  | define name body =>
    cases name with
    | none => exact hs.push hact
    | some name => exact hs.assign name hact
  | test =>
    simp only [perform]
    split
    · next b s' hpop =>
      obtain ⟨stack, hstack, rfl⟩ := State.popBoolean_eq_ok hpop
      exact (hs.pop hstack).2
    · exact hs
  | fetch name =>
    rw [perform_fetch]
    split
    · next body t hfetch =>
      rcases State.fetch_eq_ok hfetch with ⟨-, stack, hstack, rfl⟩ | ⟨x, -, -, rfl⟩
      · exact (hs.pop hstack).2
      · exact hs
    · exact hs

end Acts

namespace Machine

/-- The acts of a plain machine have plain parts. -/
theorem PlainWith.acts {m : Machine} (hm : m.PlainWith good) :
    ∀ act ∈ m.acts, act.PlainWith good := by
  obtain ⟨code, frames, s⟩ := m
  intro act hact
  cases code with
  | cons statement rest =>
    rcases List.mem_cons.1 hact with rfl | hact
    · trivial
    · have hstatement := hm.code.1
      cases statement with
      | literal v place =>
        cases List.mem_singleton.1 hact
        exact hstatement.1
      | define name body =>
        cases List.mem_singleton.1 hact
        exact hstatement
      | conditional branches otherwise => cases hact
      | whileLoop condition body => cases hact
      | stray => cases hact
      | _ =>
        cases List.mem_singleton.1 hact
        trivial
  | nil =>
    cases frames with
    | nil => cases hact
    | cons frame frames =>
      cases frame with
      | call place rest => cases hact
      | chosen rest => cases hact
      | _ =>
        cases List.mem_singleton.1 hact
        trivial

/-- So they keep states plain. -/
theorem PlainWith.perform {env : Environment} (hkeeps : env.KeepsPlainWith good) {m : Machine}
    (hm : m.PlainWith good) :
    ∀ act ∈ m.acts, ∀ s : State, s.PlainWith good → (act.perform env s).state.PlainWith good :=
  fun act hact s hs => Act.perform_plainWith hkeeps (hm.acts act hact) s hs

/-! ## What is still to run -/

/-- Whether the statements that run now and those that follow are plain, with good words. -/
def PlainAhead (good : Statement → Prop) (m : Machine) : Prop :=
  Program.PlainWith good m.code ∧ ∀ frame ∈ m.frames, frame.PlainWith good

theorem plainAhead_cons {code : Program} {frame : Frame} {frames : List Frame} {s : State}
    (hcode : Program.PlainWith good code) (hframe : frame.PlainWith good)
    (hframes : ∀ frame ∈ frames, frame.PlainWith good) :
    PlainAhead good ⟨code, frame :: frames, s⟩ := by
  refine ⟨hcode, fun f hf => ?_⟩
  rcases List.mem_cons.1 hf with rfl | hf
  · exact hframe
  · exact hframes f hf

theorem plainAhead_choose {branches : List Branch} {otherwise : Option Program} {rest : Program}
    {frames : List Frame} (hbranches : Branch.AllPlainWith good branches)
    (hotherwise : Program.OptionPlainWith good otherwise) (hrest : Program.PlainWith good rest)
    (hframes : ∀ frame ∈ frames, frame.PlainWith good) (s : State) :
    PlainAhead good (choose branches otherwise rest frames s) := by
  cases branches with
  | cons branch others =>
    obtain ⟨condition, body⟩ := branch
    obtain ⟨⟨hcondition, hbody⟩, hothers⟩ := hbranches
    exact plainAhead_cons hcondition ⟨hbody, hothers, hotherwise, hrest⟩ hframes
  | nil =>
    cases otherwise with
    | some body => exact plainAhead_cons hotherwise hrest hframes
    | none => exact ⟨hrest, hframes⟩

/-- A plain statement that begins on a plain state leads to plain statements: the body of a function
that is called is part of a plain value. -/
theorem Begins.plainAhead {env : Environment} {rest : Program} {frames : List Frame} {s : State}
    {statement : Statement} {m : Machine} (h : Begins env rest frames s statement m)
    (hstatement : statement.PlainWith good) (hrest : Program.PlainWith good rest)
    (hframes : ∀ frame ∈ frames, frame.PlainWith good) (hs : s.PlainWith good) :
    PlainAhead good m := by
  cases h with
  | callTop place hstack _ =>
    have hbody := (hs.pop hstack).1
    exact plainAhead_cons hbody hrest hframes
  | callNamed place hget _ =>
    have hbody := hs.get? hget
    exact plainAhead_cons hbody hrest hframes
  | conditional branches otherwise =>
    exact plainAhead_choose hstatement.1 hstatement.2 hrest hframes s
  | whileLoop condition body =>
    exact plainAhead_cons trivial ⟨hstatement.1, hstatement.2, hrest⟩ hframes
  | _ => exact ⟨hrest, hframes⟩

section Run

variable {env : Environment} (hkeeps : env.KeepsPlainWith good)
include hkeeps

/-- A plain machine leads to plain statements. -/
theorem Move.plainAhead {m m' : Machine} (h : Move env m m') (hm : m.PlainWith good) :
    PlainAhead good m' := by
  cases h with
  | @begin statement rest frames s s' m hcheck hbegins =>
    have hs' := Environment.check_plainWith hkeeps statement hm.state
    rw [hcheck] at hs'
    -- counting the statement changes neither the stack nor the variables
    refine hbegins.plainAhead hm.code.1 hm.code.2 hm.frames ?_
    exact ⟨hs'.stack, hs'.bindings, hs'.distinct⟩
  | returned place rest frames s =>
    obtain ⟨hrest, hframes⟩ := List.forall_mem_cons.1 hm.frames
    exact ⟨hrest, hframes⟩
  | left rest frames s =>
    obtain ⟨hrest, hframes⟩ := List.forall_mem_cons.1 hm.frames
    exact ⟨hrest, hframes⟩
  | taken hstack =>
    obtain ⟨⟨hbody, _, _, hrest⟩, hframes⟩ := List.forall_mem_cons.1 hm.frames
    exact plainAhead_cons hbody hrest hframes
  | passed hstack =>
    obtain ⟨⟨_, hothers, hotherwise, hrest⟩, hframes⟩ := List.forall_mem_cons.1 hm.frames
    exact plainAhead_choose hothers hotherwise hrest hframes _
  | again hstack =>
    obtain ⟨⟨hcondition, hbody, hrest⟩, hframes⟩ := List.forall_mem_cons.1 hm.frames
    exact plainAhead_cons hbody ⟨hcondition, hbody, hrest⟩ hframes
  | done hstack =>
    obtain ⟨⟨_, _, hrest⟩, hframes⟩ := List.forall_mem_cons.1 hm.frames
    exact ⟨hrest, hframes⟩
  | round hcheck =>
    obtain ⟨⟨hcondition, hbody, hrest⟩, hframes⟩ := List.forall_mem_cons.1 hm.frames
    exact plainAhead_cons hcondition ⟨hcondition, hbody, hrest⟩ hframes

/-- A step of a plain machine that keeps running leads to a plain machine. -/
theorem PlainWith.of_running {m m' : Machine} (hm : m.PlainWith good)
    (h : m.step env = .running m') : m'.PlainWith good := by
  obtain ⟨hcode, hframes⟩ := (move_of_step h).plainAhead hkeeps hm
  exact ⟨hcode, hframes, keeps_of_running (hm.perform hkeeps) hm.state h⟩

/-- A plain machine leads to plain machines only. -/
theorem Reaches.plainWith {m m' : Machine} (h : Reaches env m m') (hm : m.PlainWith good) :
    m'.PlainWith good :=
  h.invariant (fun _ _ => PlainWith.of_running hkeeps) hm

/-- A plain machine comes to a plain state, however it ends. -/
theorem PlainWith.of_stops {m : Machine} (hm : m.PlainWith good) {o : Outcome}
    (h : Stops env m o) : o.state.PlainWith good := by
  obtain ⟨last, hreach, hlast⟩ := h.last
  have hplain : last.PlainWith good := hreach.plainWith hkeeps hm
  exact keeps_of_stopped (hplain.perform hkeeps) hplain.state hlast

end Run

end Machine

/-- The machine that a submission starts is plain. -/
theorem Machine.start_plainWith {program : Program} (hprogram : Program.PlainWith good program)
    {s : State} (hs : s.PlainWith good) :
    (start program { s with steps := 0 }).PlainWith good :=
  ⟨hprogram, fun _ hframe => (List.not_mem_nil hframe).elim, hs.stack, hs.bindings, hs.distinct⟩

/-- A plain program that is submitted on a plain state leaves a plain state, also where the run is
given up. -/
theorem Environment.submit_plainWith {env : Environment} (hkeeps : env.KeepsPlainWith good)
    (fuel : Nat) {program : Program} (hprogram : Program.PlainWith good program) {s : State}
    (hs : s.PlainWith good) : (env.submit fuel program s).state.PlainWith good := by
  have hm := Machine.start_plainWith hprogram hs
  rcases env.submit_state fuel program s with h | ⟨o, hstops, h⟩
  · rw [h]
    exact hm.state
  · rw [h]
    exact hm.of_stops hkeeps hstops

end StackShell
