import StackShell.Command.Builtin
import StackShell.Host.Terminal
import StackShell.Proofs.Invocations
import StackShell.Proofs.Routines
import StackShell.Proofs.Runs

/-!
# What lies under the stack

A run that invokes no command that handles the whole stack works on the top of the stack only. With
other values underneath it does the same, and leaves them where they are. The exception is a run
that fails because the stack is too short: it may find what it lacks.

Each part of a step is compared on a stack and on the same stack with more underneath: the two agree
unless the first one underflows (`Machine.step_onto`). The run invokes no other commands than those
named before, so they agree all along (`Machine.run_onto`).
-/

namespace StackShell

/-! ## More underneath -/

/-- The state with more values under its stack. -/
def State.onto (base : List Value) (s : State) : State :=
  { s with stack := s.stack ++ base }

/-- The outcome with more values under its stack. -/
def Outcome.onto (base : List Value) : Outcome → Outcome
  | .done s => .done (s.onto base)
  | .failed failure s => .failed failure (s.onto base)

/-- The machine with more values under its stack. -/
def Machine.onto (base : List Value) (m : Machine) : Machine :=
  { m with state := m.state.onto base }

/-- What a step leads to, with more values under its stack. -/
def Progress.onto (base : List Value) : Progress → Progress
  | .running m => .running (m.onto base)
  | .stopped o => .stopped (o.onto base)

/-! ## Underflows -/

/-- Whether a failure is that of a stack that is too short. -/
def Failure.isUnderflow : Failure → Bool
  | .script cause _ => cause.kind = .underflow
  | .fault _ => false

/-- Whether work ended because the stack is too short. -/
def Outcome.isUnderflow : Outcome → Bool
  | .done _ => false
  | .failed failure _ => failure.isUnderflow

/-- Whether a step stopped because the stack is too short. -/
def Progress.isUnderflow : Progress → Bool
  | .running _ => false
  | .stopped o => o.isUnderflow

theorem Failure.isUnderflow_locate (place : Location) (failure : Failure) :
    (failure.locate place).isUnderflow = failure.isUnderflow := by
  cases failure with
  | fault problem => rfl
  | script cause given => cases given <;> rfl

theorem Machine.isUnderflow_locateIn (frames : List Frame) (failure : Failure) :
    (locateIn frames failure).isUnderflow = failure.isUnderflow := by
  unfold locateIn
  split
  · exact failure.isUnderflow_locate _
  · rfl

theorem Machine.isUnderflow_locate (statement : Statement) (frames : List Frame)
    (failure : Failure) : (locate statement frames failure).isUnderflow = failure.isUnderflow := by
  unfold locate
  split
  · exact failure.isUnderflow_locate _
  · exact isUnderflow_locateIn frames failure

theorem Environment.isUnderflow_reportDepth (failure : Failure) :
    (reportDepth failure).isUnderflow = failure.isUnderflow := by
  cases failure with
  | fault problem => cases problem <;> rfl
  | script cause place =>
    rw [reportDepth]
    split
    · next hkind =>
      rw [Failure.isUnderflow, hkind]
      rfl
    · rfl

/-! ## Commands -/

namespace Signature

/-- Whether a command is given the whole stack or gives a whole stack. -/
def handlesStack (sig : Signature) : Bool :=
  sig.takesStack || sig.valency == -1

variable (base : List Value)

/-- Items are popped off the top alike, unless there are too few. -/
theorem popItems_onto (command : Text) (needed : Nat) (shapes : List Shape)
    (stack taken : List Value) :
    (∃ failure, popItems command needed shapes stack taken = .error failure ∧
      failure.isUnderflow = true) ∨
    popItems command needed shapes (stack ++ base) taken =
      (popItems command needed shapes stack taken).map fun popped =>
        (popped.1 ++ base, popped.2) := by
  induction shapes generalizing stack taken with
  | nil => exact .inr rfl
  | cons expected shapes ih =>
    cases stack with
    | nil => exact .inl ⟨_, rfl, rfl⟩
    | cons v stack =>
      rw [List.cons_append, popItems, popItems]
      split
      · exact .inr rfl
      · exact .inr rfl
      · exact ih stack (v :: taken)

/-- A result that is no whole stack is placed on top. -/
theorem place_onto {result : Yield} (hresult : result ≠ .replace) (stack : List Value) (v : Value) :
    place result (stack ++ base) v = (place result stack v).map (· ++ base) := by
  match result with
  | .replace => exact absurd rfl hresult
  | .items [] => rfl
  | .items [_] => rfl
  | .items (_ :: _ :: _) =>
    simp only [place]
    cases itemsOf v with
    | error failure => rfl
    | ok items => exact congrArg Except.ok (List.append_assoc items.reverse stack base).symm

end Signature

/-- Whether a piece of work on a state does the same with more values underneath, unless the stack
is too short for it. -/
def OnTop (work : State → Outcome) : Prop :=
  ∀ s base, (work s).isUnderflow = true ∨ work (s.onto base) = (work s).onto base

/-- A command that does not handle the whole stack works on its top. -/
theorem Routine.command_onTop (r : Routine) {sig : Signature} (hsig : sig.handlesStack = false)
    (label : Text) : OnTop (r.command sig label) := by
  intro s base
  -- the command pops its items one by one, and its result is no whole stack
  obtain ⟨htakes, hgives⟩ := Bool.or_eq_false_iff.1 hsig
  have hresult : sig.result ≠ .replace := by
    rintro hreplace
    rw [Signature.valency, hreplace] at hgives
    cases hgives
  have htake : ∀ stack, sig.takeItems label stack =
      Signature.popItems label sig.inputs.length sig.inputs stack [] := by
    intro stack
    rw [Signature.takeItems, htakes]
    rfl
  unfold command
  rw [htake, htake]
  rcases Signature.popItems_onto base label sig.inputs.length sig.inputs s.stack [] with
    ⟨failure, hfailure, hunderflow⟩ | hsame
  · left
    rw [hfailure]
    exact hunderflow
  · right
    have hstack : (s.onto base).stack = s.stack ++ base := rfl
    rw [hstack, hsame]
    cases Signature.popItems label sig.inputs.length sig.inputs s.stack [] with
    | error failure => rfl
    | ok popped =>
      obtain ⟨rest, items⟩ := popped
      simp only [Except.map, State.foldl_emit]
      have hdevice : (s.onto base).device = s.device := rfl
      rw [hdevice]
      cases (r.body (Signature.arguments s.device sig.roles items)).result with
      | error failure => rfl
      | ok v =>
        have hplace := Signature.place_onto base hresult rest v
        simp only [bind, Except.bind, hplace]
        cases Signature.place sig.result rest v <;> rfl

/-! ## Steps -/

namespace State

variable (s : State) (base : List Value)

theorem popBoolean_onto :
    (∃ failure, s.popBoolean = .error failure ∧ failure.isUnderflow = true) ∨
      (s.onto base).popBoolean = s.popBoolean.map fun popped => (popped.1, popped.2.onto base) := by
  unfold popBoolean
  cases hs : s.stack with
  | nil => exact .inl ⟨_, rfl, rfl⟩
  | cons v stack =>
    right
    simp only [onto, hs, List.cons_append]
    cases v <;> rfl

/-- Only a call without a name looks at the stack for its function. -/
theorem fetch_onto (name : Option Text) :
    (∃ failure, s.fetch name = .error failure ∧ failure.isUnderflow = true) ∨
      (s.onto base).fetch name =
        (s.fetch name).map fun fetched => (fetched.1, fetched.2.onto base) := by
  cases name with
  | none =>
    unfold fetch popFunction
    cases hs : s.stack with
    | nil => exact .inl ⟨_, rfl, rfl⟩
    | cons v stack =>
      right
      simp only [onto, hs, List.cons_append]
      cases v <;> rfl
  | some name =>
    right
    have hlookup : (s.onto base).lookup name = s.lookup name := rfl
    simp only [fetch, hlookup]
    cases s.lookup name >>= Value.asFunction <;> rfl

end State

/-- The commands of those names work on top of the stack, and so does the checkpoint; and neither
names others. -/
structure Environment.OnTop (allowed : Text → Prop) (env : Environment) : Prop
    extends env.AddsOnly allowed where
  commands_onTop : ∀ name command, allowed name → env.command? name = some command →
    StackShell.OnTop command
  checkpoint_onTop : ∀ statement, StackShell.OnTop (env.checkpoint statement)

namespace Machine

variable {allowed : Text → Prop} {env : Environment} {base : List Value}

theorem choose_onto (branches : List Branch) (otherwise : Option Program) (rest : Program)
    (frames : List Frame) (s : State) :
    choose branches otherwise rest frames (s.onto base) =
      (choose branches otherwise rest frames s).onto base := by
  unfold choose
  split <;> rfl

/-- What a statement leads to, with more values under the stack. -/
def executedOnto (base : List Value) :
    Except (Failure × State) Machine → Except (Failure × State) Machine
  | .ok m => .ok (m.onto base)
  | .error (failure, s) => .error (failure, s.onto base)

theorem nest_onto (frames : List Frame) (m : Machine) :
    nest env frames (m.onto base) = executedOnto base (nest env frames m) := by
  unfold nest
  split_ifs <;> rfl

/-- Whether a statement failed because the stack is too short. -/
def Underflowed (x : Except (Failure × State) Machine) : Prop :=
  ∃ failure s, x = .error (failure, s) ∧ failure.isUnderflow = true

/-- A statement does the same with more values underneath if the command that it invokes does. -/
theorem execute_onto (base : List Value) {statement : Statement} (rest : Program)
    (frames : List Frame) (s : State)
    (hcommand : ∀ name place, statement = .invoke name place →
      ∀ command, env.command? name = some command → OnTop command) :
    Underflowed (execute env statement rest frames s) ∨
      execute env statement rest frames (s.onto base) =
        executedOnto base (execute env statement rest frames s) := by
  cases statement with
  | load name place =>
    right
    have hlookup : (s.onto base).lookup name = s.lookup name := rfl
    simp only [execute, hlookup]
    cases s.lookup name <;> rfl
  | store name place =>
    simp only [execute, State.pop]
    cases hs : s.stack with
    | nil => exact .inl ⟨_, _, rfl, rfl⟩
    | cons v stack =>
      right
      simp only [State.onto, hs, List.cons_append]
      rfl
  | invoke name place =>
    simp only [execute]
    cases hfound : env.command? name with
    | none => exact .inr rfl
    | some command =>
      dsimp only
      -- Only the command looks at the stack: what it does on top decides.
      rcases hcommand name place rfl command hfound s base with hunderflow | hsame
      · left
        cases hrun : command s with
        | done s' =>
          rw [hrun] at hunderflow
          cases hunderflow
        | failed failure s' =>
          rw [hrun] at hunderflow
          exact ⟨failure, s', rfl, hunderflow⟩
      · right
        rw [hsame]
        cases command s <;> rfl
  | call name place =>
    -- The depth of the calls does not depend on the stack, so only the fetch can differ.
    rw [execute_call, execute_call]
    rcases s.fetch_onto base name with ⟨failure, hfailure, hunderflow⟩ | hsame
    · left
      rw [hfailure]
      exact ⟨failure, s, rfl, hunderflow⟩
    · right
      rw [hsame]
      cases s.fetch name with
      | error failure => rfl
      | ok fetched =>
        exact nest_onto frames ⟨fetched.1, .call place rest :: frames, fetched.2⟩
  | conditional branches otherwise =>
    right
    rw [execute, execute, choose_onto, nest_onto]
  | whileLoop condition body =>
    exact .inr (nest_onto frames ⟨[], .loopBody condition body rest :: frames, s⟩)
  | define name body => cases name <;> exact .inr rfl
  | _ => exact .inr rfl

theorem executed_onto (statement : Statement) (frames : List Frame)
    (x : Except (Failure × State) Machine) :
    executed statement frames (executedOnto base x) = (executed statement frames x).onto base := by
  rcases x with ⟨failure, s⟩ | m <;> rfl

/-- A check works on top of the stack if the checkpoint does. -/
theorem check_onTop (henv : env.OnTop allowed) (statement : Statement) :
    OnTop (env.check statement) := by
  intro s base
  have hcheckpoint := henv.checkpoint_onTop statement s base
  have hcancelled : (s.onto base).cancelled = s.cancelled := rfl
  have hsteps : (s.onto base).steps = s.steps := rfl
  rw [Environment.check, Environment.check, hcancelled, hsteps]
  split
  · exact .inr rfl
  · split
    · split
      · exact .inr rfl
      · exact hcheckpoint
    · exact hcheckpoint

theorem decideBy_onto {frames : List Frame} {s : State} {next : Bool → State → Machine}
    (hnext : ∀ b s, next b (s.onto base) = (next b s).onto base) :
    (decideBy frames s next).isUnderflow = true ∨
      decideBy frames (s.onto base) next = (decideBy frames s next).onto base := by
  unfold decideBy
  rcases s.popBoolean_onto base with ⟨failure, hfailure, hunderflow⟩ | hsame
  · left
    rw [hfailure]
    exact (isUnderflow_locateIn frames failure).trans hunderflow
  · right
    rw [hsame]
    cases s.popBoolean with
    | error failure => rfl
    | ok popped => exact congrArg Progress.running (hnext popped.1 popped.2)

/-- What a frame does once the statements before it are through does not depend on what lies under
the stack. -/
theorem resume_onto (henv : env.OnTop allowed) (frame : Frame) (frames : List Frame) (s : State) :
    (resume env frame frames s).isUnderflow = true ∨
      resume env frame frames (s.onto base) = (resume env frame frames s).onto base := by
  cases frame with
  | call place rest => exact .inr rfl
  | chosen rest => exact .inr rfl
  | branch body others otherwise rest =>
    refine decideBy_onto fun b s => ?_
    cases b with
    | true => rfl
    | false => exact choose_onto others otherwise rest frames s
  | loopCondition condition body rest =>
    refine decideBy_onto fun b s => ?_
    cases b <;> rfl
  | loopBody condition body rest =>
    simp only [resume]
    rcases check_onTop henv (.whileLoop condition body) s base with hunderflow | hsame
    · left
      cases hcheck : env.check (.whileLoop condition body) s with
      | done s' =>
        rw [hcheck] at hunderflow
        cases hunderflow
      | failed failure s' =>
        rw [hcheck] at hunderflow
        exact (isUnderflow_locateIn frames failure).trans hunderflow
    · right
      rw [hsame]
      cases env.check (.whileLoop condition body) s <;> rfl

/-- A statement begins alike whatever lies under the stack. -/
theorem begin_onto (henv : env.OnTop allowed) {statement : Statement} {rest : Program}
    {frames : List Frame} {s : State}
    (hstatement : ∀ name ∈ statement.invocations, allowed name) :
    (begin env statement rest frames s).isUnderflow = true ∨
      begin env statement rest frames (s.onto base) =
        (begin env statement rest frames s).onto base := by
  have hchecked := check_onTop henv statement s base
  cases hcheck : env.check statement s with
  | failed failure s' =>
    rw [hcheck] at hchecked
    rw [begin_of_check_failed hcheck]
    rcases hchecked with hunderflow | hsame
    · exact .inl ((isUnderflow_locateIn frames failure).trans hunderflow)
    · exact .inr (begin_of_check_failed hsame rest frames)
  | done s' =>
    rw [hcheck] at hchecked
    -- a check that passes is no underflow, so both are checked alike
    have hsame := hchecked.resolve_left Bool.false_ne_true
    rw [begin_of_check hcheck, begin_of_check hsame]
    have hcommand : ∀ name place, statement = .invoke name place →
        ∀ command, env.command? name = some command → OnTop command := by
      rintro name place rfl command hfound
      exact henv.commands_onTop name command (hstatement name List.mem_cons_self) hfound
    rcases execute_onto base rest frames { s' with steps := s'.steps + 1 } hcommand with
      ⟨failure, s'', hfailed, hunderflow⟩ | hexecuted
    · left
      rw [hfailed]
      exact (isUnderflow_locate statement frames failure).trans hunderflow
    · right
      rw [← executed_onto, ← hexecuted]
      rfl

/-- A step does not depend on what lies under the stack, unless it underflows. -/
theorem step_onto (base : List Value) (henv : env.OnTop allowed) {m : Machine}
    (hm : m.InvokesOnly allowed) :
    (m.step env).isUnderflow = true ∨ (m.onto base).step env = (m.step env).onto base := by
  obtain ⟨code, frames, s⟩ := m
  cases code with
  | cons statement rest =>
    obtain ⟨hcode, -, -⟩ := invokesOnly_iff.1 hm
    exact begin_onto henv (List.forall_mem_append.1 hcode).1
  | nil =>
    cases frames with
    | nil => exact .inr rfl
    | cons frame frames => exact resume_onto henv frame frames s

/-- Nor does a run. -/
theorem run_onto (henv : env.OnTop allowed) {fuel : Nat} {m : Machine}
    (hm : m.InvokesOnly allowed) {o : Outcome} (h : m.run env fuel = some o)
    (ho : o.isUnderflow = false) : (m.onto base).run env fuel = some (o.onto base) := by
  induction fuel generalizing m with
  | zero => cases h
  | succ fuel ih =>
    have hsame := step_onto base henv hm
    cases hstep : m.step env with
    | running m' =>
      rw [hstep] at hsame
      rw [run_succ_of_running hstep] at h
      rw [run_succ_of_running (hsame.resolve_left Bool.false_ne_true)]
      -- the next machine may invoke no more than this one, so its step is compared alike
      exact ih ((move_of_step hstep).invokesOnly henv.toAddsOnly hm) h
    | stopped o' =>
      rw [hstep] at hsame
      rw [run_succ_of_stopped hstep] at h
      cases h
      have hunderflow : ¬(Progress.stopped o).isUnderflow = true := by
        rw [Progress.isUnderflow, ho]
        exact Bool.false_ne_true
      exact run_succ_of_stopped (hsame.resolve_left hunderflow) fuel

end Machine

/-! ## Vocabularies -/

/-- Whether the command under a name is given the whole stack or gives a whole stack. -/
def Vocabulary.handlesStack (v : Vocabulary) (name : Text) : Bool :=
  (v.signature? name).any Signature.handlesStack

/-- Whether all commands were made from routines, whose results name no command that handles the
whole stack unless their arguments do. -/
def Vocabulary.Wrapped (v : Vocabulary) : Prop :=
  ∀ name entry, v.entry? name = some entry →
    ∃ (r : Routine) (sig : Signature) (label : Text),
      entry = ⟨r.command sig label, some sig⟩ ∧ r.AddsOnly fun name => v.handlesStack name = false

/-- Whether a checkpoint works on top of the stack and names only such commands. -/
structure Checkpoint.OnTop (allowed : Text → Prop) (checkpoint : Checkpoint) : Prop where
  addsOnly : ∀ statement (s : State), s.InvokesOnly allowed →
    (checkpoint statement s).state.InvokesOnly allowed
  onTop : ∀ statement, StackShell.OnTop (checkpoint statement)

theorem Checkpoint.pass_onTop (allowed : Text → Prop) : Checkpoint.pass.OnTop allowed :=
  ⟨fun _ _ hs => hs, fun _ _ _ => .inr rfl⟩

/-- The checkpoint of a terminal does not look at the stack either. -/
theorem Terminal.guard_onTop (allowed : Text → Prop) (closed : Bool) :
    Checkpoint.OnTop allowed (guard closed) := by
  cases closed with
  | true => exact ⟨fun _ _ hs => hs, fun _ _ _ => .inr rfl⟩
  | false => exact Checkpoint.pass_onTop allowed

/-- The commands of a wrapped vocabulary that do not handle the whole stack work on top of it. -/
theorem Session.environment_onTop [Platform] {s : Session} (hvocabulary : s.vocabulary.Wrapped)
    (hcheckpoint : s.checkpoint.OnTop fun name => s.vocabulary.handlesStack name = false) :
    s.environment.OnTop fun name => s.vocabulary.handlesStack name = false := by
  have hcommands : ∀ name command, s.vocabulary.handlesStack name = false →
      s.environment.command? name = some command →
        ∃ (r : Routine) (sig : Signature) (label : Text),
          command = r.command sig label ∧ sig.handlesStack = false ∧
          r.AddsOnly fun name => s.vocabulary.handlesStack name = false := by
    intro name command hname hcommand
    obtain ⟨entry, hentry, rfl⟩ := Option.map_eq_some_iff.1 hcommand
    obtain ⟨r, sig, label, rfl, hr⟩ := hvocabulary name entry hentry
    refine ⟨r, sig, label, rfl, ?_, hr⟩
    rw [Vocabulary.handlesStack, Vocabulary.signature?, hentry] at hname
    exact hname
  refine ⟨⟨fun name command hname hcommand => ?_, hcheckpoint.addsOnly⟩,
    fun name command hname hcommand => ?_, hcheckpoint.onTop⟩
  · obtain ⟨r, sig, label, rfl, -, hr⟩ := hcommands name command hname hcommand
    exact fun s hs => hr.command sig label hs
  · obtain ⟨r, sig, label, rfl, hsig, -⟩ := hcommands name command hname hcommand
    exact r.command_onTop hsig label

/-- The stack frame rule. Let all commands be made from routines, let the checkpoint, if there is
one, work on top of the stack, and let neither the program nor a function among its literals, on the
stack or in a variable name a command that handles the whole stack, at whatever depth. If the
program finishes, and does not fail because the stack is too short, then with any values underneath
the stack it finishes in the same way after as many steps: with the same failure if it fails, the
same variables, output and count of statements, and the same stack on top of those values. -/
theorem Session.finishes_onto [Platform] {s : Session} (hvocabulary : s.vocabulary.Wrapped)
    (hcheckpoint : s.checkpoint.OnTop fun name => s.vocabulary.handlesStack name = false)
    {program : Program}
    (hnames : ∀ name ∈ Program.invocations program ++ s.state.invocations,
      s.vocabulary.handlesStack name = false)
    {fuel : Nat} {o : Outcome} (h : s.environment.Finishes fuel program s.state o)
    (ho : o.isUnderflow = false) (base : List Value) :
    s.environment.Finishes fuel program (s.state.onto base) (o.onto base) := by
  obtain ⟨raw, hrun, rfl⟩ := h
  obtain ⟨hprogram, hstate⟩ := List.forall_mem_append.1 hnames
  -- a failure that is reported as another one, for its depth, was no underflow and is none
  have hraw : raw.isUnderflow = false := by
    rw [← ho]
    cases raw with
    | done s => rfl
    | failed failure s => exact (Environment.isUnderflow_reportDepth failure).symm
  have hstart : (Machine.start program { s.state with steps := 0 }).InvokesOnly
      fun name => s.vocabulary.handlesStack name = false :=
    Machine.invokesOnly_iff.2 ⟨hprogram, nofun, hstate⟩
  have henv := Session.environment_onTop hvocabulary hcheckpoint
  refine ⟨raw.onto base, Machine.run_onto henv hstart hrun hraw, ?_⟩
  cases raw <;> rfl

/-! ## The built-in commands -/

/-- Whether a reply gives, if anything, a value that names only these commands. -/
def Reply.Names (names : List Text) (reply : Reply) : Prop :=
  ∀ v, reply.result = .ok v → v.invocations ⊆ names

/-- Whether a routine gives values that name only what its arguments name. -/
def Routine.Passes (r : Routine) : Prop :=
  ∀ args, (r.body args).Names (args.flatMap Value.invocations)

theorem Routine.Passes.addsOnly {r : Routine} (hr : r.Passes) (allowed : Text → Prop) :
    r.AddsOnly allowed := by
  intro args hargs v hv name hname
  obtain ⟨a, ha, hname⟩ := List.mem_flatMap.1 (hr args v hv hname)
  exact hargs a ha name hname

namespace Builtin

variable {names : List Text}

theorem value_names {v : Value} (hv : v.invocations ⊆ names) : (Reply.value v).Names names := by
  intro w hw
  cases hw
  exact hv

theorem bare_names {v : Value} (hv : v.invocations = []) : (Reply.value v).Names names :=
  value_names (hv ▸ List.nil_subset names)

theorem fail_names (failure : Failure) : (Reply.fail failure).Names names := nofun

theorem result_names (r : Except NumberProblem Number) : (result r).Names names := by
  cases r with
  | ok n => exact bare_names rfl
  | error problem => exact fail_names _

theorem floorOf_names (x : Number) : (floorOf x).Names names := by
  unfold floorOf
  split
  · exact fail_names _
  · split
    · exact bare_names rfl
    · exact fail_names _

theorem numbers_passes {out : Shape} {hout : out ≠ .stack} {f : Number → Number → Reply}
    (hf : ∀ b a names, (f b a).Names names) : (numbers out f hout).Passes := by
  intro args
  simp only [numbers]
  split
  · exact hf _ _ _
  · exact fail_names _

theorem number_passes {out : Shape} {hout : out ≠ .stack} {f : Number → Reply}
    (hf : ∀ x names, (f x).Names names) :
    (number out f hout).Passes := by
  intro args
  simp only [number]
  split
  · exact hf _ _
  · exact fail_names _

theorem comparison_passes (f : Number → Number → Bool) : (comparison f).Passes :=
  numbers_passes fun _ _ _ => bare_names rfl

theorem division_passes (f : Number → Number → Except NumberProblem Number) :
    (division f).Passes := by
  refine numbers_passes fun b a names => ?_
  split
  · exact fail_names _
  · exact result_names _

theorem logic_passes (f : Bool → Bool → Bool) : (logic f).Passes := by
  intro args
  simp only [logic]
  split
  · exact bare_names rfl
  · exact fail_names _

theorem any_passes {out : Shape} {hout : out ≠ .stack} {f : Value → Reply}
    (hf : ∀ x, (f x).Names x.invocations) :
    (any out f hout).Passes := by
  intro args
  simp only [any]
  split
  · rw [List.flatMap_singleton]
    exact hf _
  · exact fail_names _

theorem question_passes (f : Value → Bool) : (question f).Passes :=
  any_passes fun _ => bare_names rfl

theorem anyTwo_passes {out : Shape} {hout : out ≠ .stack} {f : Value → Value → Reply}
    (hf : ∀ b a, (f b a).Names (b.invocations ++ a.invocations)) : (anyTwo out f hout).Passes := by
  intro args
  simp only [anyTwo]
  split
  · rw [List.flatMap_cons, List.flatMap_singleton]
    exact hf _ _
  · exact fail_names _

theorem print_names (device : Device) (text : Text) : (device.print text).Names names := by
  unfold Device.print
  split
  · split
    · exact bare_names rfl
    · exact fail_names _
  · exact bare_names rfl

theorem printing_passes (ending : Text) : (printing ending).Passes := by
  intro args
  simp only [printing]
  split
  · split
    · exact print_names _ _
    · exact fail_names _
  · exact fail_names _

theorem concat_passes : concat.Passes := by
  intro args
  simp only [concat]
  split
  · exact bare_names rfl
  · exact fail_names _

theorem length_passes : length.Passes := by
  intro args
  simp only [length]
  split
  · exact bare_names rfl
  · exact fail_names _

theorem depth_passes : depth.Passes := by
  intro args
  simp only [depth]
  split
  · exact bare_names rfl
  · exact fail_names _

theorem negation_passes : Routine.Passes
    { name := "", parameters := one .boolean, result := some .boolean,
      body := fun | [.boolean x] => .value (.boolean (!x)) | _ => .misfit } := by
  intro args
  dsimp only
  split
  · exact bare_names rfl
  · exact fail_names _

theorem clear_passes : clear.Passes := fun _ => bare_names rfl

theorem clearStack_passes : clearStack.Passes := fun _ => bare_names rfl

theorem rotate_passes : rotate.Passes := by
  intro args
  simp only [rotate]
  split
  · refine value_names ?_
    simp [Value.invocations, Value.allInvocations]
  · exact fail_names _

theorem str_passes :
    (any .string fun x => .ofExcept ((textOf x).map Value.string)).Passes := by
  refine any_passes fun x v hv => ?_
  cases htext : textOf x with
  | error failure =>
    rw [htext] at hv
    cases hv
  | ok text =>
    rw [htext] at hv
    cases hv
    exact List.nil_subset _

/-- No built-in routine gives a function that it was not given. -/
theorem routines_pass : ∀ e ∈ routines, e.2.Passes := by
  have hdup {hout} : (any (several 2) (fun x => .value (.tuple [x, x])) hout).Passes := by
    refine any_passes fun x => value_names ?_
    simp [Value.invocations, Value.allInvocations]
  have hover {hout} : (anyTwo (several 3) (fun b a => .value (.tuple [b, a, b])) hout).Passes := by
    refine anyTwo_passes fun b a => value_names ?_
    simp [Value.invocations, Value.allInvocations]
  have hswap {hout} : (anyTwo (several 2) (fun b a => .value (.tuple [a, b])) hout).Passes := by
    refine anyTwo_passes fun b a => value_names ?_
    simp [Value.invocations, Value.allInvocations]
  simp only [routines, List.forall_mem_cons]
  refine ⟨number_passes fun _ _ => bare_names rfl, numbers_passes fun _ _ _ => result_names _,
    logic_passes _, question_passes _, clear_passes, clearStack_passes, concat_passes, depth_passes,
    division_passes _, any_passes fun _ => bare_names rfl, hdup,
    anyTwo_passes fun _ _ => bare_names rfl, number_passes fun x _ => floorOf_names x,
    question_passes _, comparison_passes _, comparison_passes _, division_passes _,
    comparison_passes _, length_passes, comparison_passes _,
    numbers_passes fun _ _ _ => bare_names rfl, numbers_passes fun _ _ _ => bare_names rfl,
    numbers_passes fun _ _ _ => result_names _, anyTwo_passes fun _ _ => bare_names rfl,
    number_passes fun _ _ => bare_names rfl, negation_passes, question_passes _, logic_passes _,
    hover, printing_passes _, division_passes _, rotate_passes, str_passes, question_passes _,
    numbers_passes fun _ _ _ => result_names _, hswap, any_passes fun _ => bare_names rfl,
    printing_passes _, List.forall_mem_nil _⟩

end Builtin

theorem Vocabulary.builtins_wrapped : builtins.Wrapped := by
  intro name entry hentry
  obtain ⟨r, sig, label, hr, -, rfl⟩ := mem_builtins (Table.mem_of_get? hentry)
  exact ⟨r, sig, _, rfl, (Builtin.routines_pass _ hr).addsOnly _⟩

/-- The built-in commands that handle the whole stack. -/
theorem Vocabulary.builtins_handlesStack {name : Text} :
    builtins.handlesStack name = true ↔
      name ∈ (["clear-stack", "depth", "stack-size"] : List Text) := by
  have hentries : ∀ e ∈ builtins.entries.entries,
      e.2.signature.any Signature.handlesStack = true →
        e.1 ∈ (["clear-stack", "depth"] : List Text) := by decide
  have haliases : ∀ e ∈ builtins.aliases.entries, e.2 ∈ (["clear-stack", "depth"] : List Text) →
      e.1 ∈ (["clear-stack", "depth", "stack-size"] : List Text) := by decide
  constructor
  · intro h
    rw [handlesStack, signature?] at h
    cases hentry : builtins.entry? name with
    | none =>
      rw [hentry] at h
      cases h
    | some entry =>
      rw [hentry] at h
      have hkey := hentries _ (Table.mem_of_get? hentry) h
      cases halias : builtins.aliases.get? name with
      | none =>
        rw [resolve, halias] at hkey
        exact List.mem_append_left [("stack-size" : Text)] hkey
      | some target =>
        rw [resolve, halias] at hkey
        exact haliases _ (Table.mem_of_get? halias) hkey
  · have hall : ∀ name ∈ (["clear-stack", "depth", "stack-size"] : List Text),
        builtins.handlesStack name = true := by decide
    exact hall name

section

attribute [local instance] Platform.basic

/-- A sum on top of a function that asks for the size of the stack. -/
theorem addition_finishes_onto :
    let s : Session :=
      .on .builtins none { State.initial .discard with stack := [.number (.int 2)] }
    let program : Program := [.literal (.number (.int 1)) ⟨1, 1⟩, .invoke "+" ⟨1, 3⟩]
    let after : State :=
      { State.initial .discard with stack := [.number (.int 3)], steps := 2 }
    let base : List Value := [.function [.invoke "depth" ⟨1, 1⟩], .absent]
    s.vocabulary.Wrapped ∧
      s.checkpoint.OnTop (fun name => s.vocabulary.handlesStack name = false) ∧
      (∀ name ∈ Program.invocations program ++ s.state.invocations,
        s.vocabulary.handlesStack name = false) ∧
      s.environment.Finishes 3 program s.state (.done after) ∧
      s.environment.Finishes 3 program (s.state.onto base) (.done (after.onto base)) := by
  intro s program after base
  have hvocabulary : s.vocabulary.Wrapped := Vocabulary.builtins_wrapped
  have hcheckpoint : s.checkpoint.OnTop (fun name => s.vocabulary.handlesStack name = false) :=
    Checkpoint.pass_onTop _
  have hnames : ∀ name ∈ Program.invocations program ++ s.state.invocations,
      s.vocabulary.handlesStack name = false := by decide
  have hfinishes : s.environment.Finishes 3 program s.state (.done after) := ⟨_, rfl, rfl⟩
  exact ⟨hvocabulary, hcheckpoint, hnames, hfinishes,
    Session.finishes_onto hvocabulary hcheckpoint hnames hfinishes rfl base⟩

end

end StackShell
