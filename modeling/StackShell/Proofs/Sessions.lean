import StackShell.Host.Session
import StackShell.Proofs.Failures
import StackShell.Proofs.Plain.Reader
import StackShell.Proofs.Plain.Vocabulary
import StackShell.Proofs.Syntax.Refusals

/-!
# Submissions to a session

A submission touches the state of a session alone. It starts by resetting the count of steps and the
request to stop, so that nothing depends on what these were before. On a session whose commands were
made from routines that behave, and whose checkpoint only watches, it leaves plain states plain and
the device where it is.
-/

namespace StackShell

/-- The state with what every submission resets as it was before anything ran. -/
def State.rested (s : State) : State :=
  { s with steps := 0, cancelled := false }

namespace Session

/-! ## The parts of a submission -/

theorem settle_fst (s : Session) (o : Outcome) : (s.settle o).1 = { s with state := o.state } := by
  cases o <;> rfl

variable [Platform]

/-- The session with what every submission resets as it was before anything ran. -/
def rested (s : Session) : Session :=
  { s with state := s.state.rested }

/-- A submission settles the run of the program that was read, if one was. -/
theorem submit_eq (s : Session) (source : Text) (file : Option Text) :
    s.submit source file =
      match s.parse source file with
      | .error failure => (s.resume, some failure)
      | .ok program => s.settle (s.environment.submit patience program s.resume.state) :=
  rfl

/-- A submission changes the state alone. -/
theorem submit_frame (s : Session) (source : Text) (file : Option Text) :
    ∃ state failure, s.submit source file = ({ s with state }, failure) := by
  rw [submit_eq]
  cases s.parse source file with
  | error failure => exact ⟨_, _, rfl⟩
  | ok program => exact ⟨_, _, Prod.ext (s.settle_fst _) rfl⟩

/-- A submission runs nothing, or leaves the state that the run of its program leaves. -/
theorem submit_state (s : Session) (source : Text) (file : Option Text) :
    (s.submit source file).1.state = s.resume.state ∨
      ∃ program, s.parse source file = .ok program ∧
        (s.submit source file).1.state =
          (s.environment.submit patience program s.resume.state).state := by
  rw [submit_eq]
  cases s.parse source file with
  | error failure => exact .inl rfl
  | ok program => exact .inr ⟨program, rfl, congrArg Session.state (s.settle_fst _)⟩

/-- A submission succeeds exactly if its text is read and the run of the program comes to its end,
and then leaves what that run leaves. -/
theorem submit_eq_done_iff {s t : Session} {source : Text} {file : Option Text} :
    s.submit source file = (t, none) ↔
      ∃ program state, s.parse source file = .ok program ∧
        (Machine.start program s.state.rested).run s.environment patience = some (.done state) ∧
        t = { s with state } := by
  rw [submit_eq]
  cases hparse : s.parse source file with
  | error failure => simp
  | ok program =>
    have hstart : { s.resume.state with steps := 0 } = s.state.rested := rfl
    unfold Environment.submit Environment.exec
    dsimp only
    rw [hstart]
    constructor
    · intro h
      cases hrun : (Machine.start program s.state.rested).run s.environment patience with
      | none =>
        rw [hrun] at h
        cases h
      | some o =>
        rw [hrun] at h
        cases o with
        | failed failure state => cases h
        | done state =>
          cases h
          exact ⟨program, state, rfl, hrun, rfl⟩
    · rintro ⟨read, state, hread, hrun, rfl⟩
      cases hread
      simp only [hrun]
      rfl

/-- A submission does not depend on what it resets. -/
theorem submit_rested (s : Session) (source : Text) (file : Option Text) :
    (s.rested.submit source file).2 = (s.submit source file).2 ∧
      (s.rested.submit source file).1.rested = (s.submit source file).1.rested := by
  have hparse : s.rested.parse source file = s.parse source file := rfl
  rw [submit_eq, submit_eq, hparse]
  cases s.parse source file with
  | error failure => exact ⟨rfl, rfl⟩
  | ok program => exact ⟨rfl, rfl⟩

end Session

/-! ## What submissions keep -/

/-- What takes the output, and whether the run is asked to stop. -/
def State.fixed (s : State) : Device × Bool :=
  (s.device, s.cancelled)

/-- Acts leave the device and the request to stop as they are if commands come from routines and the
checkpoint changes nothing. -/
theorem Act.perform_fixed {env : Environment} (hroutines : env.RoutinesOnly)
    (hcheckpoint : ∀ statement s, (env.checkpoint statement s).state = s) (act : Act)
    (s : State) : (act.perform env s).state.fixed = s.fixed := by
  have hcheck : ∀ statement, (env.check statement s).state = s := by
    intro statement
    rcases env.check_state statement s with h | h
    · exact h
    · rw [h, hcheckpoint]
  by_cases helementary : act.isElementary
  · rcases perform_frame env helementary s with
      ⟨name, command, rfl, hcommand⟩ | ⟨stack, bindings, h⟩
    · obtain ⟨r, sig, label, rfl⟩ := hroutines name command hcommand
      simp only [perform, hcommand]
      cases hrun : r.command sig label s with
      | done s' =>
        -- a command touches the stack and the log only
        obtain ⟨-, -, -, stack, log, -, -, -, rfl⟩ := Routine.command_eq_done hrun
        rfl
      | failed failure s' =>
        obtain ⟨log, rfl⟩ := Routine.command_eq_failed hrun
        rfl
    · rw [h]
      rfl
  · cases act with
    | start statement =>
      have hkept := congrArg State.fixed (hcheck statement)
      simp only [perform]
      split
      · next s' hdone =>
        rw [hdone] at hkept
        exact hkept
      · next failure s' hfailed =>
        rw [hfailed] at hkept
        exact hkept
    | round loop => exact congrArg State.fixed (hcheck loop)
    | _ => exact absurd rfl helementary

section

variable [Platform]

/-- A submission leaves a plain state plain if the commands and the checkpoint do, and keeps what
holds of all words in it if that holds of the words that are read too. -/
theorem Session.submit_plainWith {good : Statement → Prop} {s : Session}
    (hkeeps : s.environment.KeepsPlainWith good) (hplain : s.state.PlainWith good)
    {source : Text} {file : Option Text}
    (hread : ∀ program, s.parse source file = .ok program → Program.PlainWith good program) :
    (s.submit source file).1.state.PlainWith good := by
  have hresumed : s.resume.state.PlainWith good :=
    ⟨hplain.stack, hplain.bindings, hplain.distinct⟩
  rcases s.submit_state source file with h | ⟨program, hparse, h⟩
  · rw [h]
    exact hresumed
  · rw [h]
    exact Environment.submit_plainWith hkeeps patience (hread program hparse) hresumed

theorem Session.submit_plain {s : Session}
    (hkeeps : s.environment.KeepsPlainWith fun _ => True) (hplain : s.state.Plain)
    (source : Text) (file : Option Text) : (s.submit source file).1.state.Plain :=
  (State.plain_iff _).2 <| Session.submit_plainWith hkeeps ((State.plain_iff _).1 hplain)
    fun _ hparse => Program.parse_plainWith hparse fun _ _ _ => trivial

/-- A session whose commands were made from routines that behave and whose checkpoint only
watches. -/
structure Session.Tame (fails : Device → Failure → Prop) (s : Session) : Prop where
  commands : s.vocabulary.Behaves fails
  checkpoint : ∀ statement state, (s.checkpoint statement state).state = state

namespace Session.Tame

variable {fails : Device → Failure → Prop} {s : Session}

theorem routinesOnly (hs : s.Tame fails) : s.environment.RoutinesOnly :=
  fun _ _ hcommand => (hs.commands.command? hcommand).isRoutine

theorem keepsPlainWith (hs : s.Tame fails) (good : Statement → Prop) :
    s.environment.KeepsPlainWith good where
  commands := fun _ _ hcommand _ hstate => (hs.commands.command? hcommand).state hstate
  checkpoint := fun statement state hstate => by
    have hwatches : (s.environment.checkpoint statement state).state = state :=
      hs.checkpoint statement state
    rw [hwatches]
    exact hstate

theorem submit_plainWith {good : Statement → Prop} (hs : s.Tame fails)
    (hplain : s.state.PlainWith good) {source : Text} {file : Option Text}
    (hread : ∀ program, s.parse source file = .ok program → Program.PlainWith good program) :
    (s.submit source file).1.state.PlainWith good :=
  Session.submit_plainWith (hs.keepsPlainWith good) hplain hread

/-- A submission leaves a plain state plain. -/
theorem submit_plain (hs : s.Tame fails) (hplain : s.state.Plain) (source : Text)
    (file : Option Text) : (s.submit source file).1.state.Plain :=
  Session.submit_plain (hs.keepsPlainWith _) hplain source file

theorem perform_fixed (hs : s.Tame fails) {fixed : Device × Bool} (act : Act) (state : State)
    (hstate : state.fixed = fixed) : (act.perform s.environment state).state.fixed = fixed := by
  rw [Act.perform_fixed hs.routinesOnly hs.checkpoint, hstate]

/-- A machine on its way has the device and the request to stop as they were. -/
theorem reaches_fixed (hs : s.Tame fails) {m m' : Machine}
    (h : Machine.Reaches s.environment m m') : m'.state.fixed = m.state.fixed :=
  h.keeps (P := fun state => state.fixed = m.state.fixed) hs.perform_fixed rfl

/-- A run leaves the device and the request to stop as they are. -/
theorem stops_fixed (hs : s.Tame fails) {m : Machine} {o : Outcome}
    (h : Machine.Stops s.environment m o) : o.state.fixed = m.state.fixed :=
  h.keeps (P := fun state => state.fixed = m.state.fixed) hs.perform_fixed rfl

/-- A submission leaves the device where it is. -/
theorem submit_device (hs : s.Tame fails) (source : Text) (file : Option Text) :
    (s.submit source file).1.state.device = s.state.device := by
  rcases s.submit_state source file with h | ⟨program, -, h⟩
  · rw [h]
    rfl
  · rw [h]
    -- a run that is given up leaves the state that it started on
    rcases s.environment.submit_state patience program s.resume.state with h | ⟨o, hstops, h⟩
    · rw [h]
      rfl
    · rw [h]
      exact congrArg Prod.fst (hs.stops_fixed hstops)

end Session.Tame

end

/-! ## How submissions fail -/

/-- What can go wrong, apart from its place, when a plain program with good words runs on a
session. -/
inductive Session.Mishap (fails : Device → Failure → Prop) (good : Statement → Prop)
    (s : Session) : Failure → Prop where
  | stopped (reason : Stop) : Mishap fails good s (.of (.cancelled reason))
  | checkpoint {statement : Statement} {state state' : State} {failure : Failure} :
      s.checkpoint statement state = .failed failure state' → Mishap fails good s failure
  | undefinedLoad {name : Text} {place : Location} : good (.load name place) →
      Mishap fails good s (.of (.undefinedVariable name))
  | undefinedCall {name : Text} {place : Location} : good (.call (some name) place) →
      Mishap fails good s (.of (.undefinedVariable name))
  | unknown {name : Text} {place : Location} : good (.invoke name place) →
      s.vocabulary.command? name = none → Mishap fails good s (.of (.unknownCommand name))
  | underflow {missing : Underflow} : missing ∈ [.pop, .condition, .call] →
      Mishap fails good s (.of (.underflow missing))
  | mismatch {expected : Text} (v : Value) : expected ∈ (["boolean", "function"] : List Text) →
      Mishap fails good s (.of (.mismatch expected v.typeName))
  /-- A command lacks items. -/
  | few {name : Text} {entry : Entry} (needed available : Nat) :
      (name, entry) ∈ s.vocabulary.entries.entries →
        Mishap fails good s (.of (.underflow (.arguments name needed available)))
  /-- An item of a command is of the wrong type. -/
  | operand {shape : Shape} (v : Value) : shape.isOperand →
      Mishap fails good s (.of (.mismatch shape.describe v.typeName))
  | routine {failure : Failure} : fails s.state.device failure → Mishap fails good s failure
  | tooDeep : Mishap fails good s (.fault .depth)

namespace Session.Tame

variable {fails : Device → Failure → Prop} {good : Statement → Prop} {s : Session}

/-- Commands fail on plain states because items are missing or of the wrong type, or as their
routines do. -/
theorem command_failure (hs : s.Tame fails) {name : Text} {command : Command}
    (hcommand : s.vocabulary.command? name = some command) {state state' : State}
    (hstate : state.PlainWith good) (hdevice : state.device = s.state.device) {failure : Failure}
    (h : command state = .failed failure state') : s.Mishap fails good failure := by
  obtain ⟨entry, hentry, rfl⟩ := Option.map_eq_some_iff.1 hcommand
  have hmem := Table.mem_of_get? hentry
  obtain ⟨r, sig, label, hr, hsig, hroutine⟩ := hs.commands _ entry hmem
  rw [hroutine] at h
  rcases hr.failure hsig _ hstate h with hfails | ⟨needed, available, rfl⟩ | ⟨shape, hshape, v, rfl⟩
  · exact .routine (hdevice ▸ hfails)
  · exact .few needed available hmem
  · exact .operand v (hr.operands shape hshape)

variable [Platform]

theorem check_failure {statement : Statement} {state state' : State} {failure : Failure}
    (h : s.environment.check statement state = .failed failure state') :
    s.Mishap fails good failure := by
  rcases Environment.check_eq_failed h with ⟨reason, rfl⟩ | h
  · exact .stopped reason
  · exact .checkpoint h

/-- What goes wrong with a plain machine on a session whose commands behave is listed. -/
theorem raises_mishap (hs : s.Tame fails) {m : Machine} (hm : m.PlainWith good)
    (hdevice : m.state.device = s.state.device) {raw : Failure}
    (h : Machine.Raises s.environment m raw) : s.Mishap fails good raw := by
  cases h with
  | check hcheck => exact check_failure hcheck
  | round hcheck => exact check_failure hcheck
  | condition hproblem =>
    rcases State.popBoolean_eq_error hproblem with rfl | ⟨v, rfl⟩
    · exact .underflow (by simp)
    · exact .mismatch v (by simp)
  | @mishap statement rest frames state state' _ hcheck hmishap =>
    have hstate : { state' with steps := state'.steps + 1 }.PlainWith good := by
      have hchecked := Environment.check_plainWith (hs.keepsPlainWith good) statement hm.state
      rw [hcheck] at hchecked
      exact ⟨hchecked.stack, hchecked.bindings, hchecked.distinct⟩
    have hword := hm.code.1
    cases hmishap with
    | undefinedLoad place => exact .undefinedLoad hword
    | undefinedCall place => exact .undefinedCall hword
    | unknown place hnone => exact .unknown hword hnone
    | command place hcommand hrun =>
      have hkept : state'.device = state.device := by
        rcases s.environment.check_state _ state with hchecked | hchecked
        · rw [hcheck] at hchecked
          exact congrArg State.device hchecked
        · rw [hcheck] at hchecked
          have hwatched := (congrArg Outcome.state hchecked).trans (hs.checkpoint _ state)
          exact congrArg State.device hwatched
      exact hs.command_failure hcommand hstate (hkept.trans hdevice) hrun
    | emptyStore name place => exact .underflow (by simp)
    | emptyCall place => exact .underflow (by simp)
    | noFunction name place v => exact .mismatch v (by simp)
    | callTooDeep | conditionalTooDeep | loopTooDeep => exact .tooDeep
    | stray => exact hword.elim

/-- How a submission fails: the text is refused, the run is given up, it is nested too deep, or
there is a mishap. -/
theorem submit_failure (hs : s.Tame fails) (hplain : s.state.PlainWith good) {source : Text}
    {file : Option Text}
    (hread : ∀ program, s.parse source file = .ok program → Program.PlainWith good program)
    {failure : Failure} (h : (s.submit source file).2 = some failure) :
    Syntax.Refuses source file failure ∨ failure = .fault .unfinished ∨ failure = .of .tooDeep ∨
      failure ≠ .fault .depth ∧ ∃ raw, s.Mishap fails good raw ∧ raw.Located failure := by
  rw [submit_eq] at h
  cases hparse : s.parse source file with
  | error problem =>
    rw [hparse] at h
    cases h
    exact .inl (Syntax.parse_eq_error hparse)
  | ok program =>
    rw [hparse] at h
    right
    cases hrun : s.environment.submit patience program s.resume.state with
    | done state => simp [hrun, settle] at h
    | failed problem state =>
      simp only [hrun, settle, Option.some.injEq] at h
      subst h
      rcases Environment.failure_of_submit hrun with h | h | ⟨hdepth, m, raw, hreach, hraises, h⟩
      · exact .inl h
      · exact .inr (.inl h)
      · -- resuming touches neither the stack nor the variables
        have hstate : s.resume.state.PlainWith good :=
          ⟨hplain.stack, hplain.bindings, hplain.distinct⟩
        have hm : m.PlainWith good := hreach.plainWith (hs.keepsPlainWith good)
          (Machine.start_plainWith (hread program hparse) hstate)
        have hdevice : m.state.device = s.state.device :=
          congrArg Prod.fst (hs.reaches_fixed hreach)
        exact .inr (.inr ⟨hdepth, raw, hs.raises_mishap hm hdevice hraises, h⟩)

end Session.Tame

end StackShell
