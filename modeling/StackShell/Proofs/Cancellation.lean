import StackShell.Proofs.Acts

/-!
# A request to stop stops everything

Once a command has asked the run to stop, no check passes any more. What is left of the run only
unwinds: frames are worked off, and the outcomes of conditions come off the stack, until a statement
would begin or a loop would come round, which ends the run as cancelled. Nothing else can happen to
the state.

The six moves that are left are listed once, by `Unwinding`; the theorems read everything off that
list.
-/

namespace StackShell

/-- Whether a state differs from an earlier one only in that truth values have been taken off the
stack. -/
def State.Unwinds (s s' : State) : Prop :=
  ∃ outcomes : List Bool, s.stack = outcomes.map Value.boolean ++ s'.stack ∧
    s' = { s with stack := s'.stack }

namespace State.Unwinds

theorem refl (s : State) : s.Unwinds s :=
  ⟨[], rfl, rfl⟩

theorem pop {s : State} {b : Bool} {stack : List Value} (h : s.stack = .boolean b :: stack) :
    s.Unwinds { s with stack } :=
  ⟨[b], h, rfl⟩

theorem trans {s s' s'' : State} (h : s.Unwinds s') (h' : s'.Unwinds s'') : s.Unwinds s'' := by
  obtain ⟨outcomes, hstack, hrest⟩ := h
  obtain ⟨outcomes', hstack', hrest'⟩ := h'
  refine ⟨outcomes ++ outcomes', ?_, ?_⟩
  · rw [hstack, hstack', List.map_append, List.append_assoc]
  · rw [hrest', hrest]

theorem cancelled {s s' : State} (h : s.Unwinds s') : s'.cancelled = s.cancelled := by
  obtain ⟨-, -, hrest⟩ := h
  rw [hrest]

end State.Unwinds

/-- Whether a frame waits for the outcome of a condition. -/
def Frame.isCondition : Frame → Bool
  | .branch .. | .loopCondition .. => true
  | .call .. | .chosen _ | .loopBody .. => false

namespace Machine

/-- What a machine that was asked to stop can still do without stopping. -/
inductive Unwinding : Machine → Machine → Prop where
  | returned (place : Location) (rest : Program) (frames : List Frame) (s : State) :
      Unwinding ⟨[], .call place rest :: frames, s⟩ ⟨rest, frames, s⟩
  | left (rest : Program) (frames : List Frame) (s : State) :
      Unwinding ⟨[], .chosen rest :: frames, s⟩ ⟨rest, frames, s⟩
  | taken {body rest : Program} {others : List Branch} {otherwise : Option Program}
      {frames : List Frame} {s : State} {stack : List Value} :
      s.stack = .boolean true :: stack →
        Unwinding ⟨[], .branch body others otherwise rest :: frames, s⟩
          ⟨body, .chosen rest :: frames, { s with stack }⟩
  | passed {body rest : Program} {others : List Branch} {otherwise : Option Program}
      {frames : List Frame} {s : State} {stack : List Value} :
      s.stack = .boolean false :: stack →
        Unwinding ⟨[], .branch body others otherwise rest :: frames, s⟩
          (choose others otherwise rest frames { s with stack })
  | again {condition body rest : Program} {frames : List Frame} {s : State}
      {stack : List Value} :
      s.stack = .boolean true :: stack →
        Unwinding ⟨[], .loopCondition condition body rest :: frames, s⟩
          ⟨body, .loopBody condition body rest :: frames, { s with stack }⟩
  | done {condition body rest : Program} {frames : List Frame} {s : State}
      {stack : List Value} :
      s.stack = .boolean false :: stack →
        Unwinding ⟨[], .loopCondition condition body rest :: frames, s⟩
          ⟨rest, frames, { s with stack }⟩

variable {env : Environment} {m m' : Machine}

/-- A check does not pass after a request to stop. -/
theorem check_cancelled {s : State} (h : s.cancelled = true) (statement : Statement) :
    env.check statement s = s.fail (.cancelled .requested) := by
  rw [Environment.check, if_pos h]

/-- A step that keeps a machine running after a request to stop is one of those listed. -/
theorem unwinding_of_step (hm : m.state.cancelled = true) (h : m.step env = .running m') :
    Unwinding m m' := by
  cases move_of_step h with
  | begin hcheck hbegins =>
    rw [check_cancelled hm] at hcheck
    cases hcheck
  | round hcheck =>
    rw [check_cancelled hm] at hcheck
    cases hcheck
  | returned place rest frames s => exact .returned place rest frames s
  | left rest frames s => exact .left rest frames s
  | taken hstack => exact .taken hstack
  | passed hstack => exact .passed hstack
  | again hstack => exact .again hstack
  | done hstack => exact .done hstack

namespace Unwinding

/-- No statement begins. -/
theorem code_eq_nil (h : Unwinding m m') : m.code = [] := by
  cases h <;> rfl

/-- No loop comes round. -/
theorem frames_ne_loopBody (h : Unwinding m m') (condition body rest : Program)
    (frames : List Frame) : m.frames ≠ .loopBody condition body rest :: frames := by
  cases h <;> simp

theorem state (h : Unwinding m m') : m.state.Unwinds m'.state := by
  cases h with
  | returned | left => exact .refl _
  | taken hstack | again hstack | done hstack => exact .pop hstack
  | passed hstack =>
    rw [choose_state]
    exact .pop hstack

/-- The stack gets shorter, or else the pile does. -/
theorem shrinks (h : Unwinding m m') :
    m'.state.stack.length < m.state.stack.length ∨
      m'.state.stack.length = m.state.stack.length ∧ m'.frames.length < m.frames.length := by
  cases h with
  | returned | left => exact .inr ⟨rfl, Nat.lt_succ_self _⟩
  | taken hstack | again hstack | done hstack =>
    -- the outcome of the condition is taken off
    left
    rw [hstack]
    exact Nat.lt_succ_self _
  | passed hstack =>
    left
    rw [choose_state, hstack]
    exact Nat.lt_succ_self _

/-- The only acts are tests of conditions. -/
theorem acts (h : Unwinding m m') : ∀ act ∈ m.acts, act = .test := by
  cases h <;> simp [Machine.acts]

end Unwinding

/-! ## What is left of the run -/

/-- Machines that are reached after a request to stop have unwound. -/
theorem Reaches.unwinds (h : Reaches env m m') (hm : m.state.cancelled = true) :
    m.state.Unwinds m'.state := by
  induction h with
  | refl => exact .refl _
  | next hstep _ ih =>
    have hfirst := (unwinding_of_step hm hstep).state
    exact hfirst.trans (ih (hfirst.cancelled.trans hm))

/-- A row of tests, tried one after the other, completes nothing but tests. -/
theorem completed_of_tests {acts : List Act} (hacts : ∀ act ∈ acts, act = .test) (s : State) :
    ∀ act ∈ (Trial.of env acts s).completed, act = .test := by
  induction acts generalizing s with
  | nil =>
    intro act hact
    cases hact
  | cons first acts ih =>
    obtain ⟨hfirst, hacts⟩ := List.forall_mem_cons.1 hacts
    simp only [Trial.of]
    split
    · exact List.forall_mem_cons.2 ⟨hfirst, ih hacts _⟩
    · intro act hact
      cases hact

/-- The acts of the last step are refused, or are tests. -/
theorem completed_of_stopped {o : Outcome} (hm : m.state.cancelled = true)
    (h : m.step env = .stopped o) : ∀ act ∈ (m.attempt env).completed, act = .test := by
  obtain ⟨code, frames, s⟩ := m
  cases code with
  | cons statement rest =>
    simp only [attempt, acts, Trial.of, Act.perform, check_cancelled hm, State.fail]
    intro act hact
    cases hact
  | nil =>
    cases frames with
    | nil =>
      intro act hact
      cases hact
    | cons frame frames =>
      cases frame with
      | loopBody condition body rest =>
        simp only [attempt, acts, Trial.of, Act.perform, check_cancelled hm, State.fail]
        intro act hact
        cases hact
      | call | chosen => cases h
      | branch | loopCondition => exact completed_of_tests (by simp [acts]) s

/-- After a request to stop, the acts that are completed are tests of conditions: no statement
begins, no loop comes round, and no command is invoked. -/
theorem record_cancelled (hm : m.state.cancelled = true) (fuel : Nat) :
    ∀ act ∈ (m.record env fuel).completed, act = .test := by
  induction fuel generalizing m with
  | zero =>
    intro act hact
    cases hact
  | succ fuel ih =>
    cases hstep : m.step env with
    | stopped o =>
      simp only [record, hstep]
      exact completed_of_stopped hm hstep
    | running m' =>
      have hunwinding := unwinding_of_step hm hstep
      simp only [record, hstep, List.forall_mem_append]
      exact ⟨completed_of_tests hunwinding.acts m.state,
        ih (hunwinding.state.cancelled.trans hm)⟩

/-- Where a machine can be that started to unwind at `first`: back among the frames that were on the
pile then; at the start of what a frame was put on the pile for since then; or in the condition of a
branch that follows on one whose condition gave false. -/
inductive Within (env : Environment) (first : Machine) : Machine → Prop where
  | back {code : Program} {frames : List Frame} {s : State} :
      frames <:+ first.frames → Within env first ⟨code, frames, s⟩
  | body {code : Program} {frame : Frame} {frames : List Frame} {s : State} :
      frame.isCondition = false → frames <:+ first.frames →
        Within env first ⟨code, frame :: frames, s⟩
  | condition {condition body earlier rest : Program} {others : List Branch}
      {otherwise : Option Program} {frames : List Frame} {s s' : State} :
      Reaches env first
          ⟨[], .branch earlier (.mk condition body :: others) otherwise rest :: frames, s'⟩ →
        frames <:+ first.frames →
          Within env first ⟨condition, .branch body others otherwise rest :: frames, s⟩

theorem Reaches.snoc {m'' : Machine} (h : Reaches env m m') (hstep : m'.step env = .running m'') :
    Reaches env m m'' := by
  induction h with
  | refl => exact .single hstep
  | next hfirst _ ih => exact .next hfirst (ih hstep)

/-- Going on with the branches that are left leads to where a machine can be. -/
theorem within_choose {first : Machine} {body rest : Program} {others : List Branch}
    {otherwise : Option Program} {frames : List Frame} {s : State}
    (hreach : Reaches env first ⟨[], .branch body others otherwise rest :: frames, s⟩)
    (hframes : frames <:+ first.frames) (s' : State) :
    Within env first (choose others otherwise rest frames s') := by
  cases others with
  | cons branch others =>
    obtain ⟨condition, body'⟩ := branch
    exact .condition hreach hframes
  | nil =>
    cases otherwise with
    | some body => exact .body rfl hframes
    | none => exact .back hframes

/-- The frames under the top one were on the pile from the start. -/
theorem Within.tail {first : Machine} {code : Program} {frame : Frame} {frames : List Frame}
    {s : State} (h : Within env first ⟨code, frame :: frames, s⟩) : frames <:+ first.frames := by
  cases h with
  | back hframes => exact (List.suffix_cons _ _).trans hframes
  | body _ hframes => exact hframes
  | condition _ hframes => exact hframes

/-- A move leads to where a machine can be. -/
theorem Unwinding.within {first : Machine} (h : Unwinding m m') (hreach : Reaches env first m)
    (hm : Within env first m) : Within env first m' := by
  cases h with
  | returned => exact .back hm.tail
  | left => exact .back hm.tail
  | taken _ => exact .body rfl hm.tail
  | passed _ => exact within_choose hreach hm.tail _
  | again _ => exact .body rfl hm.tail
  | done _ => exact .back hm.tail

/-- Every machine that is reached after a request to stop is where it can be. -/
theorem Reaches.within {first : Machine} (h : Reaches env first m)
    (hfirst : first.state.cancelled = true) : Within env first m := by
  have hinvariant := h.invariant (P := fun m => Reaches env first m ∧ Within env first m ∧
    m.state.cancelled = true) ?_ ⟨.refl first, .back (List.suffix_refl _), hfirst⟩
  · exact hinvariant.2.1
  · rintro m₁ m₂ ⟨hreach, hwithin, hcancelled⟩ hstep
    have hunwinding := unwinding_of_step hcancelled hstep
    exact ⟨hreach.snoc hstep, hunwinding.within hreach hwithin,
      hunwinding.state.cancelled.trans hcancelled⟩

/-! ## How it ends -/

/-- Whether something is left to be done that asks first: a statement begins, or a loop comes
round. -/
def Asks (m : Machine) : Prop :=
  m.code ≠ [] ∨ ∃ condition body rest frames, m.frames = .loopBody condition body rest :: frames

/-- How a run ends that started to unwind at `first`. -/
inductive Ends (env : Environment) (first : Machine) : Outcome → Prop where
  /-- What was left to be done was refused. -/
  | refused {m : Machine} :
      Reaches env first m → m.Asks →
        Ends env first (.failed (.of (.cancelled .requested)) m.state)
  /-- The outcome of a condition could not be taken off the stack. -/
  | undecided {frame : Frame} {frames : List Frame} {s : State} {problem : Failure} :
      Reaches env first ⟨[], frame :: frames, s⟩ → frame.isCondition = true →
        s.popBoolean = .error problem → Ends env first (.failed (locateIn frames problem) s)
  /-- Nothing was left to be done. -/
  | done {s : State} :
      Reaches env first ⟨[], [], s⟩ → (∀ m, Reaches env first m → ¬m.Asks) →
        Ends env first (.done s)

/-- How a run ends that goes on from a machine is how it ends for the machine before. -/
theorem Ends.of_running {first next : Machine} {o : Outcome} (h : Ends env next o)
    (hstep : first.step env = .running next) (hfirst : ¬first.Asks) : Ends env first o := by
  cases h with
  | refused hreach hasks => exact .refused (.next hstep hreach) hasks
  | undecided hreach hcondition hproblem =>
    exact .undecided (.next hstep hreach) hcondition hproblem
  | done hend hnone =>
    refine .done (.next hstep hend) fun m hreach => ?_
    cases hreach with
    | refl => exact hfirst
    | next hstep' hreach =>
      rw [hstep] at hstep'
      cases hstep'
      exact hnone m hreach

theorem Unwinding.not_asks (h : Unwinding m m') : ¬m.Asks := by
  rintro (hcode | ⟨condition, body, rest, frames, hframes⟩)
  · exact hcode h.code_eq_nil
  · exact h.frames_ne_loopBody condition body rest frames hframes

/-- The last step of a run that was asked to stop. -/
theorem ends_of_stopped {o : Outcome} (hm : m.state.cancelled = true)
    (h : m.step env = .stopped o) : Ends env m o := by
  obtain ⟨code, frames, s⟩ := m
  have hcheck : ∀ statement, env.check statement s = s.fail (.cancelled .requested) :=
    check_cancelled hm
  cases code with
  | cons statement rest =>
    simp only [step, begin, hcheck, State.fail, locateIn_cancelled] at h
    cases h
    exact .refused (.refl ⟨statement :: rest, frames, s⟩) (.inl (List.cons_ne_nil _ _))
  | nil =>
    cases frames with
    | nil =>
      cases h
      refine .done (.refl _) fun m hreach => ?_
      -- there is no other machine to be reached
      cases hreach with
      | refl =>
        rintro (hcode | ⟨_, _, _, _, hframes⟩)
        · exact hcode rfl
        · cases hframes
      | next hstep _ => cases hstep
    | cons frame frames =>
      cases frame with
      | call | chosen => cases h
      | loopBody condition body rest =>
        simp only [step, resume, hcheck, State.fail, locateIn_cancelled] at h
        cases h
        exact .refused (.refl ⟨[], .loopBody condition body rest :: frames, s⟩)
          (.inr ⟨condition, body, rest, frames, rfl⟩)
      | branch | loopCondition =>
        simp only [step, resume, decideBy] at h
        split at h
        · cases h
        · next problem hproblem =>
          cases h
          exact .undecided (.refl _) rfl hproblem

/-- A run that was asked to stop comes to an end, in one of the ways listed. Each step takes a value
off the stack, or else works off a frame. -/
theorem exists_ends (m : Machine) (hm : m.state.cancelled = true) :
    ∃ o, Stops env m o ∧ Ends env m o := by
  cases hstep : m.step env with
  | stopped o => exact ⟨o, .of_stopped hstep, ends_of_stopped hm hstep⟩
  | running m' =>
    have hunwinding := unwinding_of_step hm hstep
    obtain ⟨o, hstops, hends⟩ := exists_ends m' (hunwinding.state.cancelled.trans hm)
    exact ⟨o, .of_running hstep hstops, hends.of_running hstep hunwinding.not_asks⟩
termination_by (m.state.stack.length, m.frames.length)
decreasing_by
  rcases (unwinding_of_step hm hstep).shrinks with hstack | ⟨hstack, hframes⟩
  · exact Prod.Lex.left _ _ hstack
  · rw [hstack]
    exact Prod.Lex.right _ hframes

/-- The failures of a run that was asked to stop are reported as they are. -/
theorem Ends.report {o : Outcome} (h : Ends env m o) : o.report = o := by
  cases h with
  | refused _ _ => rfl
  | done _ _ => rfl
  | @undecided frame frames s problem _ _ hproblem =>
    obtain ⟨cause, rfl, hkind⟩ : ∃ cause, problem = .of cause ∧ cause.kind ≠ .recursion := by
      rcases State.popBoolean_eq_error hproblem with rfl | ⟨v, rfl⟩
      · exact ⟨_, rfl, by decide⟩
      · exact ⟨_, rfl, by simp [Cause.kind]⟩
    unfold locateIn Failure.of
    split <;> simp [Outcome.report, Failure.locate, Environment.reportDepth, hkind]

/-- The state that a run leaves that was asked to stop. -/
theorem Ends.unwinds {o : Outcome} (h : Ends env m o) (hm : m.state.cancelled = true) :
    m.state.Unwinds o.state := by
  cases h with
  | refused hreach _ => exact hreach.unwinds hm
  | undecided hreach _ _ => exact hreach.unwinds hm
  | done hreach _ => exact hreach.unwinds hm

end Machine

/-- After a command has asked the run to stop, and returned, nothing is done any more. The count of
steps, the variables, the output and all else but the stack stay as they are; off the stack come
truth values alone, as outcomes of conditions that were being evaluated, or that are empty. The
submission comes to an end: it is cancelled before the next statement begins or a loop comes round,
or the outcome of a condition is missing, or nothing was left to be done. -/
theorem cancelled_submission_unwinds {env : Environment} {program : Program} {s : State}
    {name : Text} {place : Location} {rest : Program} {frames : List Frame}
    {before begun after : State} {command : Command}
    (hreach : Machine.Reaches env (.start program { s with steps := 0 })
      ⟨.invoke name place :: rest, frames, before⟩)
    (hcheck : env.check (.invoke name place) before = .done begun)
    (hcommand : env.command? name = some command)
    (hreturn : command { begun with steps := begun.steps + 1 } = .done after)
    (hcancelled : after.cancelled = true) :
    (∀ m, Machine.Reaches env ⟨rest, frames, after⟩ m →
      after.Unwinds m.state ∧ Machine.Within env ⟨rest, frames, after⟩ m) ∧
    (∀ fuel, ∀ act ∈ (Machine.record env fuel ⟨rest, frames, after⟩).completed, act = .test) ∧
    ∃ fuel outcome, env.Finishes fuel program s outcome ∧ after.Unwinds outcome.state ∧
      Machine.Ends env ⟨rest, frames, after⟩ outcome := by
  have hstep : Machine.step env ⟨.invoke name place :: rest, frames, before⟩ =
      .running ⟨rest, frames, after⟩ := by
    simp only [Machine.step, Machine.begin, hcheck, Machine.execute, hcommand, hreturn]
  refine ⟨fun m hm => ⟨hm.unwinds hcancelled, hm.within hcancelled⟩,
    Machine.record_cancelled hcancelled, ?_⟩
  obtain ⟨o, hstops, hends⟩ :
      ∃ o, Machine.Stops env ⟨rest, frames, after⟩ o ∧ Machine.Ends env ⟨rest, frames, after⟩ o :=
    Machine.exists_ends ⟨rest, frames, after⟩ hcancelled
  obtain ⟨fuel, hrun⟩ := (hreach.snoc hstep).stops_iff.2 hstops
  exact ⟨fuel, o, ⟨o, hrun, hends.report.symm⟩, hends.unwinds hcancelled, hends⟩

/-! ## A request in the middle of a condition -/

/-- An environment in which every name is that of a command that asks the run to stop. -/
def stopping : Environment where
  command? _ := some fun s => .done { s with cancelled := true }
  limit := none
  checkpoint := .pass
  depth := 8

/-- A function that asks to stop at the end of a condition, and has something left to do. -/
def stopsInCondition : Program :=
  [.literal (.function
      [.conditional [.mk [.literal (.boolean true) ⟨1, 7⟩, .invoke "stop" ⟨1, 12⟩]
        [.literal (.int 1) ⟨1, 22⟩]] none]) ⟨1, 1⟩,
    .call none ⟨1, 30⟩]

/-- The state that the command finds when it runs. -/
def askedToStop : State :=
  { State.initial .discard with stack := [.boolean true], steps := 4 }

/-- The machine when the command has returned. -/
def unwindingCondition : Machine :=
  ⟨[], [.branch [.literal (.int 1) ⟨1, 22⟩] [] none [], .call ⟨1, 30⟩ []],
    { State.initial .discard with stack := [.boolean true], steps := 5, cancelled := true }⟩

theorem stopping_condition_unwinds :
    Machine.Reaches stopping (.start stopsInCondition { State.initial .discard with steps := 0 })
      ⟨[.invoke "stop" ⟨1, 12⟩], unwindingCondition.frames, askedToStop⟩ ∧
    (∀ m, Machine.Reaches stopping unwindingCondition m →
      unwindingCondition.state.Unwinds m.state ∧ Machine.Within stopping unwindingCondition m) ∧
    (∀ fuel, ∀ act ∈ (Machine.record stopping fuel unwindingCondition).completed, act = .test) ∧
    ∃ fuel outcome, stopping.Finishes fuel stopsInCondition (State.initial .discard) outcome ∧
      unwindingCondition.state.Unwinds outcome.state ∧
        Machine.Ends stopping unwindingCondition outcome := by
  have hreach : Machine.Reaches stopping
      (.start stopsInCondition { State.initial .discard with steps := 0 })
      ⟨[.invoke "stop" ⟨1, 12⟩], unwindingCondition.frames, askedToStop⟩ :=
    .next rfl (.next rfl (.next rfl (.next rfl (.refl _))))
  exact ⟨hreach, cancelled_submission_unwinds hreach rfl rfl rfl rfl⟩

end StackShell
