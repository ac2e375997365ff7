import StackShell.Proofs.Statements

/-!
# Runs

A run is a row of steps. `Reaches` says that one machine leads to another while it keeps running,
`Stops` that a machine comes to an outcome at all; neither depends on how long a run is waited for.
`Environment.Finishes` says the same of a whole submission, which starts its count of steps again.

`Move` lists everything that a step of a running machine can do. What a run keeps is proved from
what each move keeps.
-/

namespace StackShell

/-- An outcome as a whole submission reports it. -/
def Outcome.report : Outcome → Outcome
  | .done s => .done s
  | .failed failure s => .failed (Environment.reportDepth failure) s

theorem Outcome.report_state (o : Outcome) : o.report.state = o.state := by
  cases o <;> rfl

namespace Environment

/-- A check leaves the state as it is, unless it asks the checkpoint. -/
theorem check_state (env : Environment) (statement : Statement) (s : State) :
    (env.check statement s).state = s ∨ env.check statement s = env.checkpoint statement s := by
  unfold check
  split
  · exact .inl rfl
  · split
    · split
      · exact .inl rfl
      · exact .inr rfl
    · exact .inr rfl

/-- A check lets a statement pass if nobody asked to stop, the limit is not reached and the
checkpoint agrees. -/
theorem check_eq_done {env : Environment} {statement : Statement} {s s' : State}
    (h : env.check statement s = .done s') :
    env.checkpoint statement s = .done s' ∧ ∀ n, env.limit = some n → (s.steps : Int) < n := by
  unfold check at h
  split at h
  · cases h
  · split at h
    · next n hlimit =>
      split at h
      · cases h
      · next hbelow =>
        refine ⟨h, fun n' hn' => ?_⟩
        rw [hlimit] at hn'
        cases hn'
        omega
    · next hlimit =>
      refine ⟨h, fun n' hn' => ?_⟩
      rw [hlimit] at hn'
      cases hn'

end Environment

namespace Machine

/-- What becomes of a statement that was begun. -/
def executed (statement : Statement) (frames : List Frame) :
    Except (Failure × State) Machine → Progress
  | .ok m => .running m
  | .error (failure, s) => .stopped (.failed (locate statement frames failure) s)

theorem begin_of_check {env : Environment} {statement : Statement} {s s' : State}
    (h : env.check statement s = .done s') (rest : Program) (frames : List Frame) :
    begin env statement rest frames s =
      executed statement frames
        (execute env statement rest frames { s' with steps := s'.steps + 1 }) := by
  simp only [begin, h]
  cases execute env statement rest frames { s' with steps := s'.steps + 1 } <;> rfl

theorem begin_of_check_failed {env : Environment} {statement : Statement} {s s' : State}
    {failure : Failure} (h : env.check statement s = .failed failure s') (rest : Program)
    (frames : List Frame) :
    begin env statement rest frames s = .stopped (.failed (locateIn frames failure) s') := by
  simp only [begin, h]

/-- One machine leads to another, which is still running. -/
inductive Reaches (env : Environment) : Machine → Machine → Prop where
  | refl (m : Machine) : Reaches env m m
  | next {m m' m'' : Machine} :
      m.step env = .running m' → Reaches env m' m'' → Reaches env m m''

/-- A machine comes to an outcome. -/
def Stops (env : Environment) (m : Machine) (outcome : Outcome) : Prop :=
  ∃ fuel, m.run env fuel = some outcome

/-- A step that keeps the machine running leaves the rest of the run to the machine it leads to. -/
theorem run_succ_of_running {env : Environment} {m m' : Machine} (h : m.step env = .running m')
    (fuel : Nat) : m.run env (fuel + 1) = m'.run env fuel := by
  simp only [run, h]

/-- A step that stops the machine ends the run. -/
theorem run_succ_of_stopped {env : Environment} {m : Machine} {outcome : Outcome}
    (h : m.step env = .stopped outcome) (fuel : Nat) : m.run env (fuel + 1) = some outcome := by
  simp only [run, h]

/-- Waiting longer does not change an outcome. -/
theorem run_mono {env : Environment} {fuel fuel' : Nat} (hle : fuel ≤ fuel') {m : Machine}
    {outcome : Outcome} (h : m.run env fuel = some outcome) :
    m.run env fuel' = some outcome := by
  induction fuel generalizing fuel' m with
  | zero => simp [run] at h
  | succ fuel ih =>
    obtain ⟨extra, rfl⟩ : ∃ extra, fuel' = extra + 1 := ⟨fuel' - 1, by omega⟩
    cases hstep : m.step env with
    | running m' =>
      rw [run_succ_of_running hstep] at h ⊢
      exact ih (by omega) h
    | stopped o =>
      rw [run_succ_of_stopped hstep] at h ⊢
      exact h

/-- A machine comes to one outcome only. -/
theorem Stops.unique {env : Environment} {m : Machine} {o o' : Outcome} (h : Stops env m o)
    (h' : Stops env m o') : o = o' := by
  obtain ⟨fuel, h⟩ := h
  obtain ⟨fuel', h'⟩ := h'
  -- the longer wait sees the outcome of the shorter one
  rcases Nat.le_total fuel fuel' with hle | hle
  · rw [run_mono hle h] at h'
    cases h'
    rfl
  · rw [run_mono hle h'] at h
    cases h
    rfl

theorem Stops.of_stopped {env : Environment} {m : Machine} {o : Outcome}
    (h : m.step env = .stopped o) : Stops env m o :=
  ⟨1, run_succ_of_stopped h 0⟩

theorem Stops.of_running {env : Environment} {m m' : Machine} {o : Outcome}
    (h : m.step env = .running m') (hstops : Stops env m' o) : Stops env m o := by
  obtain ⟨fuel, hrun⟩ := hstops
  exact ⟨fuel + 1, by rw [run_succ_of_running h, hrun]⟩

theorem Reaches.single {env : Environment} {m m' : Machine} (h : m.step env = .running m') :
    Reaches env m m' :=
  .next h (.refl m')

theorem stops_iff_of_running {env : Environment} {m m' : Machine} {o : Outcome}
    (h : m.step env = .running m') : Stops env m o ↔ Stops env m' o := by
  refine ⟨?_, .of_running h⟩
  rintro ⟨fuel, hrun⟩
  cases fuel with
  | zero => simp [run] at hrun
  | succ fuel =>
    rw [run_succ_of_running h] at hrun
    exact ⟨fuel, hrun⟩

/-- What a machine comes to is what the machines it leads to come to. -/
theorem Reaches.stops_iff {env : Environment} {m m' : Machine} {o : Outcome}
    (h : Reaches env m m') : Stops env m o ↔ Stops env m' o := by
  induction h with
  | refl => exact Iff.rfl
  | next hstep _ ih => exact (stops_iff_of_running hstep).trans ih

/-- Every outcome is that of the last step of the run. -/
theorem Stops.last {env : Environment} {m : Machine} {o : Outcome} (h : Stops env m o) :
    ∃ m', Reaches env m m' ∧ m'.step env = .stopped o := by
  obtain ⟨fuel, h⟩ := h
  induction fuel generalizing m with
  | zero => simp [run] at h
  | succ fuel ih =>
    cases hstep : m.step env with
    | running m' =>
      rw [run_succ_of_running hstep] at h
      obtain ⟨last, hreach, hlast⟩ := ih h
      exact ⟨last, .next hstep hreach, hlast⟩
    | stopped o' =>
      rw [run_succ_of_stopped hstep] at h
      cases h
      exact ⟨m, .refl m, hstep⟩

/-- What holds of a machine and is kept by each step holds of every machine it leads to. -/
theorem Reaches.invariant {env : Environment} {P : Machine → Prop}
    (hkeeps : ∀ m m', P m → m.step env = .running m' → P m') {m m' : Machine}
    (h : Reaches env m m') (hm : P m) : P m' := by
  induction h with
  | refl => exact hm
  | next hstep _ ih => exact ih (hkeeps _ _ hm hstep)

/-- A cancellation is given no place. -/
theorem locateIn_cancelled (frames : List Frame) (reason : Stop) :
    locateIn frames (.of (.cancelled reason)) = .of (.cancelled reason) := by
  unfold locateIn
  split <;> rfl

/-! ## What a step can do -/

/-- Everything that a step of a machine that keeps running can do. -/
inductive Move (env : Environment) : Machine → Machine → Prop where
  | begin {statement : Statement} {rest : Program} {frames : List Frame} {s s' : State}
      {m : Machine} :
      env.check statement s = .done s' →
        Begins env rest frames { s' with steps := s'.steps + 1 } statement m →
          Move env ⟨statement :: rest, frames, s⟩ m
  | returned (place : Location) (rest : Program) (frames : List Frame) (s : State) :
      Move env ⟨[], .call place rest :: frames, s⟩ ⟨rest, frames, s⟩
  | left (rest : Program) (frames : List Frame) (s : State) :
      Move env ⟨[], .chosen rest :: frames, s⟩ ⟨rest, frames, s⟩
  | taken {body rest : Program} {others : List Branch} {otherwise : Option Program}
      {frames : List Frame} {s : State} {stack : List Value} :
      s.stack = .boolean true :: stack →
        Move env ⟨[], .branch body others otherwise rest :: frames, s⟩
          ⟨body, .chosen rest :: frames, { s with stack }⟩
  | passed {body rest : Program} {others : List Branch} {otherwise : Option Program}
      {frames : List Frame} {s : State} {stack : List Value} :
      s.stack = .boolean false :: stack →
        Move env ⟨[], .branch body others otherwise rest :: frames, s⟩
          (choose others otherwise rest frames { s with stack })
  | again {condition body rest : Program} {frames : List Frame} {s : State}
      {stack : List Value} :
      s.stack = .boolean true :: stack →
        Move env ⟨[], .loopCondition condition body rest :: frames, s⟩
          ⟨body, .loopBody condition body rest :: frames, { s with stack }⟩
  | done {condition body rest : Program} {frames : List Frame} {s : State}
      {stack : List Value} :
      s.stack = .boolean false :: stack →
        Move env ⟨[], .loopCondition condition body rest :: frames, s⟩
          ⟨rest, frames, { s with stack }⟩
  | round {condition body rest : Program} {frames : List Frame} {s s' : State} :
      env.check (.whileLoop condition body) s = .done s' →
        Move env ⟨[], .loopBody condition body rest :: frames, s⟩
          ⟨condition, .loopCondition condition body rest :: frames, s'⟩

/-- A step that takes the outcome of a condition goes on with the rest of the stack. -/
theorem decideBy_eq_running {frames : List Frame} {s : State} {next : Bool → State → Machine}
    {m : Machine} (h : decideBy frames s next = .running m) :
    ∃ b stack, s.stack = .boolean b :: stack ∧ m = next b { s with stack } := by
  unfold decideBy at h
  split at h
  · next b s' hpop =>
    cases h
    obtain ⟨stack, hstack, rfl⟩ := State.popBoolean_eq_ok hpop
    exact ⟨b, stack, hstack, rfl⟩
  · cases h

/-- Every step of a machine that keeps running is a move. -/
theorem move_of_step {env : Environment} {m m' : Machine} (h : m.step env = .running m') :
    Move env m m' := by
  obtain ⟨code, frames, s⟩ := m
  cases code with
  | cons statement rest =>
    simp only [step, begin] at h
    split at h
    · cases h
    · next s' hcheck =>
      split at h
      · next m'' hexecute =>
        cases h
        exact .begin hcheck (begins_of_execute hexecute)
      · cases h
  | nil =>
    cases frames with
    | nil => cases h
    | cons frame frames =>
      cases frame with
      | call place rest =>
        cases h
        exact .returned place rest frames s
      | chosen rest =>
        cases h
        exact .left rest frames s
      | branch body others otherwise rest =>
        obtain ⟨b, stack, hstack, rfl⟩ := decideBy_eq_running h
        cases b with
        | true => exact .taken hstack
        | false => exact .passed hstack
      | loopCondition condition body rest =>
        obtain ⟨b, stack, hstack, rfl⟩ := decideBy_eq_running h
        cases b with
        | true => exact .again hstack
        | false => exact .done hstack
      | loopBody condition body rest =>
        simp only [step, resume] at h
        split at h
        · cases h
        · next s' hcheck =>
          cases h
          exact .round hcheck

end Machine

namespace Environment

/-- A program that is submitted on a state comes to the outcome, as it is reported, within `fuel`
steps of the machine. -/
def Finishes (env : Environment) (fuel : Nat) (program : Program) (s : State)
    (outcome : Outcome) : Prop :=
  ∃ raw, (Machine.start program { s with steps := 0 }).run env fuel = some raw ∧
    outcome = raw.report

/-- A submission that finishes gives its outcome. -/
theorem Finishes.submit_eq {env : Environment} {fuel : Nat} {program : Program} {s : State}
    {outcome : Outcome} (h : env.Finishes fuel program s outcome) :
    env.submit fuel program s = outcome := by
  obtain ⟨raw, hrun, rfl⟩ := h
  simp only [submit, exec, hrun]
  cases raw <;> rfl

/-- A submission that is given up fails in the state that it started on. -/
theorem submit_of_run_eq_none {env : Environment} {fuel : Nat} {program : Program} {s : State}
    (h : (Machine.start program { s with steps := 0 }).run env fuel = none) :
    env.submit fuel program s = .failed (.fault .unfinished) { s with steps := 0 } := by
  simp only [submit, exec, h]
  rfl

/-- A submission leaves the state that its run comes to. One that is given up leaves the state that
it started on. -/
theorem submit_state (env : Environment) (fuel : Nat) (program : Program) (s : State) :
    (env.submit fuel program s).state = { s with steps := 0 } ∨
      ∃ o, Machine.Stops env (Machine.start program { s with steps := 0 }) o ∧
        (env.submit fuel program s).state = o.state := by
  cases hrun : (Machine.start program { s with steps := 0 }).run env fuel with
  | none =>
    left
    rw [submit_of_run_eq_none hrun]
    rfl
  | some raw =>
    right
    have hfinishes : env.Finishes fuel program s raw.report := ⟨raw, hrun, rfl⟩
    rw [hfinishes.submit_eq, raw.report_state]
    exact ⟨raw, ⟨fuel, hrun⟩, rfl⟩

end Environment

end StackShell
