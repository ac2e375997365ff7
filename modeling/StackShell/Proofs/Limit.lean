import StackShell.Proofs.Acts

/-!
# The limit of steps

Under a limit every run comes to an end, and at no moment has it begun more statements than the
limit allows. A step that begins a statement uses up one of the statements that are left. A step
that begins none takes a truth value off the stack, or works off a frame; so a loop with nothing in
it, which begins no statement, ends when the stack is empty.

A run under a limit is the run without one, cut off at the first check that finds the limit reached.
-/

namespace StackShell

/-- The host's part of a run leaves the count of steps to the machine. -/
structure Environment.KeepsCount (env : Environment) : Prop where
  commands : ∀ name command, env.command? name = some command →
    ∀ s, (command s).state.steps = s.steps
  checkpoint : ∀ statement s, (env.checkpoint statement s).state.steps = s.steps

/-- The checkpoint puts nothing on the stack. -/
def Environment.CheckpointAddsNothing (env : Environment) : Prop :=
  ∀ statement s, (env.checkpoint statement s).state.stack.length ≤ s.stack.length

/-! ## Checks -/

namespace Environment

/-- A check leaves the count of steps alone. -/
theorem KeepsCount.check {env : Environment} (hkeeps : env.KeepsCount) (statement : Statement)
    (s : State) : (env.check statement s).state.steps = s.steps := by
  rcases env.check_state statement s with h | h
  · rw [h]
  · rw [h]
    exact hkeeps.checkpoint statement s

end Environment

/-! ## The count of steps -/

section Count

variable {env : Environment} (hkeeps : env.KeepsCount)
include hkeeps

/-- An elementary act leaves the count of steps alone. -/
theorem Act.perform_steps {act : Act} (helementary : act.isElementary) (s : State) :
    (act.perform env s).state.steps = s.steps := by
  rcases Act.perform_frame env helementary s with
    ⟨name, command, rfl, hcommand⟩ | ⟨stack, bindings, h⟩
  · simp only [perform, hcommand]
    exact hkeeps.commands name command hcommand s
  · rw [h]

/-- An act never lowers the count of steps. -/
theorem Act.steps_le_perform (act : Act) (s : State) :
    s.steps ≤ (act.perform env s).state.steps := by
  by_cases helementary : act.isElementary
  · exact Nat.le_of_eq (Act.perform_steps hkeeps helementary s).symm
  · cases act with
    | start statement =>
      have hcount := hkeeps.check statement s
      simp only [perform]
      split
      · next s' hcheck =>
        rw [hcheck] at hcount
        simp only [Outcome.state] at hcount ⊢
        omega
      · next failure s' hcheck =>
        rw [hcheck] at hcount
        exact Nat.le_of_eq hcount.symm
    | round loop => exact Nat.le_of_eq (hkeeps.check loop s).symm
    | _ => exact absurd rfl helementary

/-- No act counts a statement beyond the limit. -/
theorem Act.perform_steps_le {n : Int} (hlimit : env.limit = some n) (act : Act) (s : State)
    (h : s.steps ≤ n.toNat) : (act.perform env s).state.steps ≤ n.toNat := by
  by_cases helementary : act.isElementary
  · rw [Act.perform_steps hkeeps helementary]
    exact h
  · cases act with
    | start statement =>
      have hcount := hkeeps.check statement s
      simp only [perform]
      split
      · next s' hcheck =>
        rw [hcheck] at hcount
        -- the check has passed, so that there is room for one more
        have hbelow := (Environment.check_eq_done hcheck).2 n hlimit
        simp only [Outcome.state] at hcount ⊢
        omega
      · next failure s' hcheck =>
        rw [hcheck] at hcount
        simp only [Outcome.state] at hcount ⊢
        omega
    | round loop =>
      have hcount := hkeeps.check loop s
      simp only [perform]
      omega
    | _ => exact absurd rfl helementary

end Count

/-! ## Every step uses something up -/

/-- How much is left to do with a frame: the body of a loop is followed by its condition. -/
def Frame.weight : Frame → Nat
  | .loopBody .. => 2
  | _ => 1

/-- How much is left to do with the frames of a machine. -/
def Machine.pending (m : Machine) : Nat :=
  m.frames.foldr (fun frame rest => frame.weight + rest) 0

namespace Machine

/-- A statement that has begun leaves the count of steps alone. -/
theorem Begins.steps {env : Environment} (hkeeps : env.KeepsCount) {rest : Program}
    {frames : List Frame} {s : State} {statement : Statement} {m : Machine}
    (h : Begins env rest frames s statement m) : m.state.steps = s.steps := by
  cases h with
  | invoke place hcommand hdone =>
    have hcount := hkeeps.commands _ _ hcommand s
    rw [hdone] at hcount
    exact hcount
  | conditional branches otherwise => rw [choose_state]
  | _ => rfl

/-- A step that keeps the machine running counts a statement, or else takes a value off the stack,
or else works off a frame without adding to the stack. -/
theorem Move.progress {env : Environment} (hkeeps : env.KeepsCount)
    (hadds : env.CheckpointAddsNothing) {m m' : Machine} (h : Move env m m') :
    m'.state.steps = m.state.steps + 1 ∨
      m'.state.steps = m.state.steps ∧
        (m'.state.stack.length < m.state.stack.length ∨
          m'.state.stack.length ≤ m.state.stack.length ∧ m'.pending < m.pending) := by
  cases h with
  | @begin statement rest frames s s' m hcheck hbegins =>
    left
    have hcount := hkeeps.check statement s
    rw [hcheck] at hcount
    rw [hbegins.steps hkeeps]
    exact congrArg (· + 1) hcount
  | returned place rest frames s =>
    right
    refine ⟨rfl, .inr ⟨Nat.le_refl _, ?_⟩⟩
    simp [pending, Frame.weight]
  | left rest frames s =>
    right
    refine ⟨rfl, .inr ⟨Nat.le_refl _, ?_⟩⟩
    simp [pending, Frame.weight]
  | taken hstack =>
    right
    refine ⟨rfl, .inl ?_⟩
    rw [hstack]
    exact Nat.lt_succ_self _
  | passed hstack =>
    right
    rw [choose_state]
    refine ⟨rfl, .inl ?_⟩
    rw [hstack]
    exact Nat.lt_succ_self _
  | again hstack =>
    right
    refine ⟨rfl, .inl ?_⟩
    rw [hstack]
    exact Nat.lt_succ_self _
  | done hstack =>
    right
    refine ⟨rfl, .inl ?_⟩
    rw [hstack]
    exact Nat.lt_succ_self _
  | @round condition body rest frames s s' hcheck =>
    right
    have hcount := hkeeps.check (.whileLoop condition body) s
    have hlength := hadds (.whileLoop condition body) s
    rw [hcheck] at hcount
    rw [(Environment.check_eq_done hcheck).1] at hlength
    refine ⟨hcount, .inr ⟨hlength, ?_⟩⟩
    -- the frame stays, but it waits for the condition now, which weighs less
    simp [pending, Frame.weight]

/-- Under a limit every machine stops. The statements that are left come first in the measure, then
the depth of the stack, then the frames. -/
theorem exists_stops {env : Environment} (hkeeps : env.KeepsCount)
    (hadds : env.CheckpointAddsNothing) {n : Int} (hlimit : env.limit = some n) (m : Machine)
    (hm : m.state.steps ≤ n.toNat) : ∃ o, Stops env m o := by
  cases hstep : m.step env with
  | stopped o => exact ⟨o, .of_stopped hstep⟩
  | running m' =>
    have hm' := (Reaches.single hstep).keeps
      (P := fun s => s.steps ≤ n.toNat) (Act.perform_steps_le hkeeps hlimit) hm
    obtain ⟨o, ho⟩ := exists_stops hkeeps hadds hlimit m' hm'
    exact ⟨o, .of_running hstep ho⟩
termination_by (n.toNat - m.state.steps, m.state.stack.length, m.pending)
decreasing_by
  rcases (move_of_step hstep).progress hkeeps hadds with hcount | ⟨hcount, hpop | ⟨hlength, hframe⟩⟩
  · exact Prod.Lex.left _ _ (by omega)
  · rw [hcount]
    exact Prod.Lex.right _ (Prod.Lex.left _ _ hpop)
  · rw [hcount]
    rcases Nat.lt_or_eq_of_le hlength with hpop | hsame
    · exact Prod.Lex.right _ (Prod.Lex.left _ _ hpop)
    · rw [hsame]
      exact Prod.Lex.right _ (Prod.Lex.right _ hframe)

/-! ## Parts under way -/

theorem length_frames_choose (branches : List Branch) (otherwise : Option Program)
    (rest : Program) (frames : List Frame) (s : State) :
    (choose branches otherwise rest frames s).frames.length ≤ frames.length + 1 := by
  unfold choose
  split
  · exact Nat.le_refl _
  · exact Nat.le_refl _
  · exact Nat.le_succ _

/-- A statement that has begun puts at most one more part of a program under way. -/
theorem Begins.length_frames_le {env : Environment} {rest : Program} {frames : List Frame}
    {s : State} {statement : Statement} {m : Machine} (h : Begins env rest frames s statement m) :
    m.frames.length ≤ frames.length + 1 := by
  cases h with
  | callTop | callNamed | whileLoop => exact Nat.le_refl _
  | conditional branches otherwise => exact length_frames_choose branches otherwise rest frames _
  | _ => exact Nat.le_succ _

/-- Every part of a program under way was put there by a statement that has been counted. -/
theorem Move.length_frames_le_steps {env : Environment} (hkeeps : env.KeepsCount)
    {m m' : Machine} (h : Move env m m') (hm : m.frames.length ≤ m.state.steps) :
    m'.frames.length ≤ m'.state.steps := by
  cases h with
  | @begin statement rest frames s s' m hcheck hbegins =>
    have hcount := hkeeps.check statement s
    rw [hcheck] at hcount
    have hone := hbegins.length_frames_le
    rw [hbegins.steps hkeeps]
    simp only [Outcome.state] at hcount hm ⊢
    omega
  | returned | left | done => exact Nat.le_of_succ_le hm
  | @passed body rest others otherwise frames s stack hstack =>
    rw [choose_state]
    exact Nat.le_trans (length_frames_choose others otherwise rest frames _) hm
  | @round condition body rest frames s s' hcheck =>
    have hcount := hkeeps.check (.whileLoop condition body) s
    rw [hcheck] at hcount
    simp only [Outcome.state] at hcount
    rw [hcount]
    exact hm
  | _ => exact hm

end Machine

/-- A limit of steps stops every program: the submission comes to an end, and at no moment, not
even between the acts of a step, does the count of steps exceed the limit. Nor do parts of programs
nest deeper than the count, so that a bound on their depth that lies above the limit ends no run. -/
theorem limited_submission_ends {env : Environment} (hkeeps : env.KeepsCount)
    (hadds : env.CheckpointAddsNothing) {n : Nat} (hlimit : env.limit = some (n : Int))
    (program : Program) (s : State) :
    (∃ fuel outcome, env.Finishes fuel program s outcome ∧ outcome.state.steps ≤ n) ∧
      ∀ m, Machine.Reaches env (Machine.start program { s with steps := 0 }) m →
        (∀ k, (Trial.of env (m.acts.take k) m.state).outcome.state.steps ≤ n) ∧
          m.frames.length ≤ m.state.steps := by
  have hacts := fun act s => Act.perform_steps_le hkeeps hlimit act s
  rw [Int.toNat_natCast] at hacts
  constructor
  · obtain ⟨raw, fuel, hrun⟩ := Machine.exists_stops hkeeps hadds hlimit
      (Machine.start program { s with steps := 0 }) (Nat.zero_le _)
    refine ⟨fuel, raw.report, ⟨raw, hrun, rfl⟩, ?_⟩
    rw [raw.report_state]
    exact Machine.Stops.keeps hacts ⟨fuel, hrun⟩ (Nat.zero_le n)
  · intro m hreach
    have hm := hreach.keeps hacts (Nat.zero_le n)
    refine ⟨fun k => Trial.keeps (fun act _ => hacts act) hm, ?_⟩
    refine hreach.invariant (P := fun m => m.frames.length ≤ m.state.steps)
      (fun m₁ m₂ h₁ hstep => ?_) (Nat.le_refl 0)
    exact (Machine.move_of_step hstep).length_frames_le_steps hkeeps h₁

/-- An environment without commands and without a checkpoint. -/
def bare (limit : Option Int) : Environment where
  command? _ := none
  limit := limit
  checkpoint := .pass
  depth := 100

theorem bare_keepsCount (limit : Option Int) : (bare limit).KeepsCount where
  commands name command h := by cases h
  checkpoint statement s := rfl

/-- A function that calls itself after a loop with nothing in it. -/
def endless : Program :=
  [.define (some "again") [.whileLoop [] [], .call (some "again") ⟨1, 20⟩],
    .call (some "again") ⟨2, 1⟩]

/-- Three truth values for the loop to take. -/
def threeTruths : State :=
  { State.initial .discard with stack := [.boolean true, .boolean true, .boolean false] }

theorem endless_ends_within_four :
    (bare (some 4)).KeepsCount ∧ (bare (some 4)).CheckpointAddsNothing ∧
    (∃ fuel outcome, (bare (some 4)).Finishes fuel endless threeTruths outcome ∧
      outcome.state.steps ≤ 4) ∧
      ∀ m, Machine.Reaches (bare (some 4))
          (Machine.start endless { threeTruths with steps := 0 }) m →
        (∀ k, (Trial.of (bare (some 4)) (m.acts.take k) m.state).outcome.state.steps ≤ 4) ∧
          m.frames.length ≤ m.state.steps := by
  have hkeeps := bare_keepsCount (some 4)
  have hadds : (bare (some 4)).CheckpointAddsNothing := fun _ _ => Nat.le_refl _
  exact ⟨hkeeps, hadds,
    limited_submission_ends (n := 4) hkeeps hadds rfl endless threeTruths⟩

/-! ## A limited run is a prefix of the unlimited one -/

namespace Environment

/-- The environment with another limit. -/
def limitedTo (env : Environment) (limit : Option Int) : Environment :=
  { env with limit }

/-- A limit makes a difference to a check only where it is reached. -/
theorem check_limitedTo (env : Environment) (n : Int) (statement : Statement) (s : State) :
    (env.limitedTo (some n)).check statement s = (env.limitedTo none).check statement s ∨
      s.cancelled = false ∧ n ≤ s.steps ∧
        (env.limitedTo (some n)).check statement s = s.fail (.cancelled (.limit n)) := by
  simp only [check, limitedTo]
  split
  · exact .inl rfl
  · next hunasked =>
    split
    · next hreached => exact .inr ⟨Bool.eq_false_iff.2 hunasked, hreached, rfl⟩
    · exact .inl rfl

end Environment

namespace Machine

/-- A machine that asks whether it may go on, and that nobody has asked to stop. -/
inductive AtCheck : Machine → Prop where
  /-- A statement is to begin. -/
  | statement (statement : Statement) (rest : Program) (frames : List Frame) {s : State} :
      s.cancelled = false → AtCheck ⟨statement :: rest, frames, s⟩
  /-- A loop is to come round. -/
  | round (condition body rest : Program) (frames : List Frame) {s : State} :
      s.cancelled = false → AtCheck ⟨[], .loopBody condition body rest :: frames, s⟩

/-- A limit makes a difference to a step only where it is reached at a check, and then it stops the
machine before the step has changed anything. -/
theorem step_limitedTo (env : Environment) (n : Int) (m : Machine) :
    m.step (env.limitedTo (some n)) = m.step (env.limitedTo none) ∨
      m.AtCheck ∧ n ≤ m.state.steps ∧
        m.step (env.limitedTo (some n)) =
          .stopped (.failed (.of (.cancelled (.limit n))) m.state) := by
  obtain ⟨code, frames, s⟩ := m
  -- only the beginning of a statement and a loop that comes round are checked
  cases code with
  | cons statement rest =>
    rcases env.check_limitedTo n statement s with hsame | ⟨hunasked, hreached, hcheck⟩
    · left
      simp only [step, begin, hsame]
      rfl
    · right
      refine ⟨.statement statement rest frames hunasked, hreached, ?_⟩
      simp only [step, begin, hcheck, State.fail, locateIn_cancelled]
  | nil =>
    cases frames with
    | nil => exact .inl rfl
    | cons frame frames =>
      cases frame with
      | loopBody condition body rest =>
        rcases env.check_limitedTo n (.whileLoop condition body) s with
          hsame | ⟨hunasked, hreached, hcheck⟩
        · left
          simp only [step, resume, hsame]
        · right
          refine ⟨.round condition body rest frames hunasked, hreached, ?_⟩
          simp only [step, resume, hcheck, State.fail, locateIn_cancelled]
      | _ => exact .inl rfl

/-- What a limited machine comes to is what the unlimited one comes to, or the limit stops it at a
machine that the unlimited one reaches. -/
theorem Stops.of_limitedTo {env : Environment} {n : Int} {m : Machine} {o : Outcome}
    (h : Stops (env.limitedTo (some n)) m o) :
    Stops (env.limitedTo none) m o ∨
      ∃ m', Reaches (env.limitedTo none) m m' ∧ n ≤ m'.state.steps ∧
        o = .failed (.of (.cancelled (.limit n))) m'.state := by
  obtain ⟨fuel, h⟩ := h
  induction fuel generalizing m with
  | zero => simp [run] at h
  | succ fuel ih =>
    rcases step_limitedTo env n m with hsame | ⟨-, hreached, hstop⟩
    · cases hstep : m.step (env.limitedTo none) with
      | stopped o' =>
        rw [run_succ_of_stopped (hsame.trans hstep)] at h
        cases h
        exact .inl (.of_stopped hstep)
      | running m₁ =>
        rw [run_succ_of_running (hsame.trans hstep)] at h
        rcases ih h with hstops | ⟨m', hreach, hrest⟩
        · exact .inl (.of_running hstep hstops)
        · exact .inr ⟨m', .next hstep hreach, hrest⟩
    · rw [run_succ_of_stopped hstop] at h
      cases h
      exact .inr ⟨m, .refl m, hreached, rfl⟩

end Machine

/-- A submission under a limit comes to the very outcome of the same submission without one, state
and count included, or it is cancelled in a state that the unlimited run passes through when its
count is the limit (or zero, below which no count can be). It is not cancelled where the unlimited
run ends with fewer steps. A command is given the state alone: it cannot see the limit, and it is to
leave the count alone. -/
theorem limited_submission_is_cut {env : Environment} (hcheckpoint : env.checkpoint = .pass)
    (hcommands : ∀ name command, env.command? name = some command →
      ∀ s, (command s).state.steps = s.steps)
    (n : Int) (program : Program) (s : State) :
    ∃ fuel outcome, (env.limitedTo (some n)).Finishes fuel program s outcome ∧
      ((∃ fuel', (env.limitedTo none).Finishes fuel' program s outcome) ∨
        ∃ m, Machine.Reaches (env.limitedTo none) (Machine.start program { s with steps := 0 }) m ∧
          m.state.steps = n.toNat ∧
          outcome = .failed (.of (.cancelled (.limit n))) m.state) ∧
      ∀ fuel' outcome', (env.limitedTo none).Finishes fuel' program s outcome' →
        (outcome'.state.steps : Int) < n → outcome' = outcome := by
  have hkeeps : ∀ limit, (env.limitedTo limit).KeepsCount := fun limit =>
    ⟨hcommands, fun statement s => by
      show (env.checkpoint statement s).state.steps = s.steps
      rw [hcheckpoint]
      rfl⟩
  have hadds : (env.limitedTo (some n)).CheckpointAddsNothing := by
    intro statement s
    show (env.checkpoint statement s).state.stack.length ≤ s.stack.length
    rw [hcheckpoint]
    exact Nat.le_refl _
  obtain ⟨raw, hstops⟩ := Machine.exists_stops (hkeeps (some n)) hadds rfl
    (Machine.start program { s with steps := 0 }) (Nat.zero_le _)
  have hlimit : raw.state.steps ≤ n.toNat :=
    hstops.keeps (P := fun s => s.steps ≤ n.toNat)
      (Act.perform_steps_le (hkeeps (some n)) rfl) (Nat.zero_le _)
  obtain ⟨fuel, hrun⟩ := hstops
  refine ⟨fuel, raw.report, ⟨raw, hrun, rfl⟩, ?_⟩
  rcases Machine.Stops.of_limitedTo ⟨fuel, hrun⟩ with ⟨fuel', hrun'⟩ | ⟨m, hreach, hreached, rfl⟩
  · refine ⟨.inl ⟨fuel', raw, hrun', rfl⟩, ?_⟩
    rintro fuel'' outcome' ⟨raw', hrun'', rfl⟩ -
    rw [Machine.Stops.unique ⟨fuel'', hrun''⟩ ⟨fuel', hrun'⟩]
  · simp only [Outcome.state] at hlimit
    refine ⟨.inr ⟨m, hreach, by omega, rfl⟩, ?_⟩
    rintro fuel'' outcome' ⟨raw', hrun'', rfl⟩ hfewer
    -- the unlimited run passes through `m`, and its count never falls
    have hlater := (hreach.stops_iff.1 ⟨fuel'', hrun''⟩).keeps
      (P := fun s => m.state.steps ≤ s.steps)
      (fun act s h => Nat.le_trans h (Act.steps_le_perform (hkeeps none) act s)) (Nat.le_refl _)
    rw [raw'.report_state] at hfewer
    omega

theorem endless_is_cut_at_four :
    (bare none).checkpoint = .pass ∧
    ∃ fuel outcome, ((bare none).limitedTo (some 4)).Finishes fuel endless threeTruths outcome ∧
      ((∃ fuel', ((bare none).limitedTo none).Finishes fuel' endless threeTruths outcome) ∨
        ∃ m, Machine.Reaches ((bare none).limitedTo none)
            (Machine.start endless { threeTruths with steps := 0 }) m ∧
          m.state.steps = 4 ∧
          outcome = .failed (.of (.cancelled (.limit 4))) m.state) ∧
      ∀ fuel' outcome', ((bare none).limitedTo none).Finishes fuel' endless threeTruths outcome' →
        (outcome'.state.steps : Int) < 4 → outcome' = outcome :=
  ⟨rfl, limited_submission_is_cut rfl (bare_keepsCount none).commands 4 endless threeTruths⟩

end StackShell
