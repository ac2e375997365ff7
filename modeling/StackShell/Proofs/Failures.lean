import StackShell.Proofs.Runs

/-!
# Why a run fails

The failure of a step is that of a check, of a statement that has begun, or of a condition whose
outcome cannot be taken off the stack; all that happens to it on the way out is that it may be given
a place. What holds of all these failures, and does not depend on places, holds of the failure of
every submission (`failure_of_submit`).
-/

namespace StackShell

/-- The failure, or the failure with a place. -/
inductive Failure.Located (raw : Failure) : Failure → Prop where
  | same : Located raw raw
  | placed (place : Location) : Located raw (raw.locate place)

namespace Failure.Located

variable {raw failure : Failure}

theorem locateIn (raw : Failure) (frames : List Frame) : raw.Located (locateIn frames raw) := by
  unfold StackShell.locateIn
  split
  · exact .placed _
  · exact .same

/-- Giving a place changes neither the cause of a failure nor a fault. -/
theorem eq (h : raw.Located failure) :
    failure = raw ∨ ∃ cause place place', raw = .script cause place ∧
      failure = .script cause place' := by
  cases h with
  | same => exact .inl rfl
  | placed place =>
    unfold Failure.locate
    split
    · exact .inr ⟨_, _, _, rfl, rfl⟩
    · exact .inl rfl

end Failure.Located

namespace Machine

/-- Where the failure of a step comes from. -/
inductive Raises (env : Environment) : Machine → Failure → Prop where
  | check {statement : Statement} {rest : Program} {frames : List Frame} {s s' : State}
      {failure : Failure} :
      env.check statement s = .failed failure s' →
        Raises env ⟨statement :: rest, frames, s⟩ failure
  | mishap {statement : Statement} {rest : Program} {frames : List Frame} {s s' : State}
      {failure : Failure} :
      env.check statement s = .done s' →
        Mishap env { s' with steps := s'.steps + 1 } statement failure →
          Raises env ⟨statement :: rest, frames, s⟩ failure
  | round {condition body rest : Program} {frames : List Frame} {s s' : State}
      {failure : Failure} :
      env.check (.whileLoop condition body) s = .failed failure s' →
        Raises env ⟨[], .loopBody condition body rest :: frames, s⟩ failure
  | condition {frame : Frame} {frames : List Frame} {s : State} {failure : Failure} :
      s.popBoolean = .error failure → Raises env ⟨[], frame :: frames, s⟩ failure

theorem raises_of_decideBy {env : Environment} {frame : Frame} {frames : List Frame}
    {s s' : State} {failure : Failure} {next : Bool → State → Machine}
    (h : decideBy frames s next = .stopped (.failed failure s')) :
    ∃ raw, raw.Located failure ∧ Raises env ⟨[], frame :: frames, s⟩ raw := by
  unfold decideBy at h
  split at h
  · cases h
  · next problem hproblem =>
    cases h
    exact ⟨problem, .locateIn problem frames, .condition hproblem⟩

/-- The failure of a step comes from one of these sources. -/
theorem raises_of_step {env : Environment} {m : Machine} {failure : Failure} {s' : State}
    (h : m.step env = .stopped (.failed failure s')) :
    ∃ raw, raw.Located failure ∧ Raises env m raw := by
  obtain ⟨code, frames, s⟩ := m
  cases code with
  | cons statement rest =>
    simp only [step, begin] at h
    split at h
    · next problem _ hcheck =>
      cases h
      exact ⟨problem, .locateIn problem frames, .check hcheck⟩
    · next s'' hcheck =>
      split at h
      · cases h
      · next problem _ hexecute =>
        cases h
        -- the failure of the statement is given its place, or that of a call around it
        refine ⟨problem, ?_, .mishap hcheck (mishap_of_execute hexecute)⟩
        unfold locate
        split
        · exact .placed _
        · exact .locateIn problem frames
  | nil =>
    cases frames with
    | nil => cases h
    | cons frame frames =>
      cases frame with
      | call place rest => cases h
      | chosen rest => cases h
      | branch body others otherwise rest => exact raises_of_decideBy h
      | loopCondition condition body rest => exact raises_of_decideBy h
      | loopBody condition body rest =>
        simp only [step, resume] at h
        split at h
        · next problem _ hcheck =>
          cases h
          exact ⟨problem, .locateIn problem frames, .round hcheck⟩
        · cases h

end Machine

/-- A check that fails does so because of a request to stop, or of the limit, or of the
checkpoint. -/
theorem Environment.check_eq_failed {env : Environment} {statement : Statement} {s s' : State}
    {failure : Failure} (h : env.check statement s = .failed failure s') :
    (∃ reason, failure = .of (.cancelled reason)) ∨
      env.checkpoint statement s = .failed failure s' := by
  unfold check at h
  split at h
  · cases h
    exact .inl ⟨_, rfl⟩
  · split at h
    · split at h
      · cases h
        exact .inl ⟨_, rfl⟩
      · exact .inr h
    · exact .inr h

/-! ## Submissions -/

/-- How a submission fails: it is given up, its parts are nested too deep, or a machine that it
comes to fails. -/
theorem Environment.failure_of_submit {env : Environment} {fuel : Nat} {program : Program}
    {s s' : State} {failure : Failure} (h : env.submit fuel program s = .failed failure s') :
    failure = .fault .unfinished ∨ failure = .of .tooDeep ∨
      failure ≠ .fault .depth ∧
        ∃ m raw, Machine.Reaches env (.start program { s with steps := 0 }) m ∧
          Machine.Raises env m raw ∧ raw.Located failure := by
  unfold submit exec at h
  cases hrun : (Machine.start program { s with steps := 0 }).run env fuel with
  | none =>
    rw [hrun] at h
    cases h
    exact .inl rfl
  | some o =>
    rw [hrun] at h
    cases o with
    | done s' => cases h
    | failed problem s' =>
      cases h
      right
      -- the failure is that of the last step, unless its parts are reported as nested too deep
      obtain ⟨m, hreach, hstep⟩ := Machine.Stops.last ⟨fuel, hrun⟩
      obtain ⟨raw, hlocated, hraises⟩ := Machine.raises_of_step hstep
      unfold reportDepth
      split
      · exact .inl rfl
      · split
        · exact .inl rfl
        · exact .inr ⟨nofun, m, raw, hreach, hraises, hlocated⟩
      · next hdepth _ => exact .inr ⟨hdepth, m, raw, hreach, hraises, hlocated⟩

end StackShell
