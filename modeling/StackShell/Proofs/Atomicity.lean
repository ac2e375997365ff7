import StackShell.Command.Builtin
import StackShell.Proofs.Acts
import StackShell.Proofs.Routines

/-!
# Failures are atomic

An act that fails changes neither the stack nor the variables, whichever part of it fails. So a run
that fails leaves both as the acts before the failure left them: none is half done, and none is
taken back.

The checkpoint belongs to the host. It may do to the state what it likes, also when it refuses to go
on; the theorems name the state that it was given.
-/

namespace StackShell

namespace Act

/-- A check that fails leaves the state as it was, unless it is the checkpoint that fails. -/
theorem check_failed {env : Environment} {statement : Statement} {s s' : State}
    {cause : Failure} (h : env.check statement s = .failed cause s') :
    s' = s ∨ env.checkpoint statement s = .failed cause s' := by
  rcases env.check_state statement s with hkept | hasked
  · rw [h] at hkept
    exact .inl hkept
  · rw [h] at hasked
    exact .inr hasked.symm

/-- An elementary act that fails changes neither the stack nor the variables. -/
theorem perform_failed_memory {env : Environment} (hroutines : env.RoutinesOnly) {act : Act}
    (helementary : act.isElementary) {s s' : State} {cause : Failure}
    (h : act.perform env s = .failed cause s') : s'.memory = s.memory := by
  rcases perform_eq_failed helementary h with ⟨name, command, -, hcommand, hrun⟩ | ⟨rfl, -⟩
  · obtain ⟨r, sig, label, rfl⟩ := hroutines name command hcommand
    -- too few items, a wrong one, the routine itself, its result: only the log can differ
    obtain ⟨log, rfl⟩ := Routine.command_eq_failed hrun
    rfl
  · rfl

/-- An act that only asks whether the script may go on: all that it does to the stack and the
variables is done by the checkpoint of the host. -/
def AsksOnly (env : Environment) (act : Act) : Prop :=
  ∃ statement, ∀ s s', act.perform env s = .done s' →
    ∃ s'', env.checkpoint statement s = .done s'' ∧ s'.memory = s''.memory

/-- An act that is not elementary only asks. -/
theorem asksOnly_of_not_elementary (env : Environment) {act : Act}
    (helementary : ¬ act.isElementary) : act.AsksOnly env := by
  cases act with
  | start statement =>
    refine ⟨statement, fun s s' h => ?_⟩
    simp only [perform] at h
    split at h
    · next s'' hcheck =>
      cases h
      exact ⟨s'', (Environment.check_eq_done hcheck).1, rfl⟩
    · cases h
  | round loop =>
    refine ⟨loop, fun s s' h => ?_⟩
    exact ⟨s', (Environment.check_eq_done h).1, rfl⟩
  | _ => exact absurd rfl helementary

end Act

/-- What a failing run leaves, `after`, seen from the state `before` that its completed acts lead
to. If it was no act that failed, that very state is left. An act that failed changed neither the
stack nor the variables, unless it asked the checkpoint of the host and that failed. -/
def LeavesMemory (env : Environment) (failing : Option Act) (before after : State) : Prop :=
  match failing with
  | none => after = before
  | some act =>
    ∃ cause, act.perform env before = .failed cause after ∧
      (after.memory = before.memory ∨
        ∃ statement, (act = .start statement ∨ act = .round statement) ∧
          env.checkpoint statement before = .failed cause after)

/-- A failing act leaves the memory to the acts before it. -/
theorem leavesMemory_of_endsAfter {env : Environment} (hroutines : env.RoutinesOnly)
    {failing : Option Act} {before : State} {o : Outcome}
    (h : EndsAfter env failing before o) : LeavesMemory env failing before o.state := by
  cases failing with
  | none => exact h
  | some act =>
    obtain ⟨cause, hperform⟩ := h
    refine ⟨cause, hperform, ?_⟩
    by_cases helementary : act.isElementary
    · exact .inl (Act.perform_failed_memory hroutines helementary hperform)
    -- a check fails by itself, on the state it was given, or because the checkpoint fails
    · cases act with
      | start statement =>
        simp only [Act.perform] at hperform
        split at hperform
        · cases hperform
        · next failure s hcheck =>
          cases hperform
          rcases Act.check_failed hcheck with heq | hcheckpoint
          · exact .inl (by rw [heq])
          · exact .inr ⟨statement, .inl rfl, hcheckpoint⟩
      | round loop =>
        rcases Act.check_failed hperform with heq | hcheckpoint
        · exact .inl (by rw [heq])
        · exact .inr ⟨loop, .inr rfl, hcheckpoint⟩
      | _ => exact absurd rfl helementary

/-- A submission that fails leaves the stack and the variables exactly as the acts left them that it
had completed by then; and apart from what the checkpoint of the host does, these are the elementary
acts alone. -/
theorem failed_submission_keeps_completed {env : Environment} (hroutines : env.RoutinesOnly)
    {fuel : Nat} {program : Program} {s s' : State} {failure : Failure}
    (h : env.Finishes fuel program s (.failed failure s')) :
    ∃ before,
      Completes env ((Machine.start program { s with steps := 0 }).record env fuel).completed
        { s with steps := 0 } before ∧
      LeavesMemory env ((Machine.start program { s with steps := 0 }).record env fuel).failing
        before s' ∧
      ∀ act ∈ ((Machine.start program { s with steps := 0 }).record env fuel).completed,
        act.isElementary ∨ act.AsksOnly env := by
  obtain ⟨raw, hrun, hreport⟩ := h
  obtain ⟨before, hcompletes, hends⟩ := Machine.record_completes hrun
  have hstate : raw.state = s' := by
    rw [← raw.report_state, ← hreport]
    rfl
  have hleaves := leavesMemory_of_endsAfter hroutines hends
  rw [hstate] at hleaves
  refine ⟨before, hcompletes, hleaves, fun act _ => ?_⟩
  by_cases helementary : act.isElementary
  · exact .inl helementary
  · exact .inr (Act.asksOnly_of_not_elementary env helementary)

/-! ## A function that fails inside a conditional -/

/-- An environment in which every name is that of the routine that joins two strings. -/
def joining : Environment where
  command? _ := some (Builtin.concat.command
    ⟨[.item, .item], [.string, .string], .items [.string]⟩ "concat")
  limit := none
  checkpoint := .pass
  depth := 8

/-- The body of a function that joins a string to one that is not there. -/
def halfJoin : Program :=
  [.literal (.string "a") ⟨1, 10⟩, .invoke "concat" ⟨1, 14⟩]

/-- Defines that function, then calls it from a conditional. -/
def callsHalfJoin : Program :=
  [.define (some "join") halfJoin,
    .conditional [.mk [.literal (.boolean true) ⟨2, 4⟩] [.call (some "join") ⟨2, 14⟩]] none]

/-- What the failing call leaves: the variable and the string, as they were before it. -/
def afterHalfJoin : State :=
  { State.initial .discard with
    stack := [.string "a"], bindings := ⟨[("join", .function halfJoin)]⟩, steps := 6 }

theorem half_join_keeps_completed :
    joining.RoutinesOnly ∧
    joining.Finishes 20 callsHalfJoin (.initial .discard)
      (.failed (.script (.underflow (.arguments "concat" 2 1)) (some ⟨1, 14⟩)) afterHalfJoin) ∧
    ∃ before,
      Completes joining
        ((Machine.start callsHalfJoin { State.initial .discard with steps := 0 }).record joining
          20).completed
        { State.initial .discard with steps := 0 } before ∧
      LeavesMemory joining
        ((Machine.start callsHalfJoin { State.initial .discard with steps := 0 }).record joining
          20).failing
        before afterHalfJoin ∧
      ∀ act ∈ ((Machine.start callsHalfJoin { State.initial .discard with steps := 0 }).record
          joining 20).completed,
        act.isElementary ∨ act.AsksOnly joining := by
  have hroutines : joining.RoutinesOnly := by
    intro name command h
    cases h
    exact ⟨_, _, _, rfl⟩
  have hfinishes : joining.Finishes 20 callsHalfJoin (.initial .discard)
      (.failed (.script (.underflow (.arguments "concat" 2 1)) (some ⟨1, 14⟩)) afterHalfJoin) :=
    ⟨_, rfl, rfl⟩
  exact ⟨hroutines, hfinishes, failed_submission_keeps_completed hroutines hfinishes⟩

end StackShell
