import StackShell.Proofs.Evaluation
import StackShell.Proofs.Failures
import StackShell.Proofs.Limit

/-!
# The innermost place

A failure that arises while a script runs is given the place of the innermost statement under way
that has one. Statements that stand for a whole block, such as a conditional or a loop, have none:
if the outcome of a condition cannot be taken, the failure goes to the call around the block, and if
there is none it stays without a place.

Which statements are under way when a run fails is told by its evaluation, not by the frames of the
machine: a call is under way while the body of its function runs, a conditional and a loop while
their conditions and bodies do.
-/

namespace StackShell

namespace Failure

/-- The place that a failure was given. -/
def place? : Failure → Option Location
  | .script _ place => place
  | .fault _ => none

/-- Whether a failure arose while a script ran; other failures are given no place. -/
def isRuntime : Failure → Bool
  | .script cause _ => cause.kind.isRuntime
  | .fault _ => false

/-! ## What the statements of a chain do to a failure -/

theorem locate_of_place {failure : Failure} (h : failure.place? ≠ none) (place : Location) :
    failure.locate place = failure := by
  cases failure with
  | fault problem => rfl
  | script cause given =>
    cases given with
    | none => exact absurd rfl h
    | some given => rfl

theorem locate_of_not_runtime {failure : Failure} (h : failure.isRuntime = false)
    (place : Location) : failure.locate place = failure := by
  cases failure with
  | fault problem => rfl
  | script cause given =>
    cases given with
    | some given => rfl
    | none =>
      have hkind : cause.kind.isRuntime = false := h
      simp [locate, hkind]

theorem place?_locate_of_runtime {failure : Failure} (hruntime : failure.isRuntime = true)
    (hplace : failure.place? = none) (place : Location) :
    (failure.locate place).place? = some place := by
  cases failure with
  | fault problem => cases hruntime
  | script cause given =>
    obtain rfl : given = none := hplace
    have hkind : cause.kind.isRuntime = true := hruntime
    simp [locate, place?, hkind]

@[simp] theorem isRuntime_locate (failure : Failure) (place : Location) :
    (failure.locate place).isRuntime = failure.isRuntime := by
  cases failure with
  | fault problem => rfl
  | script cause given => cases given <;> rfl

@[simp] theorem isRuntime_locateBy (failure : Failure) (chain : List Statement) :
    (failure.locateBy chain).isRuntime = failure.isRuntime := by
  induction chain generalizing failure with
  | nil => rfl
  | cons statement chain ih =>
    refine (ih (statement.locate failure)).trans ?_
    unfold Statement.locate
    split
    · exact failure.isRuntime_locate _
    · rfl

/-- Of the statements of a chain the first one with a place gives it to a failure without one. -/
theorem place?_locateBy {failure : Failure} (hruntime : failure.isRuntime = true)
    (hplace : failure.place? = none) (chain : List Statement) :
    (failure.locateBy chain).place? = chain.findSome? Statement.place? := by
  induction chain with
  | nil => exact hplace
  | cons statement chain ih =>
    show ((statement.locate failure).locateBy chain).place? = _
    rw [List.findSome?_cons]
    unfold Statement.locate
    cases hstatement : statement.place? with
    | none => exact ih
    | some place =>
      -- the place that is given now is not changed by the outer statements
      have hgiven := place?_locate_of_runtime hruntime hplace place
      have hkept : ∀ outer, (failure.locate place).locate outer = failure.locate place :=
        locate_of_place (by rw [hgiven]; simp)
      simp only [locateBy_eq_self hkept, hgiven]

end Failure

/-! ## Where failures come from -/

/-- Whether the failures of the commands have no place. -/
def Environment.RaisesUnplaced (env : Environment) : Prop :=
  ∀ name command, env.command? name = some command →
    ∀ s failure t, command s = .failed failure t → failure.place? = none

/-- Whether a failure has no place, or else is what the checkpoint came to. -/
def Environment.Unplaced (env : Environment) (failure : Failure) (t : State) : Prop :=
  failure.place? = none ∨ ∃ statement s, env.checkpoint statement s = .failed failure t

section

variable {env : Environment} {s t : State} {failure : Failure}

theorem Environment.unplaced_of_check {statement : Statement}
    (h : env.check statement s = .failed failure t) : env.Unplaced failure t := by
  rcases Environment.check_eq_failed h with ⟨reason, rfl⟩ | hcheckpoint
  · exact .inl rfl
  · exact .inr ⟨statement, s, hcheckpoint⟩

theorem State.unplaced_of_popBoolean (h : s.popBoolean = .error failure) :
    failure.place? = none := by
  rcases State.popBoolean_eq_error h with rfl | ⟨v, rfl⟩ <;> rfl

theorem State.unplaced_of_fetch {name : Option Text} (h : s.fetch name = .error failure) :
    failure.place? = none := by
  rcases State.fetch_eq_error h with ⟨-, rfl⟩ | ⟨x, -, rfl⟩ | ⟨v, rfl⟩ <;> rfl

/-- An act fails without a place, unless it is the checkpoint that fails. -/
theorem Act.unplaced (hcommands : env.RaisesUnplaced) {act : Act}
    (h : act.perform env s = .failed failure t) : env.Unplaced failure t := by
  cases act with
  | start statement =>
    simp only [perform] at h
    split at h
    · cases h
    · next problem s' hcheck =>
      cases h
      exact Environment.unplaced_of_check hcheck
  | round loop => exact Environment.unplaced_of_check h
  | _ =>
    left
    rcases perform_eq_failed rfl h with ⟨name, command, -, hcommand, hrun⟩ | ⟨-, cause, rfl⟩
    · exact hcommands name command hcommand s failure t hrun
    · rfl

theorem Ending.eq_broken_of_under {statement : Statement} {e : Ending} {chain : List Statement}
    (h : e.under statement = .broken failure chain t) :
    ∃ inner, e = .broken failure inner t := by
  cases e with
  | through s => cases h
  | broken problem inner s =>
    cases h
    exact ⟨inner, rfl⟩

/-- Whatever an evaluation breaks off with was raised without a place, unless by the checkpoint. -/
theorem Evaluates.unplaced (hcommands : env.RaisesUnplaced) {room : Nat} {w : Work} {e : Ending}
    (h : Evaluates env room w s e) {chain : List Statement}
    (hbroken : e = .broken failure chain t) : env.Unplaced failure t := by
  induction h generalizing chain with
  | nil | skipped | left => cases hbroken
  | refused hstart =>
    cases hbroken
    exact Act.unplaced hcommands hstart
  | loopRefused hround =>
    cases hbroken
    exact Act.unplaced hcommands hround
  | @act room statement act s hact hfetch =>
    cases hperform : act.perform env s with
    | done s' =>
      rw [hperform] at hbroken
      cases hbroken
    | failed problem s' =>
      rw [hperform] at hbroken
      cases hbroken
      exact Act.unplaced hcommands hperform
  | stray | callTooDeep | conditionalTooDeep | loopTooDeep =>
    cases hbroken
    exact .inl rfl
  | unfetched hfetch =>
    cases hbroken
    exact .inl (State.unplaced_of_fetch hfetch)
  | undecided _ hpop =>
    cases hbroken
    exact .inl (State.unplaced_of_popBoolean hpop)
  | loopUndecided _ _ hpop =>
    cases hbroken
    exact .inl (State.unplaced_of_popBoolean hpop)
  | called _ _ ih | conditional _ ih | whileLoop _ ih =>
    obtain ⟨inner, hinner⟩ := Ending.eq_broken_of_under hbroken
    exact ih hinner
  | breaks _ _ ih | next _ _ _ _ ih => exact ih hbroken
  | otherwise _ ih | conditionBreaks _ ih | taken _ _ _ _ ih | passed _ _ _ _ ih =>
    exact ih hbroken
  | loopConditionBreaks _ _ ih | bodyBreaks _ _ _ _ _ ih | again _ _ _ _ _ _ _ ih =>
    exact ih hbroken

end

/-! ## The innermost place -/

/-- A failure of a run has the place of the innermost statement under way that has one, and none
exactly if no statement under way has one, if it arose while the script ran; other failures have
none. The checkpoint is the host's: only what it raises may have brought a place of its own. -/
theorem failure_has_innermost_place {env : Environment} (hcommands : env.RaisesUnplaced)
    {program : Program} {s t : State} {failure : Failure}
    (hfailed : Machine.Stops env (Machine.start program s) (.failed failure t)) :
    (∃ raw chain, Evaluates env env.depth (.program program) s (.broken raw chain t)) ∧
      ∀ raw chain t', Evaluates env env.depth (.program program) s (.broken raw chain t') →
        t' = t ∧
          (raw.place? = none ∧
              (failure.isRuntime = true →
                failure.place? = chain.findSome? Statement.place? ∧
                  (failure.place? = none ↔ ∀ statement ∈ chain, statement.place? = none)) ∧
              (failure.isRuntime = false → failure.place? = none) ∨
            raw.place? ≠ none ∧ failure = raw ∧
              ∃ statement s', env.checkpoint statement s' = .failed raw t) := by
  constructor
  · obtain ⟨e, he, ho⟩ := Machine.stops_iff_evaluates.1 hfailed
    cases e with
    | through s' => cases ho
    | broken raw chain t' =>
      cases ho
      exact ⟨raw, chain, he⟩
  · intro raw chain t' he
    -- whatever the evaluation, the run comes to its outcome, and to no other one
    have hsame := hfailed.unique (Machine.stops_iff_evaluates.2 ⟨_, he, rfl⟩)
    obtain ⟨rfl, rfl⟩ := Outcome.failed.inj hsame
    refine ⟨rfl, ?_⟩
    by_cases hraw : raw.place? = none
    · left
      refine ⟨hraw, fun hruntime => ?_, fun hother => ?_⟩
      · rw [Failure.isRuntime_locateBy] at hruntime
        rw [Failure.place?_locateBy hruntime hraw]
        exact ⟨rfl, List.findSome?_eq_none_iff⟩
      · rw [Failure.isRuntime_locateBy] at hother
        rw [Failure.locateBy_eq_self (Failure.locate_of_not_runtime hother)]
        exact hraw
    · right
      refine ⟨hraw, Failure.locateBy_eq_self (Failure.locate_of_place hraw) chain, ?_⟩
      exact (he.unplaced hcommands rfl).resolve_left hraw

/-- A function with a loop whose condition gives a number. -/
def numberAsCondition : Program :=
  [.define (some "spin") [.whileLoop [.load "n" ⟨1, 7⟩] []], .call (some "spin") ⟨2, 3⟩]

/-- A state with a number in a variable. -/
def numberInVariable : State :=
  (State.initial .discard).assign "n" (.int 3)

/-- The state where the number is found instead of a truth value. -/
def numberFound : State :=
  { (numberInVariable.assign "spin" (.function [.whileLoop [.load "n" ⟨1, 7⟩] []])).push (.int 3)
    with steps := 4 }

/-- What fails is the loop, which has no place, and the word in its condition is through by then:
the place is that of the call. -/
theorem number_as_condition_fails_at_call :
    (bare none).RaisesUnplaced ∧
    Machine.Stops (bare none) (.start numberAsCondition numberInVariable)
      (.failed (.script (.mismatch "boolean" "number") (some ⟨2, 3⟩)) numberFound) ∧
    ∃ raw chain,
      Evaluates (bare none) 100 (.program numberAsCondition) numberInVariable
        (.broken raw chain numberFound) ∧
      raw.place? = none ∧ chain.findSome? Statement.place? = some ⟨2, 3⟩ := by
  have hcommands : (bare none).RaisesUnplaced := fun name command h => by cases h
  have hfailed : Machine.Stops (bare none) (.start numberAsCondition numberInVariable)
      (.failed (.script (.mismatch "boolean" "number") (some ⟨2, 3⟩)) numberFound) :=
    ⟨9, rfl⟩
  obtain ⟨⟨raw, chain, he⟩, hall⟩ := failure_has_innermost_place hcommands hfailed
  rcases (hall raw chain numberFound he).2 with ⟨hraw, hruntime, -⟩ | ⟨-, -, _, _, hcheckpoint⟩
  · exact ⟨hcommands, hfailed, raw, chain, he, hraw, (hruntime rfl).1.symm⟩
  · cases hcheckpoint

end StackShell
