import StackShell.Proofs.Limit

/-!
# A run that uses up its limit

A run that begins no more statements than the limit allows is left alone by it, also where it begins
the very last one. The limit is met only at a check, and a check comes before a statement that the
limit does not allow, with one exception: a loop is checked each time it comes round, and one
without a condition may come round once more, and end, with no statement left to begin
(`limit_is_exact`).
-/

namespace StackShell

/-- The host leaves the count of steps to the machine, and makes no difference between checks. -/
theorem Environment.keepsCount_limitedTo {env : Environment} (hcheckpoint : env.checkpoint = .pass)
    (hcommands : ∀ name command, env.command? name = some command →
      ∀ s, (command s).state.steps = s.steps) (limit : Option Int) :
    (env.limitedTo limit).KeepsCount where
  commands := hcommands
  checkpoint statement s := by
    show (env.checkpoint statement s).state.steps = s.steps
    rw [hcheckpoint]
    rfl

namespace Machine

/-- A machine at a loop without a condition, which is to come round, and that nobody has asked to
stop. -/
def AtBareRound (m : Machine) : Prop :=
  ∃ body rest frames s, m = ⟨[], .loopBody [] body rest :: frames, s⟩ ∧ s.cancelled = false

section

variable {env : Environment} (hcheckpoint : env.checkpoint = .pass)
include hcheckpoint

/-- Without a limit and a checkpoint, only who was asked to stop is stopped by a check. -/
theorem check_unlimited {s : State} (h : s.cancelled = false) (statement : Statement) :
    (env.limitedTo none).check statement s = .done s := by
  have hpass : (env.limitedTo none).check statement s = env.checkpoint statement s := by
    simp [Environment.check, Environment.limitedTo, h]
  rw [hpass, hcheckpoint]
  rfl

variable (hcommands : ∀ name command, env.command? name = some command →
  ∀ s, (command s).state.steps = s.steps)
include hcommands

/-- The count of steps never falls along a run without a limit. -/
theorem Stops.steps_le {m : Machine} {o : Outcome} (h : Stops (env.limitedTo none) m o) :
    m.state.steps ≤ o.state.steps :=
  h.keeps (P := fun s => m.state.steps ≤ s.steps)
    (fun act s hs => Nat.le_trans hs
      (Act.steps_le_perform (Environment.keepsCount_limitedTo hcheckpoint hcommands none) act s))
    (Nat.le_refl _)

/-- A statement that may begin is counted, however the run ends. -/
theorem Stops.steps_lt {statement : Statement} {rest : Program} {frames : List Frame} {s : State}
    (hunasked : s.cancelled = false) {o : Outcome}
    (h : Stops (env.limitedTo none) ⟨statement :: rest, frames, s⟩ o) :
    s.steps < o.state.steps := by
  have hacts : ∀ act s', s.steps < s'.steps →
      s.steps < (Act.perform (env.limitedTo none) act s').state.steps := fun act s' hs =>
    Nat.lt_of_lt_of_le hs
      (Act.steps_le_perform (Environment.keepsCount_limitedTo hcheckpoint hcommands none) act s')
  -- the acts of the step begin with the one that counts the statement
  have hattempt : s.steps <
      (attempt (env.limitedTo none) ⟨statement :: rest, frames, s⟩).outcome.state.steps := by
    simp only [attempt, acts, Trial.of, Act.perform, check_unlimited hcheckpoint hunasked]
    exact Trial.keeps (P := fun s' => s.steps < s'.steps) (fun act _ => hacts act)
      (Nat.lt_succ_self _)
  have hstate := step_attempt (env.limitedTo none) ⟨statement :: rest, frames, s⟩
  cases hstep : step (env.limitedTo none) ⟨statement :: rest, frames, s⟩ with
  | running m =>
    rw [hstep] at hstate
    rw [hstate] at hattempt
    have hrest := (stops_iff_of_running hstep).1 h
    exact hrest.keeps (P := fun s' => s.steps < s'.steps) hacts hattempt
  | stopped o' =>
    rw [hstep] at hstate
    rw [h.unique (.of_stopped hstep), ← hstate]
    exact hattempt

/-- A run that comes to a check begins one more statement, unless it is at a loop without a
condition. -/
theorem Stops.steps_lt_of_atCheck {m : Machine} (hm : m.AtCheck) (hbare : ¬m.AtBareRound)
    {o : Outcome} (h : Stops (env.limitedTo none) m o) : m.state.steps < o.state.steps := by
  cases hm with
  | statement statement rest frames hunasked =>
    exact Stops.steps_lt hcheckpoint hcommands hunasked h
  | @round condition body rest frames s hunasked =>
    cases condition with
    | nil => exact absurd ⟨body, rest, frames, s, rfl, hunasked⟩ hbare
    | cons statement condition =>
      have hstep : step (env.limitedTo none)
          ⟨[], .loopBody (statement :: condition) body rest :: frames, s⟩ = .running
          ⟨statement :: condition, .loopCondition (statement :: condition) body rest :: frames,
            s⟩ := by
        simp only [step, resume, check_unlimited hcheckpoint hunasked]
      exact Stops.steps_lt hcheckpoint hcommands hunasked ((stops_iff_of_running hstep).1 h)

/-- A limited machine comes to what the unlimited one comes to, if that takes no more statements
than the limit allows and no loop without a condition comes round when all of them have begun. -/
theorem Stops.limitedTo {n : Int} {m : Machine} {o : Outcome}
    (h : Stops (env.limitedTo none) m o) (hcount : (o.state.steps : Int) ≤ n)
    (hbare : ∀ m', Reaches (env.limitedTo none) m m' → (m'.state.steps : Int) = n →
      ¬m'.AtBareRound) : Stops (env.limitedTo (some n)) m o := by
  obtain ⟨fuel, hrun⟩ := h
  induction fuel generalizing m with
  | zero => simp [run] at hrun
  | succ fuel ih =>
    have hstops : Stops (env.limitedTo none) m o := ⟨fuel + 1, hrun⟩
    rcases step_limitedTo env n m with hsame | ⟨hcheck, hreached, -⟩
    · cases hstep : m.step (env.limitedTo none) with
      | stopped o' =>
        rw [run_succ_of_stopped hstep] at hrun
        cases hrun
        exact .of_stopped (hsame.trans hstep)
      | running m₁ =>
        rw [run_succ_of_running hstep] at hrun
        exact .of_running (hsame.trans hstep)
          (ih (fun m' hreach => hbare m' (.next hstep hreach)) hrun)
    · -- at the limit the unlimited run would have to begin one statement too many
      have hle := Stops.steps_le hcheckpoint hcommands hstops
      have hlt := Stops.steps_lt_of_atCheck hcheckpoint hcommands hcheck
        (hbare m (.refl m) (by omega)) hstops
      omega

end

/-- A limited machine reaches what the unlimited one reaches, or the limit stops it on the way. -/
theorem Reaches.limitedTo {env : Environment} {n : Int} {m m' : Machine}
    (h : Reaches (env.limitedTo none) m m') :
    Reaches (env.limitedTo (some n)) m m' ∨
      ∃ m₁, Reaches (env.limitedTo none) m m₁ ∧ Reaches (env.limitedTo none) m₁ m' ∧
        n ≤ m₁.state.steps ∧
        Stops (env.limitedTo (some n)) m (.failed (.of (.cancelled (.limit n))) m₁.state) := by
  induction h with
  | refl m => exact .inl (.refl m)
  | @next m m₁ m' hstep hreach ih =>
    rcases step_limitedTo env n m with hsame | ⟨-, hreached, hstop⟩
    · rcases ih with hreach' | ⟨m₂, hfirst, hsecond, hreached, hstops⟩
      · exact .inl (.next (hsame.trans hstep) hreach')
      · exact .inr ⟨m₂, .next hstep hfirst, hsecond, hreached,
          .of_running (hsame.trans hstep) hstops⟩
    · exact .inr ⟨m, .refl m, .next hstep hreach, hreached, .of_stopped hstop⟩

/-- A limit stops a loop without a condition that comes round when it is reached. -/
theorem AtBareRound.stops {m : Machine} (hm : m.AtBareRound) (env : Environment) {n : Int}
    (hreached : n ≤ m.state.steps) :
    Stops (env.limitedTo (some n)) m (.failed (.of (.cancelled (.limit n))) m.state) := by
  obtain ⟨body, rest, frames, s, rfl, hunasked⟩ := hm
  have hcheck : (env.limitedTo (some n)).check (.whileLoop [] body) s =
      s.fail (.cancelled (.limit n)) := by
    simp only [Environment.check, Environment.limitedTo, hunasked]
    exact if_pos hreached
  refine .of_stopped ?_
  simp only [step, resume, hcheck, State.fail, locateIn_cancelled]

end Machine

/-- The limit of steps is exact. If a submission without a limit ends after no more statements than
`n`, it ends in the same way, state and count included, under the limit `n`, unless a loop without a
condition comes round when `n` statements have begun. Such a round is a check, and there the run is
cancelled, if not at one before it that has found the limit reached. -/
theorem limit_is_exact {env : Environment} (hcheckpoint : env.checkpoint = .pass)
    (hcommands : ∀ name command, env.command? name = some command →
      ∀ s, (command s).state.steps = s.steps)
    {n : Int} {fuel : Nat} {program : Program} {s : State} {outcome : Outcome}
    (h : (env.limitedTo none).Finishes fuel program s outcome)
    (hcount : (outcome.state.steps : Int) ≤ n) :
    let first := Machine.start program { s with steps := 0 }
    let reached m := Machine.Reaches (env.limitedTo none) first m ∧ (m.state.steps : Int) = n
    ((∀ m, reached m → ¬m.AtBareRound) →
      ∃ fuel', (env.limitedTo (some n)).Finishes fuel' program s outcome) ∧
    ∀ m, reached m → m.AtBareRound →
      ∃ fuel' m', reached m' ∧ (env.limitedTo (some n)).Finishes fuel' program s
        (.failed (.of (.cancelled (.limit n))) m'.state) := by
  intro first reached
  obtain ⟨raw, hrun, rfl⟩ := h
  rw [raw.report_state] at hcount
  constructor
  · intro hbare
    obtain ⟨fuel', hrun'⟩ := Machine.Stops.limitedTo hcheckpoint hcommands ⟨fuel, hrun⟩ hcount
      fun m hreach hsteps => hbare m ⟨hreach, hsteps⟩
    exact ⟨fuel', raw, hrun', rfl⟩
  · rintro m ⟨hreach, hsteps⟩ hm
    rcases Machine.Reaches.limitedTo (n := n) hreach with hreach' |
      ⟨m₁, hfirst, hsecond, hreached, fuel', hrun'⟩
    · obtain ⟨fuel', hrun'⟩ := hreach'.stops_iff.2 (hm.stops env (Int.le_of_eq hsteps.symm))
      exact ⟨fuel', m, ⟨hreach, hsteps⟩, _, hrun', rfl⟩
    · -- the count does not fall on the way to the loop
      have hle := hsecond.keeps (P := fun s => m₁.state.steps ≤ s.steps)
        (fun act s hs => Nat.le_trans hs (Act.steps_le_perform
          (Environment.keepsCount_limitedTo hcheckpoint hcommands none) act s)) (Nat.le_refl _)
      exact ⟨fuel', m₁, ⟨hfirst, by omega⟩, _, hrun', rfl⟩

/-- A loop that ends at once: its condition is the second and last statement to begin. -/
def briefLoop : Program :=
  [.whileLoop [.literal (.boolean false) ⟨1, 7⟩] []]

theorem limit_is_exact_on_briefLoop :
    (bare none).checkpoint = .pass ∧
    ((bare none).limitedTo none).Finishes 6 briefLoop (.initial .discard)
      (.done { State.initial .discard with steps := 2 }) ∧
    ∃ fuel, ((bare none).limitedTo (some 2)).Finishes fuel briefLoop (.initial .discard)
      (.done { State.initial .discard with steps := 2 }) := by
  have hfinishes : ((bare none).limitedTo none).Finishes 6 briefLoop (.initial .discard)
      (.done { State.initial .discard with steps := 2 }) := ⟨_, rfl, rfl⟩
  refine ⟨rfl, hfinishes, (limit_is_exact (n := 2) rfl (bare_keepsCount none).commands hfinishes
    (Int.le_refl 2)).1 ?_⟩
  rintro m ⟨hreach, -⟩ ⟨body, rest, frames, s, rfl, -⟩
  -- the only loop that comes round has a condition
  cases hreach with | next hstep hreach
  cases hstep
  cases hreach with | next hstep hreach
  cases hstep
  cases hreach with | next hstep hreach
  cases hstep
  cases hreach with | next hstep hreach
  cases hstep
  cases hreach with | next hstep hreach
  cases hstep

/-- A run that begins just as many statements as the limit allows may be cancelled: a loop without a
condition comes round once more before it ends. -/
theorem not_limit_is_exact :
    ¬∀ (env : Environment) (n : Int) (fuel : Nat) (program : Program) (s : State)
      (outcome : Outcome), env.checkpoint = .pass →
      (∀ name command, env.command? name = some command →
        ∀ s, (command s).state.steps = s.steps) →
      (env.limitedTo none).Finishes fuel program s outcome → (outcome.state.steps : Int) ≤ n →
        ∃ fuel', (env.limitedTo (some n)).Finishes fuel' program s outcome := by
  intro hexact
  let s : State := { State.initial .discard with stack := [.boolean false] }
  obtain ⟨fuel, raw, hrun, hraw⟩ := hexact (bare none) 1 4 [.whileLoop [] []] s
    (.done { State.initial .discard with steps := 1 }) rfl (bare_keepsCount none).commands
    ⟨_, rfl, rfl⟩ (Int.le_refl 1)
  have hcancelled : Machine.Stops ((bare none).limitedTo (some 1))
      (Machine.start [.whileLoop [] []] { s with steps := 0 })
      (.failed (.of (.cancelled (.limit 1))) { s with steps := 1 }) := ⟨2, rfl⟩
  rw [Machine.Stops.unique ⟨fuel, hrun⟩ hcancelled] at hraw
  cases hraw

end StackShell
