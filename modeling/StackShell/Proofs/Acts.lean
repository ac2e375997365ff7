import Mathlib.Tactic.SplitIfs
import StackShell.Proofs.Runs

/-!
# Acts

A step of the machine is made of acts. Before a statement begins, and each time a loop comes round,
the machine asks whether it may go on. Then at most one *elementary* act follows: a literal is
pushed, a variable is loaded or stored, a command is invoked, a function is defined, the outcome of
a condition is tested, or the function of a call is fetched.

`Machine.attempt` performs the acts of a step until one fails, and `step_attempt` says that this is
all that a step does to the state. `Machine.record` collects the acts of a whole run.
-/

namespace StackShell

/-- What a script remembers: its stack and its variables. -/
def State.memory (s : State) : List Value × Table Value :=
  (s.stack, s.bindings)

/-- One indivisible piece of work. -/
inductive Act where
  /-- Asks whether a statement may begin, and counts it. -/
  | start (statement : Statement)
  /-- Asks whether a loop may come round. -/
  | round (loop : Statement)
  | literal (v : Value)
  | load (name : Text)
  | store (name : Text)
  | invoke (name : Text)
  | define (name : Option Text) (body : Program)
  /-- Takes the outcome of a condition off the stack. -/
  | test
  /-- Looks up the function of a call, or, without a name, takes it off the stack. -/
  | fetch (name : Option Text)

namespace Act

/-- Whether an act works for the script; the other acts only ask whether it may go on. -/
def isElementary : Act → Bool
  | .start _ | .round _ => false
  | _ => true

/-- What an act does to a state. -/
def perform (env : Environment) (act : Act) (s : State) : Outcome :=
  match act with
  | .start statement =>
    match env.check statement s with
    | .done s => .done { s with steps := s.steps + 1 }
    | .failed failure s => .failed failure s
  | .round loop => env.check loop s
  | .literal v => .done (s.push v)
  | .load name =>
    match s.lookup name with
    | .ok v => .done (s.push v)
    | .error failure => .failed failure s
  | .store name =>
    match s.pop with
    | .ok (v, s) => .done (s.assign name v)
    | .error failure => .failed failure s
  | .invoke name =>
    match env.command? name with
    | some command => command s
    | none => .failed (.of (.unknownCommand name)) s
  | .define none body => .done (s.push (.function body))
  | .define (some name) body => .done (s.assign name (.function body))
  | .test =>
    match s.popBoolean with
    | .ok (_, s) => .done s
    | .error failure => .failed failure s
  | .fetch none =>
    match s.popFunction with
    | .ok (_, s) => .done s
    | .error failure => .failed failure s
  | .fetch (some name) =>
    match s.lookup name >>= Value.asFunction with
    | .ok _ => .done s
    | .error failure => .failed failure s

variable {env : Environment} {s t : State} {failure : Failure}

/-- Of the function that is fetched an act keeps nothing. -/
theorem perform_fetch (env : Environment) (name : Option Text) (s : State) :
    (fetch name).perform env s =
      match s.fetch name with
      | .ok (_, t) => .done t
      | .error failure => .failed failure s := by
  cases name with
  | none => rfl
  | some name =>
    simp only [perform, State.fetch]
    cases s.lookup name >>= Value.asFunction <;> rfl

/-- An elementary act that fails does nothing, unless it is a command. -/
theorem perform_eq_failed {act : Act} (helementary : act.isElementary)
    (h : act.perform env s = .failed failure t) :
    (∃ name command, act = .invoke name ∧ env.command? name = some command ∧
      command s = .failed failure t) ∨
        t = s ∧ ∃ cause, failure = .of cause := by
  cases act with
  | start statement => cases helementary
  | round loop => cases helementary
  | literal v => cases h
  | load name =>
    right
    simp only [perform] at h
    split at h
    · cases h
    · next problem hlookup =>
      cases h
      exact ⟨rfl, _, State.lookup_eq_error hlookup⟩
  | store name =>
    right
    simp only [perform] at h
    split at h
    · cases h
    · next problem hpop =>
      cases h
      exact ⟨rfl, _, State.pop_eq_error hpop⟩
  | invoke name =>
    simp only [perform] at h
    split at h
    · next command hcommand => exact .inl ⟨name, command, rfl, hcommand, h⟩
    · cases h
      exact .inr ⟨rfl, _, rfl⟩
  | define name body => cases name <;> cases h
  | test =>
    right
    simp only [perform] at h
    split at h
    · cases h
    · next problem hpop =>
      cases h
      rcases State.popBoolean_eq_error hpop with hcause | ⟨v, hcause⟩
      · exact ⟨rfl, _, hcause⟩
      · exact ⟨rfl, _, hcause⟩
  | fetch name =>
    right
    rw [perform_fetch] at h
    split at h
    · cases h
    · next problem hfetch =>
      cases h
      rcases State.fetch_eq_error hfetch with ⟨-, hcause⟩ | ⟨x, -, hcause⟩ | ⟨v, hcause⟩
      · exact ⟨rfl, _, hcause⟩
      · exact ⟨rfl, _, hcause⟩
      · exact ⟨rfl, _, hcause⟩

/-- An elementary act works on the stack and the variables alone, unless it is a command. -/
theorem perform_frame (env : Environment) {act : Act} (helementary : act.isElementary)
    (s : State) :
    (∃ name command, act = .invoke name ∧ env.command? name = some command) ∨
      ∃ stack bindings, (act.perform env s).state = { s with stack, bindings } := by
  cases act with
  | start statement => cases helementary
  | round loop => cases helementary
  | literal v => exact .inr ⟨_, _, rfl⟩
  | load name =>
    right
    simp only [perform]
    split
    · exact ⟨_, _, rfl⟩
    · exact ⟨_, _, rfl⟩
  | store name =>
    right
    simp only [perform, State.pop]
    cases s.stack with
    | nil => exact ⟨_, _, rfl⟩
    | cons v stack => exact ⟨_, _, rfl⟩
  | invoke name =>
    cases hcommand : env.command? name with
    | some command => exact .inl ⟨name, command, rfl, hcommand⟩
    | none =>
      right
      simp only [perform, hcommand]
      exact ⟨_, _, rfl⟩
  | define name body =>
    right
    cases name with
    | none => exact ⟨_, _, rfl⟩
    | some name => exact ⟨_, _, rfl⟩
  | test =>
    right
    simp only [perform]
    split
    · next b s' hpop =>
      obtain ⟨stack, -, rfl⟩ := State.popBoolean_eq_ok hpop
      exact ⟨_, _, rfl⟩
    · exact ⟨_, _, rfl⟩
  | fetch name =>
    right
    rw [perform_fetch]
    split
    · next body t hfetch =>
      obtain ⟨stack, rfl⟩ := State.fetch_frame hfetch
      exact ⟨_, _, rfl⟩
    · exact ⟨_, _, rfl⟩

end Act

/-- The elementary act of a statement. A conditional and a loop have none of their own. -/
def Statement.act? : Statement → Option Act
  | .literal v _ => some (.literal v)
  | .load name _ => some (.load name)
  | .store name _ => some (.store name)
  | .invoke name _ => some (.invoke name)
  | .call name _ => some (.fetch name)
  | .define name body => some (.define name body)
  | .conditional .. | .whileLoop .. | .stray => none

/-- What came of a row of acts: those that were completed, in order, the one that failed, if any,
and how the last one ended. -/
structure Trial where
  completed : List Act
  failing : Option Act
  outcome : Outcome

/-- Performs acts in order until one fails. -/
def Trial.of (env : Environment) : List Act → State → Trial
  | [], s => ⟨[], none, .done s⟩
  | act :: rest, s =>
    match act.perform env s with
    | .done s =>
      let trial := Trial.of env rest s
      { trial with completed := act :: trial.completed }
    | .failed failure s => ⟨[], some act, .failed failure s⟩

/-- The acts of a run: those that were completed, in order, and the one that failed, if any. -/
structure Record where
  completed : List Act
  failing : Option Act

namespace Machine

/-- The acts of the next step, in order. -/
def acts (m : Machine) : List Act :=
  match m.code, m.frames with
  | statement :: _, _ => .start statement :: statement.act?.toList
  | [], .branch .. :: _ | [], .loopCondition .. :: _ => [.test]
  | [], .loopBody condition body _ :: _ => [.round (.whileLoop condition body)]
  | [], .call .. :: _ | [], .chosen _ :: _ | [], [] => []

/-- What comes of the acts of the next step. -/
def attempt (env : Environment) (m : Machine) : Trial :=
  Trial.of env m.acts m.state

/-- The acts of a run of at most `fuel` steps. -/
def record (env : Environment) : Nat → Machine → Record
  | 0, _ => ⟨[], none⟩
  | fuel + 1, m =>
    let trial := m.attempt env
    match m.step env with
    | .running m' =>
      let later := record env fuel m'
      { later with completed := trial.completed ++ later.completed }
    | .stopped _ => ⟨trial.completed, trial.failing⟩

end Machine

/-! ## A step does what its acts do -/

/-- The trial of a single act ends as the act does. -/
theorem Trial.of_single (env : Environment) (act : Act) (s : State) :
    (Trial.of env [act] s).outcome = act.perform env s := by
  simp only [Trial.of]
  cases act.perform env s <;> rfl

namespace Machine

/-- What a statement does to the state once it has begun is what its elementary act does. -/
theorem execute_attempt (env : Environment) (statement : Statement) (rest : Program)
    (frames : List Frame) (s : State) :
    match execute env statement rest frames s with
    | .ok m => (Trial.of env statement.act?.toList s).outcome = .done m.state
    | .error (_, s') => (Trial.of env statement.act?.toList s).outcome.state = s' := by
  cases statement with
  | load name place =>
    simp only [execute, Statement.act?, Option.toList, Trial.of_single, Act.perform]
    cases s.lookup name <;> rfl
  | store name place =>
    simp only [execute, Statement.act?, Option.toList, Trial.of_single, Act.perform]
    cases s.pop <;> rfl
  | invoke name place =>
    simp only [execute, Statement.act?, Option.toList, Trial.of_single, Act.perform]
    cases env.command? name with
    | none => rfl
    | some command => cases hc : command s <;> simp [hc, Outcome.state]
  | call name place =>
    simp only [execute_call, Statement.act?, Option.toList, Trial.of_single, Act.perform_fetch]
    cases s.fetch name with
    | error failure => rfl
    | ok fetched =>
      -- a body that is nested too deep is refused after it was fetched
      unfold nest
      split_ifs <;> rfl
  | conditional branches otherwise =>
    unfold execute nest
    split_ifs
    · exact congrArg Outcome.done (choose_state branches otherwise rest frames s).symm
    · exact (choose_state branches otherwise rest frames s).symm
  | whileLoop condition body =>
    unfold execute nest
    split_ifs <;> rfl
  | define name body => cases name <;> rfl
  | literal v place => rfl
  | stray => rfl

/-- All that a step does to the state is done by its acts, up to the first that fails; while the
machine keeps running none does. -/
theorem step_attempt (env : Environment) (m : Machine) :
    match m.step env with
    | .running m' => (m.attempt env).outcome = .done m'.state
    | .stopped o => (m.attempt env).outcome.state = o.state := by
  obtain ⟨code, frames, s⟩ := m
  cases code with
  | cons statement rest =>
    -- the check comes first; if it passes, the statement's own act is all that is left
    simp only [step, begin, attempt, acts, Trial.of, Act.perform]
    cases env.check statement s with
    | failed failure s' => rfl
    | done s' =>
      have hact := execute_attempt env statement rest frames { s' with steps := s'.steps + 1 }
      simp only
      cases hexecute : execute env statement rest frames { s' with steps := s'.steps + 1 } with
      | ok m' =>
        rw [hexecute] at hact
        exact hact
      | error stopped =>
        rw [hexecute] at hact
        exact hact
  | nil =>
    cases frames with
    | nil => rfl
    | cons frame frames =>
      cases frame with
      | call place rest => rfl
      | chosen rest => rfl
      | branch body others otherwise rest =>
        simp only [step, resume, decideBy, attempt, acts, Trial.of_single, Act.perform]
        cases s.popBoolean with
        | error failure => rfl
        | ok popped =>
          obtain ⟨b, s'⟩ := popped
          cases b with
          | true => rfl
          | false =>
            show Outcome.done s' = .done (choose others otherwise rest frames s').state
            rw [choose_state]
      | loopCondition condition body rest =>
        simp only [step, resume, decideBy, attempt, acts, Trial.of_single, Act.perform]
        cases s.popBoolean with
        | error failure => rfl
        | ok popped =>
          obtain ⟨b, s'⟩ := popped
          cases b <;> rfl
      | loopBody condition body rest =>
        simp only [step, resume, attempt, acts, Trial.of_single, Act.perform]
        cases env.check (.whileLoop condition body) s <;> rfl

end Machine

/-! ## What every act keeps, every run keeps -/

section Keeps

variable {env : Environment} {P : State → Prop}

theorem Trial.keeps {acts : List Act}
    (hacts : ∀ act ∈ acts, ∀ s, P s → P (act.perform env s).state) {s : State} (hs : P s) :
    P (Trial.of env acts s).outcome.state := by
  induction acts generalizing s with
  | nil => exact hs
  | cons act acts ih =>
    have hact := hacts act List.mem_cons_self s hs
    simp only [Trial.of]
    split
    · next s' hperform =>
      rw [hperform] at hact
      exact ih (fun act hmem => hacts act (List.mem_cons_of_mem _ hmem)) hact
    · next failure s' hperform =>
      rw [hperform] at hact
      exact hact

namespace Machine

/-- What the acts of a step keep holds of the state after it, if the machine keeps running. -/
theorem keeps_of_running {m m' : Machine}
    (hacts : ∀ act ∈ m.acts, ∀ s, P s → P (act.perform env s).state) (hm : P m.state)
    (h : m.step env = .running m') : P m'.state := by
  have hattempt := step_attempt env m
  rw [h] at hattempt
  have hkept := Trial.keeps hacts hm
  rw [← attempt, hattempt] at hkept
  exact hkept

/-- What the acts of a step keep holds of the state after it, if the machine stops. -/
theorem keeps_of_stopped {m : Machine} {o : Outcome}
    (hacts : ∀ act ∈ m.acts, ∀ s, P s → P (act.perform env s).state) (hm : P m.state)
    (h : m.step env = .stopped o) : P o.state := by
  have hattempt := step_attempt env m
  rw [h] at hattempt
  have hkept := Trial.keeps hacts hm
  rw [← attempt, hattempt] at hkept
  exact hkept

/-- What every act keeps holds of the state of every machine that is reached. -/
theorem Reaches.keeps (hacts : ∀ act s, P s → P (Act.perform env act s).state) {m m' : Machine}
    (h : Reaches env m m') (hm : P m.state) : P m'.state :=
  h.invariant (P := fun m => P m.state)
    (fun _ _ h₁ hstep => keeps_of_running (fun act _ => hacts act) h₁ hstep) hm

/-- What every act keeps holds of the state that a run leaves. -/
theorem Stops.keeps (hacts : ∀ act s, P s → P (Act.perform env act s).state) {m : Machine}
    {o : Outcome} (h : Stops env m o) (hm : P m.state) : P o.state := by
  obtain ⟨last, hreach, hlast⟩ := h.last
  exact keeps_of_stopped (fun act _ => hacts act) (hreach.keeps hacts hm) hlast

end Machine

end Keeps

/-! ## The acts of a run lead to its outcome -/

/-- Acts that are performed in order, none of them failing, lead from one state to another. -/
inductive Completes (env : Environment) : List Act → State → State → Prop where
  | nil (s : State) : Completes env [] s s
  | cons {act : Act} {acts : List Act} {s s' s'' : State} :
      act.perform env s = .done s' → Completes env acts s' s'' →
        Completes env (act :: acts) s s''

theorem Completes.append {env : Environment} {acts later : List Act} {s s' s'' : State}
    (h : Completes env acts s s') (hlater : Completes env later s' s'') :
    Completes env (acts ++ later) s s'' := by
  induction h with
  | nil => exact hlater
  | cons hact _ ih => exact .cons hact (ih hlater)

/-- How a trial ended, seen from the state that its completed acts lead to: there it stopped, or
there the next act failed. -/
def EndsAfter (env : Environment) (failing : Option Act) (before : State) (o : Outcome) : Prop :=
  match failing with
  | none => o.state = before
  | some act => ∃ cause, act.perform env before = .failed cause o.state

/-- The completed acts of a trial lead to the state where it ended. -/
theorem Trial.completes (env : Environment) (acts : List Act) (s : State) :
    ∃ before, Completes env (Trial.of env acts s).completed s before ∧
      EndsAfter env (Trial.of env acts s).failing before (Trial.of env acts s).outcome := by
  induction acts generalizing s with
  | nil => exact ⟨s, .nil s, rfl⟩
  | cons act acts ih =>
    cases hact : act.perform env s with
    | failed cause s' =>
      simp only [Trial.of, hact]
      exact ⟨s, .nil s, cause, hact⟩
    | done s' =>
      obtain ⟨before, hcompletes, hends⟩ := ih s'
      simp only [Trial.of, hact]
      exact ⟨before, .cons hact hcompletes, hends⟩

/-- A trial that ends well completes all its acts. -/
theorem Trial.completes_of_done {env : Environment} {acts : List Act} {s s' : State}
    (h : (Trial.of env acts s).outcome = .done s') :
    Completes env (Trial.of env acts s).completed s s' := by
  induction acts generalizing s with
  | nil =>
    cases h
    exact .nil _
  | cons act acts ih =>
    cases hact : act.perform env s with
    | failed cause s'' => simp [Trial.of, hact] at h
    | done s'' =>
      simp only [Trial.of, hact] at h ⊢
      exact .cons hact (ih h)

/-- The acts that a run has completed, performed in order from its first state, lead to the state
where it ended: nothing is lost, and nothing is taken back. -/
theorem Machine.record_completes {env : Environment} {fuel : Nat} {m : Machine} {o : Outcome}
    (h : m.run env fuel = some o) :
    ∃ before, Completes env (m.record env fuel).completed m.state before ∧
      EndsAfter env (m.record env fuel).failing before o := by
  induction fuel generalizing m with
  | zero => simp [run] at h
  | succ fuel ih =>
    have hattempt := step_attempt env m
    cases hstep : m.step env with
    | running m' =>
      rw [run_succ_of_running hstep] at h
      rw [hstep] at hattempt
      obtain ⟨before, hlater, hends⟩ := ih h
      -- no act of this step has failed, so that all of them come before those of the rest
      simp only [record, hstep]
      exact ⟨before, (Trial.completes_of_done hattempt).append hlater, hends⟩
    | stopped o' =>
      rw [run_succ_of_stopped hstep] at h
      cases h
      rw [hstep] at hattempt
      obtain ⟨before, hcompletes, hends⟩ := Trial.completes env m.acts m.state
      simp only [record, hstep]
      refine ⟨before, hcompletes, ?_⟩
      -- the step and its acts end in one state, and only that state matters here
      unfold EndsAfter at hends ⊢
      unfold attempt at hattempt ⊢
      simp only [hattempt] at hends
      exact hends

end StackShell
