import StackShell.Proofs.Batches
import StackShell.Proofs.Limit
import StackShell.Proofs.Registration

/-!
# The count of all steps

A run counts the statements that it begins (`Machine.steps_of_run`), and its count stays with the
session until the next run. A runner adds up what the session has counted after each source that it
executes. Of a source that cannot be read nothing is run; what the session has counted by then is
the count of an earlier source, and it is added once more (`total_of_executeAll`).
-/

namespace StackShell

/-! ## What a run counts -/

/-- Whether an act begins a statement. -/
def Act.isStart : Act → Bool
  | .start _ => true
  | _ => false

/-- How many statements are begun in a run of at most `fuel` steps. -/
def Machine.begun (env : Environment) (fuel : Nat) (m : Machine) : Nat :=
  (m.record env fuel).completed.countP Act.isStart

section

variable {env : Environment} (hkeeps : env.KeepsCount)
include hkeeps

/-- What begins a statement is counted, and nothing else. -/
theorem Act.steps_of_done {act : Act} {s s' : State} (h : act.perform env s = .done s') :
    s'.steps = s.steps + if act.isStart then 1 else 0 := by
  by_cases helementary : act.isElementary
  · have hcount := Act.perform_steps hkeeps helementary s
    rw [h] at hcount
    cases act with
    | start statement => cases helementary
    | _ => exact hcount
  · cases act with
    | start statement =>
      have hcount := hkeeps.check statement s
      simp only [perform] at h
      split at h
      · next checked hcheck =>
        cases h
        rw [hcheck] at hcount
        exact congrArg (· + 1) hcount
      · cases h
    | round loop =>
      have hcount := hkeeps.check loop s
      rw [perform] at h
      rw [h] at hcount
      exact hcount
    | _ => exact absurd rfl helementary

/-- What fails is not counted. -/
theorem Act.steps_of_failed {act : Act} {s s' : State} {failure : Failure}
    (h : act.perform env s = .failed failure s') : s'.steps = s.steps := by
  by_cases helementary : act.isElementary
  · have hcount := Act.perform_steps hkeeps helementary s
    rw [h] at hcount
    exact hcount
  · cases act with
    | start statement =>
      have hcount := hkeeps.check statement s
      simp only [perform] at h
      split at h
      · cases h
      · next problem checked hcheck =>
        cases h
        rw [hcheck] at hcount
        exact hcount
    | round loop =>
      have hcount := hkeeps.check loop s
      rw [perform] at h
      rw [h] at hcount
      exact hcount
    | _ => exact absurd rfl helementary

theorem Completes.steps {acts : List Act} {s s' : State} (h : Completes env acts s s') :
    s'.steps = s.steps + acts.countP Act.isStart := by
  induction h with
  | nil => rfl
  | cons hact _ ih =>
    rw [ih, Act.steps_of_done hkeeps hact, List.countP_cons, Nat.add_assoc, Nat.add_comm (ite ..)]

/-- A run adds the statements that it begins to the count of steps. -/
theorem Machine.steps_of_run {fuel : Nat} {m : Machine} {o : Outcome}
    (h : m.run env fuel = some o) : o.state.steps = m.state.steps + m.begun env fuel := by
  obtain ⟨before, hcompletes, hends⟩ := record_completes h
  have hbefore := hcompletes.steps hkeeps
  unfold EndsAfter at hends
  split at hends
  · rw [hends]
    exact hbefore
  · obtain ⟨cause, hfailed⟩ := hends
    rw [Act.steps_of_failed hkeeps hfailed]
    exact hbefore

end

/-! ## What a submission counts -/

namespace Session

/-- How many statements are begun when a source is submitted; nothing if it cannot be read. -/
def begun? [Platform] (s : Session) (source : Text) (file : Option Text) : Option Nat :=
  match s.parse source file with
  | .error _ => none
  | .ok program => some ((Machine.start program s.state.rested).begun s.environment patience)

/-- After a submission the count is that of its statements, or as it was if its source cannot be
read. -/
theorem submit_steps [Platform] {s : Session} (hkeeps : s.environment.KeepsCount) {source : Text}
    {file : Option Text} (hends : (s.submit source file).2 ≠ some (.fault .unfinished)) :
    (s.submit source file).1.state.steps = (s.begun? source file).getD s.state.steps := by
  rw [submit_eq] at hends ⊢
  rw [begun?]
  cases hparse : s.parse source file with
  | error failure => rfl
  | ok program =>
    rw [hparse] at hends
    dsimp only at hends ⊢
    cases hrun : (Machine.start program s.state.rested).run s.environment patience with
    | none =>
      -- A run that outlasts the patience is reported as unfinished, which `hends` excludes.
      rw [Environment.submit_of_run_eq_none hrun] at hends
      exact absurd rfl hends
    | some raw =>
      have hfinishes : s.environment.Finishes patience program s.resume.state raw.report :=
        ⟨raw, hrun, rfl⟩
      -- The run starts from a count of zero.
      have hsteps := Machine.steps_of_run hkeeps hrun
      rw [hfinishes.submit_eq, settle_fst]
      show raw.report.state.steps = _
      rw [raw.report_state, hsteps]
      exact Nat.zero_add _

end Session

/-! ## Opened sessions -/

/-- A command that was made from a routine leaves the count of steps. -/
theorem Command.IsRoutine.steps {command : Command} (h : command.IsRoutine) (s : State) :
    (command s).state.steps = s.steps := by
  obtain ⟨r, sig, label, rfl⟩ := h
  cases hcommand : r.command sig label s with
  | done s' =>
    obtain ⟨_, _, _, stack, log, -, -, -, rfl⟩ := Routine.command_eq_done hcommand
    rfl
  | failed failure s' =>
    obtain ⟨log, rfl⟩ := Routine.command_eq_failed hcommand
    rfl

/-- A session that a host makes has the vocabulary of the host, and has counted nothing. -/
theorem Host.Makes.counts_nothing {h : Host} {s : Session} (hs : h.Makes s) :
    ∃ v state, h.vocabulary = .ok v ∧ s = .on v h.limit state ∧ state.steps = 0 := by
  rcases hs with ⟨device, hs⟩ | ⟨d, device, hs⟩
  · obtain ⟨v, hv, hs⟩ := bind_eq_ok.1 hs
    cases hs
    exact ⟨v, _, hv, rfl, rfl⟩
  · obtain ⟨v, hv, hs⟩ := bind_eq_ok.1 hs
    obtain ⟨state, hstate, hs⟩ := bind_eq_ok.1 hs
    cases hs
    obtain ⟨content, -, hstate⟩ := bind_eq_ok.1 hstate
    cases hstate
    exact ⟨v, _, hv, rfl, rfl⟩

namespace CommandLine

theorem announce_steps (plain : Bool) (statement : Statement) (s : State) :
    (announce plain statement s).state.steps = s.steps := by
  obtain ⟨events, hevents⟩ := announce_state plain statement s
  rw [hevents]

/-- Extensions are all that is registered. -/
theorem loadExtensions_frame {names : List Text} {h h' : Host}
    (hload : loadExtensions h names = .ok h') : ∃ extensions, h' = { h with extensions } := by
  induction names generalizing h with
  | nil =>
    cases hload
    exact ⟨_, rfl⟩
  | cons name names ih =>
    rw [loadExtensions] at hload
    split at hload
    · next between hbetween =>
      unfold Host.loadExtension at hbetween
      split at hbetween
      · cases hbetween
      · cases hbetween
        obtain ⟨extensions, rfl⟩ := ih hload
        split <;> exact ⟨_, rfl⟩
    · cases hload

/-- A session that is opened was made by the host. -/
theorem makes_of_openSession {h : Host} {folder : Folder} {stateFile : Option Text}
    {session : Session} (hopen : openSession h folder stateFile = .ok session) :
    h.Makes session := by
  have hfresh : (h.newSession .console).mapError Refusal.ofFailure = .ok session →
      h.Makes session := fun hnew => .inl ⟨_, mapError_eq_ok.1 hnew⟩
  unfold openSession at hopen
  dsimp only at hopen
  split at hopen
  · exact hfresh hopen
  · split at hopen
    · exact hfresh hopen
    · exact hfresh hopen
    · exact hfresh hopen
    all_goals
      split at hopen
      · cases hopen
      · split at hopen
        · next hload =>
          cases hopen
          obtain ⟨d, -, hrestore⟩ := bind_eq_ok.1 hload
          exact .inr ⟨d, _, hrestore⟩
        · cases hopen

/-- A runner that is opened leaves the count of steps to its runs, and has counted nothing. -/
theorem Runner.open_counts_nothing [Platform] {settings : Settings} {shelf : Shelf}
    {folder : Folder} {r : Runner} (hopen : Runner.open settings shelf folder = .ok r) :
    r.session.environment.KeepsCount ∧ r.session.state.steps = 0 ∧ r.totalSteps = 0 := by
  obtain ⟨h, hload, hopen⟩ := bind_eq_ok.1 hopen
  obtain ⟨session, hsession, hopen⟩ := bind_eq_ok.1 hopen
  obtain ⟨extensions, rfl⟩ := loadExtensions_frame (mapError_eq_ok.1 hload)
  obtain ⟨v, state, hv, rfl, hsteps⟩ := (makes_of_openSession hsession).counts_nothing
  have hroutines : v.Each fun _ command => command.IsRoutine := by
    -- the host has registered nothing but extensions, whose operators are routines
    have hsuits : ∀ r : Routine, Vocabulary.Suits (fun _ command => command.IsRoutine) r :=
      fun r name sig _ _ => ⟨r, sig, name, rfl⟩
    obtain ⟨loaded, hloaded, hv⟩ := bind_eq_ok.1 hv
    cases hv
    exact Vocabulary.Each.loadAll (.builtins fun e _ => hsuits e.2)
      (fun _ _ _ r _ => hsuits r) hloaded
  have hcommands : ∀ name command, v.command? name = some command →
      ∀ s, (command s).state.steps = s.steps := fun name command hcommand s =>
    (hroutines.command? hcommand).steps s
  cases hopen
  split
  · exact ⟨⟨hcommands, announce_steps settings.plain⟩, hsteps, rfl⟩
  · exact ⟨⟨hcommands, fun _ _ => rfl⟩, hsteps, rfl⟩

/-! ## What a runner adds up -/

/-- The runner that is left by a piece of its work. -/
def Step.runner : Step → Runner
  | .next r | .quit _ r | .escape _ r => r

namespace Runner

/-- The runner that is left by tasks that are executed in order, whatever becomes of each. -/
def executeAll [Platform] (r : Runner) (tasks : List Task) : Runner :=
  tasks.foldl (fun r task => (r.execute task.source task.name task.withTop).runner) r

variable {r : Runner} {tasks : List Task}

/-- A runner that quits saves its session as it is. -/
theorem stop_runner (r : Runner) :
    r.stop.runner.session = r.session ∧ r.stop.runner.totalSteps = r.totalSteps := by
  unfold stop
  obtain ⟨folder, hsave | ⟨failure, hsave⟩⟩ := r.save_frame <;>
    · rw [hsave]
      exact ⟨rfl, rfl⟩

/-- A source that is executed is attempted, and what the session has counted then is added. -/
theorem execute_counts [Platform] (r : Runner) (task : Task) :
    let left := (r.execute task.source task.name task.withTop).runner
    left.session = (task.attempt r.session).session ∧
      left.totalSteps = r.totalSteps + (task.attempt r.session).session.state.steps := by
  obtain ⟨source, name, withTop⟩ := task
  cases hsubmit : r.session.submit source (some name) with
  | mk session failure =>
  -- what follows the attempt changes neither the session nor the count of this runner
  let made : Runner := r.counting session
  have hattempt : ((Task.mk source name withTop).attempt r.session).session = made.session := by
    rw [Task.attempt, hsubmit]
    rfl
  intro left
  rw [hattempt]
  show (r.execute source name withTop).runner.session = made.session ∧
    (r.execute source name withTop).runner.totalSteps = made.totalSteps
  cases failure with
  | some failure =>
    rw [execute_of_failed hsubmit]
    rcases made.report_frame failure name source with ⟨console, hreport, -⟩ | ⟨fault, hreport⟩
    · rw [hreport]
      dsimp only
      rw [afterReport_eq]
      split
      · exact ⟨rfl, rfl⟩
      · exact stop_runner _
    · rw [hreport]
      exact ⟨rfl, rfl⟩
  | none =>
    rw [execute_of_done hsubmit]
    split
    · rcases made.complete.showTop_frame "" with ⟨console, hshow, -⟩ | ⟨fault, console, hshow⟩ <;>
        · rw [hshow]
          exact ⟨rfl, rfl⟩
    · exact ⟨rfl, rfl⟩

end Runner

/-- How many statements are begun in each of the tasks that are executed in order on a session;
nothing for a source that cannot be read. -/
def begunIn [Platform] (s : Session) : List Task → List (Option Nat)
  | [] => []
  | task :: rest =>
    s.begun? task.source (some task.name) :: begunIn (task.attempt s).session rest

/-- The counts with a gap filled by the count before it, the first one by `last`. -/
def filled (last : Nat) : List (Option Nat) → List Nat
  | [] => []
  | count? :: rest => count?.getD last :: filled (count?.getD last) rest

theorem sum_le_sum_filled (last : Nat) (counts : List (Option Nat)) :
    (counts.map (·.getD 0)).sum ≤ (filled last counts).sum := by
  induction counts generalizing last with
  | nil => exact Nat.le_refl _
  | cons count? counts ih =>
    have hrest := ih (count?.getD last)
    rw [List.map_cons, List.sum_cons, filled, List.sum_cons]
    cases count? with
    | none => exact Nat.add_le_add (Nat.zero_le last) hrest
    | some count => exact Nat.add_le_add_left hrest count

/-- Filling the gaps adds nothing exactly if there is a gap only where the last count is zero. -/
theorem sum_filled_eq_iff (last : Nat) (counts : List (Option Nat)) :
    (filled last counts).sum = (counts.map (·.getD 0)).sum ↔
      ∀ before after, counts = before ++ none :: after →
        before.reduceOption.getLast?.getD last = 0 := by
  induction counts generalizing last with
  | nil => simp [filled]
  | cons count? counts ih =>
    have hle := sum_le_sum_filled (count?.getD last) counts
    rw [List.map_cons, List.sum_cons, filled, List.sum_cons]
    cases count? with
    | none =>
      have hsplit : last + (filled last counts).sum = 0 + (counts.map (·.getD 0)).sum ↔
          last = 0 ∧ (filled last counts).sum = (counts.map (·.getD 0)).sum := by
        rw [Option.getD_none] at hle
        omega
      refine hsplit.trans ((and_congr_right fun _ => ih last).trans ⟨?_, ?_⟩)
      · rintro ⟨hlast, hrest⟩ before after h
        cases before with
        | nil => exact hlast
        | cons first before =>
          obtain ⟨rfl, rfl⟩ := List.cons.inj h
          exact hrest before after rfl
      · intro h
        exact ⟨h [] counts rfl, fun before after hrest => h (none :: before) after (hrest ▸ rfl)⟩
    | some count =>
      have hlast : ∀ before : List (Option Nat),
          (some count :: before).reduceOption.getLast?.getD last =
            before.reduceOption.getLast?.getD count := by
        intro before
        rw [List.reduceOption_cons_of_some, List.getLast?_cons]
        rfl
      refine (Nat.add_left_cancel_iff (n := count)).trans ((ih count).trans ⟨?_, ?_⟩)
      · intro hrest before after h
        cases before with
        | nil => cases h
        | cons first before =>
          obtain ⟨rfl, rfl⟩ := List.cons.inj h
          rw [hlast]
          exact hrest before after rfl
      · intro h before after hrest
        rw [← hlast]
        exact h (some count :: before) after (hrest ▸ rfl)

/-- If failures are ignored, all tasks are attempted. -/
theorem executed_true_cons [Platform] (s : Session) (task : Task) (tasks : List Task) :
    executed true s (task :: tasks) =
      task.attempt s :: executed true (task.attempt s).session tasks := by
  rw [executed, Bool.not_true, Bool.and_false, if_neg Bool.false_ne_true]

namespace Runner

variable {r : Runner} {tasks : List Task}

/-- What a runner adds up is what its session has counted, gaps being filled. -/
theorem executeAll_counts [Platform] (hkeeps : r.session.environment.KeepsCount)
    (hends : ∀ attempt ∈ executed true r.session tasks,
      attempt.failure ≠ some (.fault .unfinished)) :
    (r.executeAll tasks).totalSteps =
      r.totalSteps + (filled r.session.state.steps (begunIn r.session tasks)).sum := by
  -- the runner is generalized, since each task is executed on what the one before it has left
  induction tasks generalizing r with
  | nil => rfl
  | cons task tasks ih =>
    rw [executed_true_cons] at hends
    obtain ⟨htask, hrest⟩ := List.forall_mem_cons.1 hends
    obtain ⟨hsession, htotal⟩ := r.execute_counts task
    have hsteps : (task.attempt r.session).session.state.steps =
        (r.session.begun? task.source (some task.name)).getD r.session.state.steps :=
      Session.submit_steps hkeeps htask
    have hkeeps' : (task.attempt r.session).session.environment.KeepsCount := by
      obtain ⟨state, failure, hframe⟩ := r.session.submit_frame task.source (some task.name)
      rw [Task.attempt, hframe]
      exact hkeeps
    rw [← hsession] at hrest hkeeps'
    have hlater := ih hkeeps' hrest
    rw [hsession, hsteps] at hlater
    rw [executeAll, List.foldl_cons]
    refine hlater.trans ?_
    rw [htotal, hsteps, begunIn, filled, List.sum_cons, Nat.add_assoc]

end Runner

/-- The total after tasks that are executed in order. It is the sum of the statements begun in each,
where a source that cannot be read counts as much as the last one before it that could. So the total
is the number of all statements that were begun exactly if nothing had been begun in the last source
that could be read, if there was one, wherever one cannot be read. -/
theorem total_of_executeAll [Platform] {settings : Settings} {shelf : Shelf} {folder : Folder}
    {r : Runner} (hopen : Runner.open settings shelf folder = .ok r) {tasks : List Task}
    (hends : ∀ attempt ∈ executed true r.session tasks,
      attempt.failure ≠ some (.fault .unfinished)) :
    let counts := begunIn r.session tasks
    (r.executeAll tasks).totalSteps = (filled 0 counts).sum ∧
      ((r.executeAll tasks).totalSteps = (counts.map (·.getD 0)).sum ↔
        ∀ before after, counts = before ++ none :: after →
          before.reduceOption.getLast?.getD 0 = 0) := by
  intro counts
  obtain ⟨hkeeps, hsteps, htotal⟩ := Runner.open_counts_nothing hopen
  have hsum : (r.executeAll tasks).totalSteps = (filled 0 counts).sum := by
    rw [Runner.executeAll_counts hkeeps hends, hsteps, htotal, Nat.zero_add]
  refine ⟨hsum, ?_⟩
  rw [hsum]
  exact sum_filled_eq_iff 0 counts

/-! ### A source that is counted twice -/

/-- Settings under which failures are ignored. -/
def lenientSettings : Settings :=
  { ignoringSettings with stateFile := none }

/-- The runner that is opened with these settings where there are no files. -/
def lenientRunner : Runner :=
  { settings := lenientSettings
    session := freshSession
    folder := ⟨.empty, []⟩
    console := .blank false
    failed := false
    completed := 0
    totalSteps := 0 }

theorem open_lenientRunner : Runner.open lenientSettings [] ⟨.empty, []⟩ = .ok lenientRunner :=
  rfl

/-- A source with three statements. -/
def threeNumbers : Task :=
  ⟨"1 2 3", "<INPUT_1>", true⟩

/-- A source that cannot be read, since a block is left open. -/
def openBlock : Task :=
  ⟨"if", "<INPUT_2>", true⟩

theorem attempt_threeNumbers [Platform] :
    threeNumbers.attempt freshSession =
        ⟨threeNumbers,
          .on .builtins none
            { State.initial .console with stack := [.int 3, .int 2, .int 1], steps := 3 }, none⟩ ∧
      freshSession.begun? threeNumbers.source (some threeNumbers.name) = some 3 := by
  have hparse : ∀ isCommand, Program.parse isCommand "1 2 3" (some "<INPUT_1>") =
      .ok [.literal (.int 1) ⟨1, 1⟩, .literal (.int 2) ⟨1, 3⟩, .literal (.int 3) ⟨1, 5⟩] := by
    intro isCommand
    cbv
  have hrun : (Machine.start
      [.literal (.int 1) ⟨1, 1⟩, .literal (.int 2) ⟨1, 3⟩, .literal (.int 3) ⟨1, 5⟩]
      freshSession.state.rested).run freshSession.environment 6 =
        some (.done { State.initial .console with
          stack := [.int 3, .int 2, .int 1], steps := 3 }) := rfl
  have hkeeps : freshSession.environment.KeepsCount :=
    (Runner.open_counts_nothing open_lenientRunner).1
  refine ⟨Task.attempt_of_run (hparse _) hrun six_le_patience true, ?_⟩
  -- what the run has counted tells how many statements it has begun, however long it may be
  have hcount := Machine.steps_of_run hkeeps (Machine.run_mono six_le_patience hrun)
  rw [Session.begun?, Session.parse, threeNumbers, hparse]
  exact congrArg some (hcount.trans (Nat.zero_add _)).symm

theorem attempt_openBlock [Platform] (s : Session) :
    (∃ problem, (openBlock.attempt s).failure = some (.of (.parse problem))) ∧
      s.begun? openBlock.source (some openBlock.name) = none := by
  have hparse : ∃ problem, ∀ isCommand, Program.parse isCommand "if" (some "<INPUT_2>") =
      .error (.of (.parse problem)) := by
    refine ⟨⟨.endOfInput, ⟨1, 1⟩, some "<INPUT_2>"⟩, fun isCommand => ?_⟩
    cbv
  obtain ⟨problem, hparse⟩ := hparse
  constructor
  · refine ⟨problem, ?_⟩
    rw [Task.attempt, Session.submit_eq, Session.parse, openBlock, hparse]
  · rw [Session.begun?, Session.parse, openBlock, hparse]

section

attribute [local instance] Platform.basic

/-- Three statements are begun, and six are counted. -/
theorem total_of_threeNumbers_openBlock :
    Runner.open lenientSettings [] ⟨.empty, []⟩ = .ok lenientRunner ∧
      (∀ attempt ∈ executed true lenientRunner.session [threeNumbers, openBlock],
        attempt.failure ≠ some (.fault .unfinished)) ∧
      begunIn lenientRunner.session [threeNumbers, openBlock] = [some 3, none] ∧
      (lenientRunner.executeAll [threeNumbers, openBlock]).totalSteps = 6 := by
  obtain ⟨hfirst, hthree⟩ := attempt_threeNumbers
  have hends : ∀ attempt ∈ executed true lenientRunner.session [threeNumbers, openBlock],
      attempt.failure ≠ some (.fault .unfinished) := by
    obtain ⟨⟨problem, hfailure⟩, -⟩ := attempt_openBlock (threeNumbers.attempt freshSession).session
    rw [executed_true_cons, executed_true_cons, executed]
    refine List.forall_mem_cons.2 ⟨?_, List.forall_mem_singleton.2 ?_⟩
    · show (threeNumbers.attempt freshSession).failure ≠ _
      rw [hfirst]
      intro h
      cases h
    · show (openBlock.attempt (threeNumbers.attempt freshSession).session).failure ≠ _
      rw [hfailure]
      intro h
      cases h
  have hcounts : begunIn lenientRunner.session [threeNumbers, openBlock] = [some 3, none] := by
    show [freshSession.begun? _ _, (threeNumbers.attempt freshSession).session.begun? _ _] = _
    rw [hthree, (attempt_openBlock _).2]
  refine ⟨open_lenientRunner, hends, hcounts, ?_⟩
  obtain ⟨htotal, -⟩ := total_of_executeAll open_lenientRunner hends
  rw [htotal, hcounts]
  rfl

end

end CommandLine

end StackShell
