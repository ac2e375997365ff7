import StackShell.Proofs.Tasks

/-!
# Runs of files and inline code

A command line that opens no dialogue has a row of *tasks*, sources that are executed in order on
one session. What comes of them is a row of *attempts*, each on the session that the one before it
left, and it decides how the run ends (`run_batch`): the code tells whether an attempt failed, and
the state file keeps the stack and the variables that the last attempt left, however it ended.
Failures that are not ignored end the run, so that later tasks have no part in it.

The command line has to be understood, its scripts have to be texts, and its state file has to
serve: a run is refused before anything is executed if the file holds no state, and ends without a
code if it cannot be written (`run_unserved`). Nor may a surrogate have to be written, which ends a
run where it happens (`Attempt.Tellable`, `Session.Savable`).
-/

namespace StackShell

namespace CommandLine

/-! ## Attempts -/

/-- What came of a task. -/
structure Attempt where
  task : Task
  /-- The session that it left, without its events. -/
  session : Session
  /-- Why it failed, if it did. -/
  failure : Option Failure

/-- Whether the task failed. -/
def Attempt.failed (attempt : Attempt) : Bool :=
  attempt.failure.isSome

/-- Whether no surrogate keeps a runner from telling what came of a task: from writing the report of
its failure, on a plain console, or the top of the stack, if that is shown. -/
structure Attempt.Tellable (plain : Bool) (attempt : Attempt) : Prop where
  report : plain = true → ∀ failure ∈ attempt.failure, ∀ report,
    reportOf failure attempt.task.name attempt.task.source attempt.session.state.stack =
        .ok report →
      report.text.Encodable
  top : attempt.task.withTop = true → attempt.failure = none →
    ∀ v ∈ attempt.session.state.stack.head?, ∀ text, v.source = .ok text → text.Encodable

/-- What comes of a task that is executed on a session: its source is submitted. -/
def Task.attempt [Platform] (task : Task) (s : Session) : Attempt :=
  let (session, failure) := s.submit task.source (some task.name)
  ⟨task, session.takeEvents.2, failure⟩

/-- What comes of the tasks that are executed in order, each on the session that the one before it
left: of all tasks if failures are ignored, and otherwise of those up to the first one that fails,
which is the last. -/
def executed [Platform] (ignore : Bool) (s : Session) : List Task → List Attempt
  | [] => []
  | task :: rest =>
    let attempt := task.attempt s
    if attempt.failed && !ignore then [attempt]
    else attempt :: executed ignore attempt.session rest

/-- The session after attempts that began on the session `s`. -/
def latest (s : Session) (made : List Attempt) : Session :=
  (made.getLast?.map Attempt.session).getD s

theorem latest_cons (s : Session) (attempt : Attempt) (made : List Attempt) :
    latest s (attempt :: made) = latest attempt.session made := by
  unfold latest
  rw [List.getLast?_cons]
  cases made.getLast? <;> rfl

section

variable {ignore : Bool} {s : Session} {tasks : List Task}

theorem executed_ne_nil [Platform] (h : tasks ≠ []) : executed ignore s tasks ≠ [] := by
  cases tasks with
  | nil => exact absurd rfl h
  | cons task rest =>
    rw [executed]
    split <;> exact List.cons_ne_nil _ _

/-- The tasks that are executed are the first ones. -/
theorem executed_prefix [Platform] : (executed ignore s tasks).map Attempt.task <+: tasks := by
  induction tasks generalizing s with
  | nil => exact List.prefix_rfl
  | cons task rest ih =>
    rw [executed]
    split
    · exact (List.prefix_cons_inj task).2 List.nil_prefix
    · exact (List.prefix_cons_inj task).2 ih

/-- If failures are ignored, all tasks are executed. -/
theorem executed_of_ignore [Platform] : (executed true s tasks).map Attempt.task = tasks := by
  induction tasks generalizing s with
  | nil => rfl
  | cons task rest ih =>
    rw [executed]
    rw [Bool.not_true, Bool.and_false, if_neg Bool.false_ne_true]
    exact congrArg (task :: ·) ih

/-- If failures are not ignored, nothing follows an attempt that failed, and there are tasks that
are not executed only if one has failed. -/
theorem executed_of_not_ignore [Platform] :
    (∀ attempt ∈ (executed false s tasks).dropLast, attempt.failed = false) ∧
      ((executed false s tasks).any Attempt.failed = false →
        (executed false s tasks).map Attempt.task = tasks) := by
  induction tasks generalizing s with
  | nil => exact ⟨fun _ h => (List.not_mem_nil h).elim, fun _ => rfl⟩
  | cons task rest ih =>
    obtain ⟨hearlier, hall⟩ := ih (s := (task.attempt s).session)
    rw [executed]
    cases hfailed : (task.attempt s).failed with
    | true =>
      rw [Bool.not_false, Bool.and_true, if_pos rfl]
      refine ⟨fun _ h => (List.not_mem_nil h).elim, fun hnone => ?_⟩
      rw [List.any_cons, hfailed] at hnone
      cases hnone
    | false =>
      rw [Bool.false_and, if_neg Bool.false_ne_true]
      constructor
      · intro attempt hattempt
        -- this attempt is not the last one only if others follow
        cases hrest : executed false (task.attempt s).session rest with
        | nil =>
          rw [hrest] at hattempt
          cases hattempt
        | cons next others =>
          rw [hrest] at hattempt hearlier
          rcases List.mem_cons.1 hattempt with rfl | hmem
          · exact hfailed
          · exact hearlier attempt hmem
      · intro hnone
        rw [List.any_cons, hfailed, Bool.false_or] at hnone
        exact congrArg (task :: ·) (hall hnone)

theorem Task.attempt_steady [Platform] (hs : s.Steady) (task : Task) :
    (task.attempt s).session.Steady := by
  cases h : s.submit task.source (some task.name) with
  | mk session failure =>
  unfold attempt
  rw [h]
  exact hs.submit h

theorem steady_of_mem_executed [Platform] (hs : s.Steady) :
    ∀ attempt ∈ executed ignore s tasks, attempt.session.Steady := by
  induction tasks generalizing s with
  | nil =>
    intro attempt hattempt
    cases hattempt
  | cons task rest ih =>
    have htask := task.attempt_steady hs
    rw [executed]
    split
    · exact List.forall_mem_singleton.2 htask
    · exact List.forall_mem_cons.2 ⟨htask, ih htask⟩

end

namespace Runner

variable {r : Runner} {tasks : List Task}

theorem Made.trans {r' r'' : Runner} {session session' : Session} {failed failed' : Bool}
    (h : r.Made session failed r') (h' : r'.Made session' failed' r'') :
    r.Made session' (failed || failed') r'' where
  session := h'.session
  settings := h'.settings.trans h.settings
  folder := h'.folder.trans h.folder
  plain := h'.plain.trans h.plain
  failed := by rw [h'.failed, h.failed, Bool.or_assoc]

/-- A task that is executed is attempted, and the run goes on unless that failed and failures are
not ignored. -/
theorem execute_attempt [Platform] (hr : r.session.Steady) {task : Task}
    (hshort : (task.attempt r.session).session.state.Short)
    (htell : (task.attempt r.session).Tellable r.console.plain) :
    ∃ r', r.Made (task.attempt r.session).session (task.attempt r.session).failed r' ∧
      r.execute task.source task.name task.withTop =
        if (task.attempt r.session).failed && !r.settings.ignore then r'.stop else .next r' := by
  cases hsubmit : r.session.submit task.source (some task.name) with
  | mk session failure =>
  have hattempt : task.attempt r.session = ⟨task, session.takeEvents.2, failure⟩ := by
    rw [Task.attempt, hsubmit]
  rw [hattempt] at hshort htell ⊢
  exact execute_cases hr hsubmit ⟨hshort.stack, hshort.bindings⟩ htell.report htell.top

theorem stop_andThen (r : Runner) (work : Runner → Step) : r.stop.andThen work = r.stop := by
  unfold stop
  cases r.save <;> rfl

/-- A task that ends the run is the last one to be worked off. -/
theorem workOff_of_stop [Platform] {task : Task} {r' : Runner}
    (h : r.execute task.source task.name task.withTop = r'.stop) (rest : List Task) :
    r.workOff (task :: rest) = r'.stop := by
  rw [workOff, h, stop_andThen]

/-- The tasks behind one that does not are worked off on the runner that it leaves. -/
theorem workOff_of_next [Platform] {task : Task} {r' : Runner}
    (h : r.execute task.source task.name task.withTop = .next r') (rest : List Task) :
    r.workOff (task :: rest) = r'.workOff rest := by
  rw [workOff, h]
  rfl

/-- Working off tasks makes the attempts that are to be made and no others. -/
theorem workOff_cases [Platform] (hr : r.session.Steady) {made : List Attempt}
    (hmade : made = executed r.settings.ignore r.session tasks)
    (htold : ∀ attempt ∈ made, attempt.session.state.Short ∧ attempt.Tellable r.console.plain) :
    ∃ r', r.Made (latest r.session made) (made.any Attempt.failed) r' ∧
      r.workOff tasks =
        (if made.any Attempt.failed && !r.settings.ignore then r'.stop else .next r') ∧
      r.workOff (made.map Attempt.task) = r.workOff tasks := by
  -- the runner is generalized, since each task is executed on what the one before it has made
  induction tasks generalizing r made with
  | nil =>
    obtain rfl : made = [] := hmade
    exact ⟨r, ⟨rfl, rfl, rfl, rfl, (Bool.or_false _).symm⟩, rfl, rfl⟩
  | cons task rest ih =>
    rw [executed] at hmade
    split at hmade
    · next hfails =>
      subst hmade
      obtain ⟨hshort, htell⟩ := htold _ List.mem_cons_self
      obtain ⟨r', hafter, hexecute⟩ := execute_attempt hr hshort htell
      rw [if_pos hfails] at hexecute
      have hfailed : (task.attempt r.session).failed = true := (Bool.and_eq_true_iff.1 hfails).1
      have hstop := workOff_of_stop hexecute
      refine ⟨r', ?_, ?_, ?_⟩
      · rw [latest_cons, List.any_cons, List.any_nil, Bool.or_false]
        exact hafter
      · rw [hstop rest, List.any_cons, List.any_nil, Bool.or_false, if_pos hfails]
      · rw [hstop rest]
        exact hstop []
    · next hgoes =>
      subst hmade
      obtain ⟨⟨hshort, htell⟩, hrest⟩ := List.forall_mem_cons.1 htold
      obtain ⟨r', hafter, hexecute⟩ := execute_attempt hr hshort htell
      rw [if_neg hgoes] at hexecute
      have hnext := workOff_of_next hexecute
      have hsteady : r'.session.Steady := by
        rw [hafter.session]
        exact task.attempt_steady hr
      rw [← hafter.plain] at hrest
      obtain ⟨r'', hafter', hworkOff, hsame⟩ :=
        ih hsteady (by rw [hafter.session, hafter.settings]) hrest
      rw [hafter.settings] at hworkOff
      refine ⟨r'', ?_, ?_, ?_⟩
      · rw [hafter.session] at hafter'
        rw [latest_cons, List.any_cons]
        exact hafter.trans hafter'
      · rw [hnext rest, hworkOff, List.any_cons]
        cases hfailed : (task.attempt r.session).failed with
        | false => rw [Bool.false_or]
        | true =>
          -- the run goes on after a failure, so failures are ignored and nothing stops it later
          rw [hfailed, Bool.true_and] at hgoes
          rw [Bool.eq_false_iff.2 hgoes, Bool.and_false, Bool.and_false]
      · rw [hnext rest, ← hsame]
        exact hnext _

/-- A whole run on tasks: they are worked off, and then the run is finished. -/
def runTasks [Platform] (r : Runner) (tasks : List Task) : Step :=
  (r.workOff tasks).andThen fun r => r.finish 0

/-- A run on tasks ends with a code that tells whether an attempt failed, after the session that the
last attempt left was saved. Tasks that are not executed have no part in it. -/
theorem runTasks_saves [Platform] (hr : r.session.Steady) (hfresh : r.failed = false)
    (hsave : r.CanSave) (hne : tasks ≠ []) {made : List Attempt}
    (hmade : made = executed r.settings.ignore r.session tasks)
    (htold : ∀ attempt ∈ made, attempt.session.state.Short ∧ attempt.Tellable r.console.plain)
    (hsavable : r.settings.stateFile ≠ none → ∀ last ∈ made.getLast?, last.session.Savable) :
    ∃ last r', made.getLast? = some last ∧
      r.runTasks tasks = .quit (if made.any Attempt.failed then 1 else 0) r' ∧
      (∀ path ∈ r.settings.stateFile, r'.folder.Keeps path last.session.state) ∧
      r.runTasks (made.map Attempt.task) = r.runTasks tasks := by
  have hmadeNe : made ≠ [] := hmade ▸ executed_ne_nil hne
  obtain ⟨last, hlast⟩ : ∃ last, made.getLast? = some last :=
    ⟨_, List.getLast?_eq_some_getLast hmadeNe⟩
  have hmem : last ∈ made := List.mem_of_getLast? hlast
  obtain ⟨r', hafter, hworkOff, hsame⟩ := workOff_cases hr hmade htold
  have hsession : r'.session = last.session := by
    rw [hafter.session, latest, hlast]
    rfl
  have hplain : r'.session.state.Plain := by
    rw [hsession]
    exact (steady_of_mem_executed hr last (hmade ▸ hmem)).plain
  have hshort : r'.session.state.Short := by
    rw [hsession]
    exact (htold last hmem).1
  have hsavable : r'.settings.stateFile ≠ none → r'.session.Savable := by
    rw [hafter.settings, hsession]
    exact fun hfile => hsavable hfile last hlast
  have hcanSave : r'.CanSave := by
    unfold CanSave
    rw [hafter.settings, hafter.folder]
    exact hsave
  have hfailed : r'.failed = made.any Attempt.failed := by
    rw [hafter.failed, hfresh, Bool.false_or]
  -- the session is saved once, on the way out of a failure or in the end
  have hends : r'.Saves (if made.any Attempt.failed then 1 else 0) (r.runTasks tasks) := by
    unfold runTasks
    rw [hworkOff]
    cases hstops : made.any Attempt.failed && !r.settings.ignore with
    | true =>
      rw [if_pos rfl, stop_andThen, if_pos (Bool.and_eq_true_iff.1 hstops).1]
      exact exists_stop hplain hshort hcanSave hsavable
    | false =>
      rw [← hfailed]
      exact exists_finish hplain hshort hcanSave hsavable 0
  obtain ⟨r'', hquit, hkeeps⟩ := hends
  rw [hafter.settings, hsession] at hkeeps
  refine ⟨last, r'', hlast, hquit, hkeeps, ?_⟩
  unfold runTasks
  rw [hsame]

/-- A task that succeeds leaves nothing but the end of the run. -/
theorem runTasks_of_done [Platform] (hr : r.session.Steady) {task : Task}
    (hshort : (task.attempt r.session).session.state.Short)
    (htell : (task.attempt r.session).Tellable r.console.plain)
    (hdone : (task.attempt r.session).failed = false) :
    ∃ r', r.Made (task.attempt r.session).session false r' ∧ r.runTasks [task] = r'.finish 0 := by
  obtain ⟨r', hafter, hexecute⟩ := execute_attempt hr hshort htell
  rw [hdone] at hafter hexecute
  refine ⟨r', hafter, ?_⟩
  unfold runTasks
  rw [workOff_of_next hexecute []]
  rfl

end Runner

/-! ## Whole runs -/

section

variable {setup : Setup} {settings : Settings} {plan : Plan}

/-- A run on an opened runner is a run on the tasks of its plan. -/
theorem run_eq_runTasks [Platform] {input : Text} {r : Runner} {tasks : List Task}
    (hunderstood : understand setup.folder setup.interactive setup.words =
      .ok (some (settings, plan)))
    (hopen : Runner.open settings setup.shelf setup.folder = .ok r)
    (htasks : plan.tasks? r.folder (Text.ofList (Text.plainLineEnds input.toList)) =
      some tasks) :
    run setup input = (r.runTasks tasks).result := by
  have hprepare : prepare setup = .ok (r, plan) := by
    unfold prepare
    dsimp only
    rw [hunderstood]
    dsimp only
    rw [hopen]
  unfold run
  rw [hprepare]
  dsimp only
  rw [Runner.carryOut_eq_workOff htasks]
  rfl

/-- Runs of files and inline code over the built-in commands, on a command line that is understood,
whose scripts are texts, and whose state file, if there is one, serves. There is a task for each
action. If failures are ignored, all tasks are executed, in order and on one session, and otherwise
those up to the first one that fails. If the integers that this leaves are short, and no surrogate
has to be written to the console or to the state file, the code tells whether a task failed, the run
is that of the executed tasks alone, and the state file keeps the stack and the variables that the
last of them left. -/
theorem run_batch [Platform]
    (hunderstood : understand setup.folder setup.interactive setup.words =
      .ok (some (settings, plan)))
    (hbuiltin : settings.extensions = []) (hbatch : plan.IsBatch)
    (hlegible : plan.IsLegible setup.folder)
    (hserves : ∀ path ∈ settings.stateFile, ServesState setup.folder path) (input : Text) :
    ∃ r tasks, Runner.open settings setup.shelf setup.folder = .ok r ∧
      plan.tasks? setup.folder (Text.ofList (Text.plainLineEnds input.toList)) = some tasks ∧
      tasks ≠ [] ∧
      let made := executed settings.ignore r.session tasks
      made.map Attempt.task <+: tasks ∧
      (settings.ignore = true → made.map Attempt.task = tasks) ∧
      (settings.ignore = false →
        (∀ attempt ∈ made.dropLast, attempt.failed = false) ∧
          (made.any Attempt.failed = false → made.map Attempt.task = tasks)) ∧
      ((∀ attempt ∈ made, attempt.session.state.Short ∧ attempt.Tellable settings.plain) →
        (settings.stateFile ≠ none → ∀ last ∈ made.getLast?, last.session.Savable) →
        (run setup input).ending = .ok (if made.any Attempt.failed then 1 else 0) ∧
        run setup input = (r.runTasks (made.map Attempt.task)).result ∧
        ∃ last, made.getLast? = some last ∧
          ∀ path ∈ settings.stateFile,
            (run setup input).folder.Keeps path last.session.state) := by
  obtain ⟨r, hopen, hopened⟩ := exists_open hbuiltin hserves
  obtain ⟨command, operands, hplan⟩ := understand_eq_ok hunderstood
  obtain ⟨tasks, htasks, hne⟩ := exists_tasks_of_plan hplan hbatch hlegible
    (Text.ofList (Text.plainLineEnds input.toList))
  have hrun : run setup input = (r.runTasks tasks).result :=
    run_eq_runTasks hunderstood hopen (hopened.folder ▸ htasks)
  refine ⟨r, tasks, hopen, htasks, hne, executed_prefix, ?_, ?_, fun htold hsavable => ?_⟩
  · intro hignore
    rw [hignore]
    exact executed_of_ignore
  · intro hignore
    rw [hignore]
    exact executed_of_not_ignore
  · have hsave : r.CanSave := by
      unfold Runner.CanSave
      rw [hopened.folder, hopened.settings]
      exact fun path hpath => (hserves path hpath).writable
    rw [← hopened.plain, ← hopened.settings] at htold
    rw [← hopened.settings] at hsavable
    obtain ⟨last, r', hlast, hquit, hkeeps, hsame⟩ :=
      Runner.runTasks_saves hopened.steady hopened.failed hsave hne rfl htold hsavable
    rw [hopened.settings] at hlast hquit hkeeps hsame
    rw [hsame, hrun, hquit]
    exact ⟨rfl, rfl, last, hlast, hkeeps⟩

end

/-! ### Some runs -/

theorem Task.attempt_of_run [Platform] {source name : Text} {s : Session} {program : Program}
    {fuel : Nat}
    {raw : Outcome} (hparse : Program.parse s.vocabulary.contains source (some name) = .ok program)
    (hrun : (Machine.start program s.state.rested).run s.environment fuel = some raw)
    (hfuel : fuel ≤ patience) (withTop : Bool) :
    (Task.mk source name withTop).attempt s =
      ⟨⟨source, name, withTop⟩, (s.settle raw.report).1.takeEvents.2, (s.settle raw.report).2⟩ := by
  have hfinishes : s.environment.Finishes patience program s.resume.state raw.report :=
    ⟨raw, Machine.run_mono hfuel hrun, rfl⟩
  have hsubmit : s.submit source (some name) = s.settle raw.report := by
    rw [Session.submit_eq, Session.parse, hparse]
    exact congrArg s.settle hfinishes.submit_eq
  rw [attempt, hsubmit]

theorem six_le_patience : 6 ≤ patience := by
  decide +kernel

/-- A fresh session with the built-in commands. -/
def freshSession : Session :=
  .on .builtins none (.initial .console)

/-- A source that fails half-way: it pushes a number, which is no function that could be called. -/
def callsNumber : Task :=
  ⟨"2 @", "<INPUT_1>", true⟩

theorem attempt_callsNumber [Platform] :
    callsNumber.attempt freshSession =
      ⟨callsNumber,
        .on .builtins none { State.initial .console with stack := [.int 2], steps := 2 },
        some (.script (.mismatch "function" "number") (some ⟨1, 3⟩))⟩ := by
  have hparse : ∀ isCommand, Program.parse isCommand "2 @" (some "<INPUT_1>") =
      .ok [.literal (.int 2) ⟨1, 1⟩, .call none ⟨1, 3⟩] := by
    intro isCommand
    cbv
  have hrun : (Machine.start [.literal (.int 2) ⟨1, 1⟩, .call none ⟨1, 3⟩]
      freshSession.state.rested).run freshSession.environment 6 =
        some (.failed (.script (.mismatch "function" "number") (some ⟨1, 3⟩))
          { State.initial .console with stack := [.int 2], steps := 2 }) := rfl
  exact Task.attempt_of_run (hparse _) hrun six_le_patience true

/-- A source that pushes a number. -/
def pushes (index : Nat) : Task :=
  ⟨"3", inlineName index, true⟩

theorem attempt_pushes [Platform] (index : Nat) (stack : List Value) (steps : Nat) :
    (pushes index).attempt (.on .builtins none { State.initial .console with stack, steps }) =
      ⟨pushes index,
        .on .builtins none { State.initial .console with stack := .int 3 :: stack, steps := 1 },
        none⟩ := by
  have hparse : ∀ isCommand, Program.parse isCommand "3" (some (inlineName index)) =
      .ok [.literal (.int 3) ⟨1, 1⟩] := by
    intro isCommand
    generalize some (inlineName index) = file
    cbv
  let s : Session := .on .builtins none { State.initial .console with stack, steps }
  have hrun : (Machine.start [.literal (.int 3) ⟨1, 1⟩] s.state.rested).run s.environment 6 =
      some (.done { State.initial .console with stack := .int 3 :: stack, steps := 1 }) := rfl
  exact Task.attempt_of_run (hparse _) hrun six_le_patience true

theorem tellable_pushes {index : Nat} {s : Session} {stack : List Value} {plain : Bool}
    (hstack : s.state.stack = .int 3 :: stack) :
    Attempt.Tellable plain ⟨pushes index, s, none⟩ where
  report _ failure hfailure := by
    cases hfailure
  top _ _ v hv text htext := by
    rw [hstack] at hv
    cases hv
    have hdigits : Decimal.integerText? 3 = some ("3" : Text) := by
      decide +kernel
    rw [Value.int, Value.source, Number.text, Number.text?, hdigits] at htext
    cases htext
    decide

theorem short_of_stack {stack : List Value} {steps : Nat} (h : ∀ v ∈ stack, v.Short) :
    State.Short { State.initial .console with stack, steps } := by
  refine ⟨h, fun name v hmem => ?_⟩
  cases hmem

/-- A command line with two pieces of inline code, the first of which fails half-way. -/
def ignoring : Setup where
  words := ["--ignore", "--state", "s.json", "-c", "2 @", "-c", "3"]
  folder := ⟨.empty, []⟩
  interactive := false
  shelf := []

/-- Its settings. -/
def ignoringSettings : Settings :=
  { verbosity := 0, ignore := true, stats := false, plain := false, stateFile := some "s.json",
    limit := none, extensions := [] }

section

attribute [local instance] Platform.basic

/-- The second piece goes on where the first one has failed, and the code tells of the failure. -/
theorem run_batch_ignoring :
    understand ignoring.folder ignoring.interactive ignoring.words =
        .ok (some (ignoringSettings, .actions [.inline "2 @", .inline "3"])) ∧
      ignoringSettings.extensions = [] ∧
      (Plan.actions [.inline "2 @", .inline "3"]).IsBatch ∧
      (Plan.actions [.inline "2 @", .inline "3"]).IsLegible ignoring.folder ∧
      (∀ path ∈ ignoringSettings.stateFile, ServesState ignoring.folder path) ∧
      (run ignoring "").ending = .ok 1 ∧
      ∃ s : State, s.stack = [.int 3, .int 2] ∧ (run ignoring "").folder.Keeps "s.json" s := by
  have hunderstood : understand ignoring.folder ignoring.interactive ignoring.words =
      .ok (some (ignoringSettings, .actions [.inline "2 @", .inline "3"])) := rfl
  have hbatch : (Plan.actions [.inline "2 @", .inline "3"]).IsBatch := by
    refine List.forall_mem_cons.2 ⟨?_, List.forall_mem_singleton.2 ?_⟩ <;>
      · intro h
        cases h
  have hlegible : (Plan.actions [.inline "2 @", .inline "3"]).IsLegible ignoring.folder :=
    List.forall_mem_cons.2 ⟨trivial, List.forall_mem_singleton.2 trivial⟩
  have hserves : ∀ path ∈ ignoringSettings.stateFile, ServesState ignoring.folder path := by
    intro path hpath
    cases hpath
    refine ⟨rfl, fun key reason hlook => ?_, fun text htext => ?_⟩
    · cases hlook
    · cases htext
  refine ⟨hunderstood, rfl, hbatch, hlegible, hserves, ?_⟩
  obtain ⟨r, tasks, hopen, htasks, -, -, -, -, hrun⟩ :=
    run_batch hunderstood rfl hbatch hlegible hserves ""
  have hsession : r.session = freshSession := by
    cases hopen
    rfl
  obtain rfl : tasks = [callsNumber, pushes 2] := (Option.some.inj htasks).symm
  have hmade : executed ignoringSettings.ignore r.session [callsNumber, pushes 2] =
      [⟨callsNumber,
          .on .builtins none { State.initial .console with stack := [.int 2], steps := 2 },
          some (.script (.mismatch "function" "number") (some ⟨1, 3⟩))⟩,
        ⟨pushes 2, .on .builtins none
          { State.initial .console with stack := [.int 3, .int 2], steps := 1 }, none⟩] := by
    rw [hsession, executed, executed, executed, attempt_callsNumber, attempt_pushes]
    rfl
  rw [hmade] at hrun
  obtain ⟨hending, -, last, hlast, hkeeps⟩ := hrun
    (List.forall_mem_cons.2
      ⟨⟨short_of_stack (by simp [Value.Short, Value.int, short_small]), nofun, nofun⟩,
        List.forall_mem_singleton.2
          ⟨short_of_stack (by simp [Value.Short, Value.int, short_small]), tellable_pushes rfl⟩⟩)
    (by
      rintro - last ⟨⟩
      decide +kernel)
  cases hlast
  exact ⟨hending, _, rfl, hkeeps "s.json" rfl⟩

end

/-- A source that keeps a surrogate in a variable. -/
def storesSurrogate : Task :=
  ⟨"\"\\ud800\" =x", inlineName 1, true⟩

/-- The session that it leaves. -/
def surrogateSession : Session :=
  .on .builtins none
    ({ State.initial .console with steps := 2 }.assign "x" (.string ⟨[.lone 0]⟩))

theorem attempt_storesSurrogate [Platform] :
    storesSurrogate.attempt freshSession = ⟨storesSurrogate, surrogateSession, none⟩ := by
  have hparse : ∀ isCommand,
      Program.parse isCommand "\"\\ud800\" =x" (some (inlineName 1)) =
        .ok [.literal (.string ⟨[.lone 0]⟩) ⟨1, 1⟩, .store "x" ⟨1, 10⟩] := by
    intro isCommand
    generalize some (inlineName 1) = file
    cbv
  have hrun : (Machine.start [.literal (.string ⟨[.lone 0]⟩) ⟨1, 1⟩, .store "x" ⟨1, 10⟩]
      freshSession.state.rested).run freshSession.environment 6 =
        some (.done surrogateSession.state) := rfl
  exact Task.attempt_of_run (hparse _) hrun six_le_patience true

/-- A runner on a fresh session without files that keeps its state in a file. -/
def keeper (ignore : Bool) (path : Text) : Runner :=
  { settings := { ignoringSettings with ignore, stateFile := some path }
    session := freshSession
    folder := ⟨.empty, []⟩
    console := .blank false
    failed := false
    completed := 0
    totalSteps := 0 }

/-- Such a runner comes to its end with the session that its one task leaves, unless that fails. -/
theorem exists_keeper_done [Platform] (ignore : Bool) (path : Text) {task : Task} {s : Session}
    (hattempt : task.attempt freshSession = ⟨task, s, none⟩) (hshort : s.state.Short)
    (htell : Attempt.Tellable false ⟨task, s, none⟩) :
    ∃ r' : Runner, (keeper ignore path).runTasks [task] = r'.finish 0 ∧
      r'.session = s ∧ r'.session.state.Plain ∧ r'.session.state.Short ∧
      r'.settings.stateFile = some path ∧ r'.folder = ⟨.empty, []⟩ := by
  have hsteady : (keeper ignore path).session.Steady :=
    ⟨rfl, .inl rfl, (State.initial_plainWith (fun _ => True) .console).plain⟩
  have hplain := (task.attempt_steady hsteady).plain
  have hattempt : task.attempt (keeper ignore path).session = ⟨task, s, none⟩ := hattempt
  rw [hattempt] at hplain
  obtain ⟨r', hafter, hruns⟩ := Runner.runTasks_of_done hsteady (hattempt ▸ hshort)
    (hattempt ▸ htell) (congrArg Attempt.failed hattempt)
  rw [hattempt] at hafter
  have hsession : r'.session = s := hafter.session
  exact ⟨r', hruns, hsession, hsession ▸ hplain, hsession ▸ hshort,
    congrArg Settings.stateFile hafter.settings, hafter.folder⟩

/-- A command line that is never executed, since the state file holds no state. -/
def stateless : Setup where
  words := ["--ignore", "--state", "bad.json", "-c", "3"]
  folder := .ofList [("bad.json", .text "\x7b")]
  interactive := false
  shelf := []

/-- A command line that is executed, and whose state file would be in a folder that is missing. -/
def homeless : Setup where
  words := ["--ignore", "--state", "no/s.json", "-c", "3"]
  folder := ⟨.empty, []⟩
  interactive := false
  shelf := []

/-- A command line that is executed, and has a surrogate to write to its state file. -/
def unwritable : Setup where
  words := ["--state", "s.json", "-c", "\"\\ud800\" =x"]
  folder := ⟨.empty, []⟩
  interactive := false
  shelf := []

/-- A command line whose first script is no text. -/
def illegible : Setup where
  words := ["--ignore", "bad.st", "-c", "3"]
  folder := .ofList [("bad.st", .undecodable "invalid start byte")]
  interactive := false
  shelf := []

section

attribute [local instance] Platform.basic

/-- A state file in a folder that is missing cannot be written: the run has no code. -/
theorem run_homeless : (run homeless "").ending = .error (.fault (.noSuchFile "no/s.json")) := by
  obtain ⟨r', hruns, -, hplain, hshort, hfile, hfolder⟩ :=
    exists_keeper_done true "no/s.json" (attempt_pushes 1 [] 0)
      (short_of_stack (by simp [Value.Short, Value.int, short_small])) (tellable_pushes rfl)
  have hmissing : r'.folder.look "no/s.json" = .missing := by
    rw [hfolder]
    rfl
  have hrun : run homeless "" = ((keeper true "no/s.json").runTasks [pushes 1]).result :=
    run_eq_runTasks rfl rfl rfl
  rw [hrun, hruns, Runner.finish_of_missing hplain hshort hfile hmissing]
  rfl

theorem surrogateSession_short : surrogateSession.state.Short := by
  refine ⟨nofun, fun name v hmem => ?_⟩
  obtain rfl : v = .string ⟨[.lone 0]⟩ := by
    cases hmem with
    | head => rfl
    | tail _ hrest => cases hrest
  trivial

/-- A surrogate cannot be written to the state file, which is empty by then: the run has no code. -/
theorem run_unwritable :
    (∃ surrogates, (run unwritable "").ending = .error (.fault (.unencodable surrogates))) ∧
      (run unwritable "").folder.read "s.json" = .ok "" := by
  have hlost : ¬surrogateSession.Savable := by
    decide +kernel
  obtain ⟨r', hruns, hsession, hplain, hshort, hfile, hfolder⟩ :=
    exists_keeper_done false "s.json" attempt_storesSurrogate surrogateSession_short
      ⟨nofun, nofun⟩
  have hkey : (r'.folder.look "s.json").file? = some ("s.json" : Text) := by
    rw [hfolder]
    rfl
  obtain ⟨surrogates, hfinish⟩ :=
    Runner.finish_of_not_savable hplain hshort hfile hkey (hsession ▸ hlost) 0
  have hrun : run unwritable "" = ((keeper false "s.json").runTasks [storesSurrogate]).result :=
    run_eq_runTasks rfl rfl rfl
  rw [hrun, hruns, hfinish]
  refine ⟨⟨surrogates, rfl⟩, ?_⟩
  show (r'.folder.withFile "s.json" "").read "s.json" = .ok ""
  rw [hfolder]
  rfl

/-- Inline code that succeeds ends with another code, or with none, if the state file does not serve
or cannot take a surrogate; and a script that is no text ends a run although failures are
ignored. -/
theorem run_unserved :
    ((pushes 1).attempt freshSession).failed = false ∧
      understand stateless.folder stateless.interactive stateless.words =
        .ok (some
          ({ ignoringSettings with stateFile := some "bad.json" }, .actions [.inline "3"])) ∧
      (run stateless "").ending = .ok 1 ∧ (run stateless "").folder.read "bad.json" = .ok "\x7b" ∧
      understand homeless.folder homeless.interactive homeless.words =
        .ok (some ({ ignoringSettings with stateFile := some "no/s.json" },
          .actions [.inline "3"])) ∧
      (run homeless "").ending = .error (.fault (.noSuchFile "no/s.json")) ∧
      (storesSurrogate.attempt freshSession).failed = false ∧
      understand unwritable.folder unwritable.interactive unwritable.words =
        .ok (some ({ ignoringSettings with ignore := false, stateFile := some "s.json" },
          .actions [.inline storesSurrogate.source])) ∧
      (∃ surrogates, (run unwritable "").ending = .error (.fault (.unencodable surrogates))) ∧
      (run unwritable "").folder.read "s.json" = .ok "" ∧
      understand illegible.folder illegible.interactive illegible.words =
        .ok (some ({ ignoringSettings with stateFile := none },
          .actions [.file "bad.st", .inline "3"])) ∧
      (run illegible "").ending = .error (.fault (.undecodable "invalid start byte")) := by
  refine ⟨congrArg Attempt.failed (attempt_pushes 1 [] 0), rfl, rfl, rfl, rfl, run_homeless,
    congrArg Attempt.failed attempt_storesSurrogate, rfl, run_unwritable.1, run_unwritable.2, rfl,
    rfl⟩

end

end CommandLine

end StackShell
