import StackShell.CommandLine.Run
import StackShell.Proofs.Restoration
import StackShell.Proofs.Runners

/-!
# The tasks of a command line

A command line that opens no dialogue comes down to a row of tasks, sources that are executed in
order. A command line that is understood has tasks if the files that it names hold texts, since they
were looked for (`exists_tasks_of_plan`), and a runner is opened for them unless the state file does
not serve (`exists_open`). Carrying out the plan is working off the tasks
(`Runner.carryOut_eq_workOff`).
-/

namespace StackShell

namespace CommandLine

/-! ## Tasks -/

/-- A source that a command line has executed. -/
structure Task where
  source : Text
  /-- The name that reports give to the source. -/
  name : Text
  /-- Whether the top of the stack is shown after the source. -/
  withTop : Bool

/-- The task of an action, unless it opens a dialogue or its file cannot be read. -/
def Action.task? (folder : Folder) (index : Nat) : Action → Option Task
  | .inline code => some ⟨code, inlineName index, true⟩
  | .file path => (folder.read path).toOption.map fun source => ⟨source, path, false⟩
  | .dialogue => none

/-- The tasks of actions, which are counted from `index` on. -/
def tasksFrom? (folder : Folder) (index : Nat) : List Action → Option (List Task)
  | [] => some []
  | action :: rest => do
    let task ← action.task? folder index
    let tasks ← tasksFrom? folder (index + 1) rest
    return task :: tasks

/-- The tasks of a plan on a standard input. -/
def Plan.tasks? (folder : Folder) (input : Text) : Plan → Option (List Task)
  | .script none => some [⟨input, inputName, false⟩]
  | .script (some name) =>
    (folder.read name).toOption.map fun source => [⟨source, name, false⟩]
  | .actions row => tasksFrom? folder 1 row
  | .dialogue => none

/-- Whether a plan opens no dialogue. -/
def Plan.IsBatch : Plan → Prop
  | .script _ => True
  | .actions row => ∀ action ∈ row, action ≠ .dialogue
  | .dialogue => False

/-- Whether the file of an action, if it has one and is there, holds a text. -/
def Action.IsLegible (folder : Folder) : Action → Prop
  | .file path => folder.IsText path
  | .inline _ | .dialogue => True

/-- Whether the files that a plan names hold texts, as far as they are there. -/
def Plan.IsLegible (folder : Folder) : Plan → Prop
  | .script (some name) => folder.IsText name
  | .actions row => ∀ action ∈ row, action.IsLegible folder
  | .script none | .dialogue => True

/-! ## Plans that were understood -/

section

variable {folder : Folder} {words : List Text} {plan : Plan}

/-- Whether the file of an action, if it has one, is there. -/
def Action.Found (folder : Folder) : Action → Prop
  | .file path => ∃ key content, folder.look path = .file key content
  | .inline _ | .dialogue => True

theorem found_of_actionOf {word : Text} {action : Action}
    (h : actionOf folder word = .ok (some action)) : action.Found folder := by
  unfold actionOf at h
  split at h
  · cases h
  · split at h
    · split at h
      · cases h
      · cases h
        trivial
    · split_ifs at h with hdialogue hoption hfile
      · cases h
        trivial
      · cases h
        exact Folder.look_of_hasFile hfile

/-- The files that a row of words names are there. -/
theorem found_of_actions {row : List Action} (h : actions folder words = (row, none)) :
    ∀ action ∈ row, action.Found folder := by
  -- no word is left, `-c` has no code or has one, and another word is refused or accepted
  induction words using actions.induct folder generalizing row with
  | case1 =>
    cases h
    intro action haction
    cases haction
  | case2 word hword =>
    rw [actions, if_pos hword] at h
    cases h
  | case3 word hword code rest others problem hothers ih =>
    rw [actions, if_pos hword] at h
    simp only [hothers] at h
    cases h
    exact List.forall_mem_cons.2 ⟨trivial, ih hothers⟩
  | case4 word rest hword problem hproblem =>
    rw [actions.eq_def] at h
    simp only [if_neg hword, hproblem] at h
    cases h
  | case5 word rest hword action haction others problem hothers ih =>
    rw [actions.eq_def] at h
    simp only [if_neg hword, haction, hothers] at h
    cases h
    intro other hother
    rcases List.mem_append.1 hother with hmem | hmem
    · obtain rfl := Option.mem_toList.1 hmem
      exact found_of_actionOf haction
    · exact ih hothers other hmem

theorem exists_tasksFrom {row : List Action} (hfound : ∀ action ∈ row, action.Found folder)
    (hlegible : ∀ action ∈ row, action.IsLegible folder)
    (hbatch : ∀ action ∈ row, action ≠ .dialogue) (index : Nat) :
    ∃ tasks, tasksFrom? folder index row = some tasks ∧ tasks.length = row.length := by
  induction row generalizing index with
  | nil => exact ⟨[], rfl, rfl⟩
  | cons action row ih =>
    obtain ⟨hthere, hfound⟩ := List.forall_mem_cons.1 hfound
    obtain ⟨htext, hlegible⟩ := List.forall_mem_cons.1 hlegible
    obtain ⟨hstays, hbatch⟩ := List.forall_mem_cons.1 hbatch
    obtain ⟨tasks, htasks, hlength⟩ := ih hfound hlegible hbatch (index + 1)
    obtain ⟨task, htask⟩ : ∃ task, action.task? folder index = some task := by
      cases action with
      | inline code => exact ⟨_, rfl⟩
      | file path =>
        obtain ⟨key, content, hlook⟩ := hthere
        obtain ⟨source, hsource⟩ := Folder.read_of_look hlook htext
        exact ⟨⟨source, path, false⟩, by rw [Action.task?, hsource]; rfl⟩
      | dialogue => exact absurd rfl hstays
    refine ⟨task :: tasks, ?_, congrArg (· + 1) hlength⟩
    rw [tasksFrom?, htask, htasks]
    rfl

theorem exists_tasks_of_openScript {name : Text} (h : openScript folder name = .ok plan)
    (hlegible : plan.IsLegible folder) (input : Text) :
    ∃ tasks, plan.tasks? folder input = some tasks ∧ tasks ≠ [] := by
  unfold openScript at h
  split at h
  · cases h
    exact ⟨_, rfl, List.cons_ne_nil _ _⟩
  · split at h
    · next hlook =>
      cases h
      obtain ⟨source, hsource⟩ := Folder.read_of_look hlook hlegible
      refine ⟨[⟨source, name, false⟩], ?_, List.cons_ne_nil _ _⟩
      rw [Plan.tasks?, hsource]
      rfl
    · cases h
    · cases h
    · cases h
    · cases h

/-- A command that opens no dialogue has tasks to do, if the files that it names hold texts. -/
theorem exists_tasks_of_plan {command : Subcommand} (h : command.plan folder words = .ok plan)
    (hbatch : plan.IsBatch) (hlegible : plan.IsLegible folder) (input : Text) :
    ∃ tasks, plan.tasks? folder input = some tasks ∧ tasks ≠ [] := by
  cases command with
  | runFile =>
    cases words with
    | nil => cases h
    | cons name extra =>
      obtain ⟨opened, hopened, h⟩ := bind_eq_ok.1 h
      split at h
      · cases h
        exact exists_tasks_of_openScript hopened hlegible input
      · cases h
  | runDev =>
    unfold Subcommand.plan at h
    dsimp only at h
    split at h
    · cases h
    · cases h
      exact hbatch.elim
    · next row hrow hactions =>
      cases h
      -- there are as many tasks as actions, and there was one
      obtain ⟨tasks, htasks, hlength⟩ :=
        exists_tasksFrom (found_of_actions hactions) hlegible hbatch 1
      refine ⟨tasks, htasks, ?_⟩
      rintro rfl
      exact hrow (List.length_eq_zero_iff.1 hlength.symm)
  | runRepl =>
    unfold Subcommand.plan at h
    dsimp only at h
    split at h
    · cases h
      exact hbatch.elim
    · cases h

theorem planWords_eq_ok {command : Subcommand}
    (h : command.planWords folder words = .ok (some plan)) :
    ∃ operands, command.plan folder operands = .ok plan := by
  obtain ⟨operands, -, h⟩ := bind_eq_ok.1 h
  split at h
  · cases h
  · obtain ⟨plan', hplan, h⟩ := bind_eq_ok.1 h
    cases h
    exact ⟨_, hplan⟩

theorem refuseCommand_ne_ok {name : Text} {rest : List Text} :
    refuseCommand folder name rest ≠ .ok (some plan) := by
  intro h
  obtain ⟨⟨given, left⟩, -, h⟩ := bind_eq_ok.1 h
  dsimp only at h
  split at h
  · cases h
  · obtain ⟨settings, -, h⟩ := bind_eq_ok.1 h
    cases h

theorem understand_eq_ok {interactive : Bool} {settings : Settings}
    (h : understand folder interactive words = .ok (some (settings, plan))) :
    ∃ (command : Subcommand) (operands : List Text), command.plan folder operands = .ok plan := by
  obtain ⟨⟨given, left⟩, -, h⟩ := bind_eq_ok.1 h
  dsimp only at h
  split at h
  · cases h
  obtain ⟨settings', -, h⟩ := bind_eq_ok.1 h
  obtain ⟨plan?, hplan, h⟩ := bind_eq_ok.1 h
  obtain ⟨plan', rfl, hsettings⟩ := Option.map_eq_some_iff.1 (Except.ok.inj h)
  cases hsettings
  cases left with
  | nil => cases hplan
  | cons name rest =>
    rw [planOf] at hplan
    split at hplan
    · exact ⟨_, planWords_eq_ok (mapError_eq_ok.1 hplan)⟩
    · exact absurd (mapError_eq_ok.1 hplan) refuseCommand_ne_ok

end

/-! ## Opened runners -/

/-- Whether a path can serve for the state file: a file can be written there, and if there is one,
it holds the text of a state. -/
structure ServesState (f : Folder) (path : Text) : Prop where
  writable : (f.look path).file?.isSome
  legible : f.IsText path
  restorable : ∀ text, f.read path = .ok text →
    ∃ d content, Document.read text = .ok d ∧ Snapshot.decode d = .ok content

section

variable {settings : Settings} {limit : Option Int} {shelf : Shelf} {folder : Folder}
  {stateFile : Option Text}

/-- A session is opened if the state file serves: a fresh one, or the one in the file. -/
theorem exists_openSession (h : ∀ path ∈ stateFile, ServesState folder path) :
    ∃ session, openSession (.new limit shelf) folder stateFile = .ok session ∧ session.Steady := by
  have hfresh : (Session.on .builtins limit (.initial .console)).Steady :=
    ⟨rfl, .inl rfl, (State.initial_plainWith (fun _ => True) .console).plain⟩
  cases stateFile with
  | none => exact ⟨_, rfl, hfresh⟩
  | some path =>
    obtain ⟨hwritable, hlegible, hrestorable⟩ := h path rfl
    unfold openSession
    dsimp only
    cases hlook : folder.look path with
    | vacant key => exact ⟨_, rfl, hfresh⟩
    | file key content =>
      -- the file is loaded from its text with plain line ends, which is what has to be a state
      obtain ⟨source, hsource⟩ := Folder.read_of_look hlook hlegible
      obtain ⟨d, content, hd, hcontent⟩ := hrestorable source hsource
      have hrestore : Snapshot.restore d .console =
          .ok { State.initial .console with
            bindings := .ofList content.1, stack := content.2.reverse } := by
        rw [Snapshot.restore, hcontent]
        rfl
      have hload : (Host.new limit shelf).load source .console =
          .ok (.on .builtins limit { State.initial .console with
            bindings := .ofList content.1, stack := content.2.reverse }) := by
        rw [Host.load, hd]
        show (do
            let v ← (Host.new limit shelf).vocabulary
            let state ← Snapshot.restore d .console
            return Session.on v limit state) = _
        rw [hrestore]
        rfl
      dsimp only
      rw [hsource]
      dsimp only
      rw [hload]
      exact ⟨_, rfl, rfl, .inl rfl, Snapshot.plain_of_restore hrestore⟩
    | folder | missing | blocked =>
      rw [hlook] at hwritable
      cases hwritable

/-- A runner that was opened without extensions and has done nothing yet. -/
structure Opened (settings : Settings) (folder : Folder) (r : Runner) : Prop where
  plain : r.console.plain = settings.plain
  settings : r.settings = settings
  folder : r.folder = folder
  failed : r.failed = false
  steady : r.session.Steady

theorem exists_open (hextensions : settings.extensions = [])
    (h : ∀ path ∈ settings.stateFile, ServesState folder path) :
    ∃ r, Runner.open settings shelf folder = .ok r ∧ Opened settings folder r := by
  obtain ⟨session, hsession, hsteady⟩ : ∃ session,
      openSession (.new settings.limit shelf) folder settings.stateFile = .ok session ∧
        session.Steady := exists_openSession h
  have hopen : Runner.open settings shelf folder =
      .ok { settings, folder, console := .blank settings.plain, failed := false, completed := 0,
            totalSteps := 0
            session :=
              if settings.verbosity > 0 then { session with checkpoint := announce settings.plain }
              else session } := by
    rw [Runner.open, hextensions]
    show (do
        let session ← openSession (.new settings.limit shelf) folder settings.stateFile
        _) = _
    rw [hsession]
    rfl
  refine ⟨_, hopen, rfl, rfl, rfl, rfl, ?_⟩
  dsimp only
  split
  · exact ⟨hsteady.vocabulary, .inr ⟨_, rfl⟩, hsteady.plain⟩
  · exact hsteady

end

/-! ## Working off tasks -/

/-- Executes tasks in order until the run is over. -/
def Runner.workOff [Platform] (r : Runner) : List Task → Step
  | [] => .next r
  | task :: rest =>
    (r.execute task.source task.name task.withTop).andThen fun r => r.workOff rest

theorem Step.andThen_next (step : Step) : step.andThen .next = step := by
  cases step <;> rfl

namespace Runner

variable {r : Runner} {tasks : List Task}

theorem act_eq [Platform] {action : Action} {index : Nat} {task : Task}
    (h : action.task? r.folder index = some task) (lines : List Text) :
    r.act index action lines = (r.execute task.source task.name task.withTop, lines) := by
  cases action with
  | inline code =>
    cases h
    rfl
  | file path =>
    rw [Action.task?] at h
    unfold act
    dsimp only
    cases hread : r.folder.read path with
    | ok source =>
      rw [hread] at h
      cases h
      rfl
    | error fault =>
      rw [hread] at h
      cases h
  | dialogue => cases h

/-- Actions are done by working off their tasks. -/
theorem actAll_eq_workOff [Platform] {row : List Action} {index : Nat}
    (h : tasksFrom? r.folder index row = some tasks) (lines : List Text) :
    r.actAll index row lines = r.workOff tasks := by
  induction row generalizing r index tasks with
  | nil =>
    cases h
    rfl
  | cons action row ih =>
    obtain ⟨task, htask, h⟩ := Option.bind_eq_some_iff.1 h
    obtain ⟨rest, hrest, h⟩ := Option.bind_eq_some_iff.1 h
    cases h
    rw [actAll, workOff, act_eq htask]
    cases hstep : r.execute task.source task.name task.withTop with
    | next r' =>
      -- the tasks were read before the first one was executed, the files of later ones only now
      rw [← folder_of_execute hstep] at hrest
      exact ih hrest
    | quit code r' => rfl
    | escape failure r' => rfl

/-- A plan is carried out by working off its tasks. -/
theorem carryOut_eq_workOff [Platform] {plan : Plan} {input : Text}
    (h : plan.tasks? r.folder input = some tasks) : r.carryOut plan input = r.workOff tasks := by
  cases plan with
  | script source =>
    cases source with
    | none =>
      cases h
      exact (Step.andThen_next _).symm
    | some name =>
      rw [Plan.tasks?] at h
      unfold carryOut
      dsimp only
      cases hread : r.folder.read name with
      | ok source =>
        rw [hread] at h
        cases h
        exact (Step.andThen_next _).symm
      | error fault =>
        rw [hread] at h
        cases h
  | actions row => exact actAll_eq_workOff h _
  | dialogue => cases h

end Runner

end CommandLine

end StackShell
