import StackShell.CommandLine.Runner
import StackShell.Proofs.Documents.LineEnds
import StackShell.Proofs.Folders
import StackShell.Proofs.Printing.Short
import StackShell.Proofs.Sessions

/-!
# What a runner does with one source

A source that is executed is submitted to the session, and what follows depends only on whether the
submission failed: the run goes on, or it is over after the session was saved
(`Runner.execute_cases`). Neither the report of a failure nor the top of the stack gets in the way
as long as all integers are short enough to be written and no surrogate has to be written to a
strict stream, and then the session can be saved too (`Runner.exists_finish`).
-/

namespace StackShell

namespace CommandLine

/-- The announcement of a statement puts out a line at most. -/
theorem announce_state (plain : Bool) (statement : Statement) (s : State) :
    ∃ events, (announce plain statement s).state = { s with log := events ++ s.log } := by
  unfold announce
  dsimp only
  split <;> exact ⟨[_], rfl⟩

end CommandLine

open CommandLine

/-! ## Sessions at work -/

/-- A session as it is at work for a command line without extensions: it has the built-in commands,
its state is plain, and statements are announced at most. -/
structure Session.Steady (s : Session) : Prop where
  vocabulary : s.vocabulary = .builtins
  checkpoint : s.checkpoint = .pass ∨ ∃ plain, s.checkpoint = announce plain
  plain : s.state.Plain

namespace Session.Steady

variable {s : Session}

theorem keepsPlainWith [Platform] (hs : s.Steady) (good : Statement → Prop) :
    s.environment.KeepsPlainWith good where
  commands := by
    intro name command hcommand state hstate
    have hbehaves : s.vocabulary.Behaves Builtin.Fails := by
      rw [hs.vocabulary]
      exact .builtins fun _ _ h => h
    exact (hbehaves.command? hcommand).state hstate
  checkpoint := by
    intro statement state hstate
    show (s.checkpoint statement state).state.PlainWith good
    rcases hs.checkpoint with h | ⟨plain, h⟩
    · rw [h]
      exact hstate
    · obtain ⟨events, hevents⟩ := announce_state plain statement state
      rw [h, hevents]
      exact ⟨hstate.stack, hstate.bindings, hstate.distinct⟩

/-- A submission leaves a session at work, and so does taking its events. -/
theorem submit [Platform] (hs : s.Steady) {source : Text} {file : Option Text} {session : Session}
    {failure : Option Failure} (h : s.submit source file = (session, failure)) :
    session.takeEvents.2.Steady := by
  obtain ⟨state, failure', hframe⟩ := s.submit_frame source file
  have hplain := Session.submit_plain (hs.keepsPlainWith _) hs.plain source file
  rw [h] at hplain hframe
  cases hframe
  exact ⟨hs.vocabulary, hs.checkpoint, hplain.stack, hplain.bindings, hplain.distinct⟩

end Session.Steady

/-! ## Saved states -/

/-- Whether a file keeps the stack and the variables of a state: whoever has a vocabulary loads a
session with them from there. -/
def Folder.Keeps (f : Folder) (path : Text) (s : State) : Prop :=
  ∃ text, f.read path = .ok text ∧
    ∀ (h : Host) (v : Vocabulary), h.vocabulary = .ok v → ∀ device,
      ∃ loaded, h.load text device = .ok loaded ∧
        loaded.state.stack = s.stack ∧ loaded.state.bindings = s.bindings

/-- Whether a session can be written to its state file: no string or name in it has a surrogate. -/
def Session.Savable (s : Session) : Prop :=
  ∀ text, s.dump (.block "  ") = .ok text → text.Encodable

instance (s : Session) : Decidable s.Savable :=
  match h : s.dump (.block "  ") with
  | .ok text => decidable_of_iff text.Encodable
      ⟨fun hencodable _ htext => Except.ok.inj (h.symm.trans htext) ▸ hencodable,
        fun hsavable => hsavable text h⟩
  | .error _ => isTrue fun _ htext => nomatch h.symm.trans htext

theorem Session.dump_keeps {s : Session} (hplain : s.state.Plain) (hshort : s.state.Short) :
    ∃ text, s.dump (.block "  ") = .ok text ∧
      ∀ {f : Folder} {path key : Text} {written : String}, (written : Text) = text ++ "\n" →
        f.look path = .file key (.text written) → f.Keeps path s.state := by
  have hblank : (Document.Style.block "  ").Blank := by
    intro c hc
    obtain rfl : c = ' ' := by simpa using hc
    rfl
  have hunbroken : (Document.Style.block "  ").Unbroken := by
    show .char '\r' ∉ ("  " : Text).toList
    decide
  obtain ⟨text, hdump, hends, hload⟩ := Session.exists_dump hplain hshort hblank hunbroken
  refine ⟨text, hdump, fun {f path key written} hwritten hlook => ⟨text ++ "\n", ?_,
    fun h v hvocabulary device => ⟨_, hload h v hvocabulary device, rfl, rfl⟩⟩⟩
  rw [Folder.read, hlook]
  dsimp only
  rw [hwritten, hends, Text.ofList_toList]

/-! ## Values that cannot be shown -/

/-- Why a plain value cannot be shown on a console: it has a number that is too long to be written,
or a surrogate is in its text. -/
inductive Value.Unshown (v : Value) : Fault → Prop where
  | tooLong : v.source = .error (.textTooLong none) → v.Unshown (.textTooLong none)
  | surrogates {text : Text} (surrogates : Text.Unencodable) :
      v.source = .ok text → ¬text.Encodable → v.Unshown (.unencodable surrogates)

namespace CommandLine

/-! ## The console -/

namespace Console

variable {c c' : Console} {text : Text}

/-- A text without surrogates is written. -/
theorem tryWrite_of_encodable (h : text.Encodable) : c.tryWrite text = .ok (c.write text) := by
  have hdressed : (dress c.plain text).Encodable := by
    unfold dress
    split
    · exact h.strip .colour
    · exact h
  obtain ⟨s, hwritten, -⟩ := hdressed.exists_written
  rw [tryWrite, hwritten]
  rfl

theorem tryWrite_eq_error {fault : Fault} (h : c.tryWrite text = .error fault) :
    ¬text.Encodable ∧ ∃ surrogates, fault = .unencodable surrogates := by
  constructor
  · intro hencodable
    rw [tryWrite_of_encodable hencodable] at h
    cases h
  · unfold tryWrite at h
    cases hwritten : (dress c.plain text).written with
    | ok s =>
      rw [hwritten] at h
      cases h
    | error problem =>
      rw [hwritten] at h
      cases h
      exact Text.written_eq_error hwritten

theorem plain_of_tryWrite (h : c.tryWrite text = .ok c') : c'.plain = c.plain := by
  obtain ⟨s, -, rfl⟩ := map_eq_ok.1 h
  rfl

theorem plain_of_complain (h : c.complain text = .ok c') : c'.plain = c.plain := by
  unfold complain at h
  split at h
  · exact plain_of_tryWrite h
  · cases h
    rfl

theorem exists_complain (h : c.plain = true → text.Encodable) :
    ∃ c', c.complain text = .ok c' := by
  unfold complain
  split
  · next hplain => exact ⟨_, tryWrite_of_encodable (h hplain)⟩
  · exact ⟨_, rfl⟩

theorem plain_displayAll (c : Console) (events : List Event) :
    (c.displayAll events).plain = c.plain := by
  induction events generalizing c with
  | nil => rfl
  | cons event events ih =>
    rw [displayAll, List.foldl_cons]
    refine (ih _).trans ?_
    cases event <;> rfl

end Console

/-! ## Reports -/

/-- A failure can be reported if the stack can be written. -/
theorem exists_reportOf {stack : List Value} (h : ∃ line, stackLine stack = .ok line)
    (failure : Failure) (name source : Text) :
    ∃ report, reportOf failure name source stack = .ok report := by
  obtain ⟨line, hline⟩ := h
  cases failure with
  | fault fault => exact ⟨_, rfl⟩
  | script cause place =>
    unfold reportOf scriptReport
    dsimp only
    rw [hline]
    cases cause.kind <;> exact ⟨_, rfl⟩

namespace Runner

variable {r : Runner} {source name : Text} {session : Session} {failure : Option Failure}

theorem submit_of_session [Platform]
    (h : r.session.submit source (some name) = (session, failure)) :
    r.submit source name =
      ({ r with session := session.takeEvents.2,
                console := r.console.displayAll session.takeEvents.1 }, failure) := by
  unfold submit
  simp only [h]

/-! ### What a report and the top of the stack change -/

/-- A report changes the console alone. -/
theorem report_frame (r : Runner) (failure : Failure) (name source : Text) :
    (∃ console, r.report failure name source = .ok { r with console } ∧
        console.plain = r.console.plain) ∨
      ∃ fault, r.report failure name source = .error (.fault fault, r) := by
  unfold Runner.report
  split
  · next console hconsole =>
    obtain ⟨report, -, hcomplain⟩ := bind_eq_ok.1 hconsole
    exact .inl ⟨console, rfl, Console.plain_of_complain hcomplain⟩
  · next fault _ => exact .inr ⟨fault, rfl⟩

/-- So does showing the top of the stack. -/
theorem showTop_frame (r : Runner) (mark : Text) :
    (∃ console, r.showTop mark = .ok { r with console } ∧ console.plain = r.console.plain) ∨
      ∃ fault console, r.showTop mark = .error (.fault fault, { r with console }) := by
  unfold showTop
  split
  · exact .inl ⟨r.console, rfl, rfl⟩
  · split
    · next fault _ => exact .inr ⟨fault, r.console, rfl⟩
    · dsimp only
      split
      · next fault _ => exact .inr ⟨fault, _, rfl⟩
      · next console hwrite =>
        exact .inl ⟨console.write "\n", rfl, (Console.plain_of_tryWrite hwrite).trans rfl⟩

/-- The top of a plain stack is shown unless it cannot be. -/
theorem unshown_of_showTop (hplain : r.session.state.Plain) {mark : Text} {fault : Fault}
    {left : Runner} (h : r.showTop mark = .error (.fault fault, left)) :
    ∃ v stack, r.session.state.stack = v :: stack ∧ v.Unshown fault := by
  unfold showTop at h
  split at h
  · cases h
  · next v stack hstack =>
    refine ⟨v, stack, hstack, ?_⟩
    have hmem : v ∈ r.session.state.stack := by
      rw [hstack]
      exact List.mem_cons_self
    split at h
    · next problem hsource =>
      cases h
      obtain rfl := v.source_eq_error (hplain.stack v hmem) hsource
      exact .tooLong hsource
    · next text hsource =>
      dsimp only at h
      split at h
      · next problem hwrite =>
        cases h
        obtain ⟨hsurrogate, surrogates, rfl⟩ := Console.tryWrite_eq_error hwrite
        exact .surrogates surrogates hsource hsurrogate
      · cases h

/-- The top of the stack is shown if no integer in it is too long and its text has no surrogate. -/
theorem exists_showTop (hplain : r.session.state.Plain) (hshort : r.session.state.Short)
    (hencodable : ∀ v ∈ r.session.state.stack.head?, ∀ text, v.source = .ok text → text.Encodable)
    (mark : Text) :
    ∃ console, r.showTop mark = .ok { r with console } ∧ console.plain = r.console.plain := by
  rcases r.showTop_frame mark with h | ⟨fault, console, h⟩
  · exact h
  · obtain ⟨v, stack, hstack, hunshown⟩ := unshown_of_showTop hplain h
    have hmem : v ∈ r.session.state.stack := by
      rw [hstack]
      exact List.mem_cons_self
    obtain ⟨text, htext⟩ := v.exists_source (hplain.stack v hmem) (hshort.stack v hmem)
    cases hunshown with
    | tooLong hsource =>
      rw [htext] at hsource
      cases hsource
    | surrogates _ hsource hsurrogate =>
      exact absurd (hencodable v (by rw [hstack]; rfl) _ hsource) hsurrogate

/-- A failure is reported if no integer on the stack is too long, and on a plain console also no
surrogate is in the report. -/
theorem exists_report (hplain : r.session.state.Plain) (hshort : r.session.state.Short)
    {failure : Failure}
    (hencodable : r.console.plain = true → ∀ report,
      reportOf failure name source r.session.state.stack = .ok report → report.text.Encodable) :
    ∃ console, r.report failure name source = .ok { r with console } ∧
      console.plain = r.console.plain := by
  obtain ⟨report, hreport⟩ := exists_reportOf (exists_stackLine hplain hshort) failure name source
  obtain ⟨console, hconsole⟩ :=
    Console.exists_complain fun hconsole => hencodable hconsole report hreport
  have hcomplained : (reportOf failure name source r.session.state.stack >>=
      (r.console.complain ·.text)) = .ok console := by
    rw [hreport]
    exact hconsole
  refine ⟨console, ?_, Console.plain_of_complain hconsole⟩
  unfold Runner.report
  rw [hcomplained]

/-! ## Saving -/

/-- Whether the state file, if there is one, can be written. -/
def CanSave (r : Runner) : Prop :=
  ∀ path ∈ r.settings.stateFile, (r.folder.look path).file?.isSome

/-- How a run ends that has saved its session: with the code, and with the stack and the variables
in the state file, if there is one. -/
def Saves (r : Runner) (code : Nat) (step : Step) : Prop :=
  ∃ r', step = .quit code r' ∧ ∀ path ∈ r.settings.stateFile, r'.folder.Keeps path r.session.state

/-- Saving changes the folder alone. -/
theorem save_frame (r : Runner) :
    ∃ folder, r.save = .ok { r with folder } ∨
      ∃ failure, r.save = .error (failure, { r with folder }) := by
  unfold save
  split
  · exact ⟨r.folder, .inl rfl⟩
  · split
    · next failure _ => exact ⟨r.folder, .inr ⟨failure, rfl⟩⟩
    · split
      · next folder _ => exact ⟨folder, .inl rfl⟩
      · next fault folder _ => exact ⟨folder, .inr ⟨_, rfl⟩⟩

theorem save_of_dump {path text : Text} (hfile : r.settings.stateFile = some path)
    (hdump : r.session.dump (.block "  ") = .ok text) :
    r.save =
      match r.folder.write path (text ++ "\n") with
      | .ok folder => .ok { r with folder }
      | .error (fault, folder) => .error (.fault fault, { r with folder }) := by
  unfold save
  rw [hfile]
  dsimp only
  rewrite [hdump]
  rfl

theorem exists_save (hplain : r.session.state.Plain) (hshort : r.session.state.Short)
    (hsave : r.CanSave) (hsavable : r.settings.stateFile ≠ none → r.session.Savable) :
    ∃ folder, r.save = .ok { r with folder } ∧
      ∀ path ∈ r.settings.stateFile, folder.Keeps path r.session.state := by
  cases hfile : r.settings.stateFile with
  | none =>
    refine ⟨r.folder, ?_, fun path hpath => ?_⟩
    · rw [save, hfile]
    · cases hpath
  | some path =>
    obtain ⟨key, hkey⟩ := Option.isSome_iff_exists.1 (hsave path hfile)
    obtain ⟨text, hdump, hkeeps⟩ := Session.dump_keeps hplain hshort
    have hencodable : (text ++ "\n").Encodable :=
      (hsavable (by simp [hfile]) text hdump).append (Text.encodable_ofString "\n")
    obtain ⟨written, hwritten⟩ := hencodable.exists_string
    have hwrite : r.folder.write path (text ++ "\n") = .ok (r.folder.withFile key written) := by
      rw [hwritten]
      exact Folder.write_ofString_eq_ok_iff.2 ⟨key, hkey, rfl⟩
    refine ⟨r.folder.withFile key written, ?_, fun other hother => ?_⟩
    · rw [save_of_dump hfile hdump, hwrite]
    · cases hother
      exact hkeeps hwritten.symm (Folder.look_withFile hkey)

/-- A runner that is done saves its session and ends with a code that tells whether anything has
failed. -/
theorem exists_finish (hplain : r.session.state.Plain) (hshort : r.session.state.Short)
    (hsave : r.CanSave) (hsavable : r.settings.stateFile ≠ none → r.session.Savable)
    (elapsed : Nat) : r.Saves (if r.failed then 1 else 0) (r.finish elapsed) := by
  obtain ⟨folder, hsaved, hkeeps⟩ := exists_save hplain hshort hsave hsavable
  unfold finish
  rw [hsaved]
  dsimp only
  -- whether a summary is shown matters to the console alone
  cases r.settings.stats && decide (r.completed > 0) <;>
    · refine ⟨_, rfl, ?_⟩
      exact hkeeps

/-- A run that cannot write its state file, since the folder for it is missing, ends without a
code. -/
theorem finish_of_missing (hplain : r.session.state.Plain) (hshort : r.session.state.Short)
    {path : Text} (hfile : r.settings.stateFile = some path)
    (hmissing : r.folder.look path = .missing) (elapsed : Nat) :
    r.finish elapsed = .escape (.fault (.noSuchFile path)) r := by
  obtain ⟨text, hdump, -⟩ := Session.dump_keeps hplain hshort
  have hsave : r.save = .error (.fault (.noSuchFile path), r) := by
    rw [save_of_dump hfile hdump, Folder.write, hmissing]
  unfold finish
  rw [hsave]

/-- So does a run that has a surrogate to write to its state file, which it has emptied by then. -/
theorem finish_of_not_savable (hplain : r.session.state.Plain) (hshort : r.session.state.Short)
    {path key : Text} (hfile : r.settings.stateFile = some path)
    (hkey : (r.folder.look path).file? = some key) (hlost : ¬r.session.Savable) (elapsed : Nat) :
    ∃ surrogates, r.finish elapsed =
      .escape (.fault (.unencodable surrogates)) { r with folder := r.folder.withFile key "" } := by
  obtain ⟨text, hdump, -⟩ := Session.dump_keeps hplain hshort
  have hsurrogate : ¬(text ++ "\n").Encodable := by
    intro hencodable
    refine hlost fun text' hdump' => ?_
    obtain rfl := Except.ok.inj (hdump.symm.trans hdump')
    exact hencodable.of_sublist (List.sublist_append_left ..)
  obtain ⟨surrogates, hwrite⟩ := Folder.write_of_not_encodable hsurrogate hkey
  refine ⟨surrogates, ?_⟩
  unfold finish
  rw [save_of_dump hfile hdump, hwrite]

/-- What a failure leads to that is not ignored: the session is saved, and the run is over. -/
def stop (r : Runner) : Step :=
  match r.save with
  | .ok r => .quit 1 r
  | .error (failure, r) => .escape failure r

theorem exists_stop (hplain : r.session.state.Plain) (hshort : r.session.state.Short)
    (hsave : r.CanSave) (hsavable : r.settings.stateFile ≠ none → r.session.Savable) :
    r.Saves 1 r.stop := by
  obtain ⟨folder, hsaved, hkeeps⟩ := exists_save hplain hshort hsave hsavable
  unfold stop
  rw [hsaved]
  refine ⟨_, rfl, ?_⟩
  exact hkeeps

/-! ## Executing -/

/-- A runner to which a submission has been made: it has the session that was left, and remembers
whether anything has failed. -/
structure Made (r : Runner) (session : Session) (failed : Bool) (r' : Runner) : Prop where
  session : r'.session = session
  settings : r'.settings = r.settings
  folder : r'.folder = r.folder
  plain : r'.console.plain = r.console.plain
  failed : r'.failed = (r.failed || failed)

theorem afterReport_eq (r : Runner) :
    r.afterReport =
      if r.settings.ignore then .next { r with failed := true }
      else { r with failed := true }.stop :=
  rfl

/-- The runner after a submission: what it put out is shown, and its statements are counted. -/
def counting (r : Runner) (session : Session) : Runner :=
  { r with
    session := session.takeEvents.2
    console := r.console.displayAll session.takeEvents.1
    totalSteps := r.totalSteps + session.takeEvents.2.state.steps }

/-- What follows a submission that failed is its report. -/
theorem execute_of_failed [Platform] {withTop : Bool} {failure : Failure}
    (h : r.session.submit source (some name) = (session, some failure)) :
    r.execute source name withTop =
      match (r.counting session).report failure name source with
      | .ok r => r.afterReport
      | .error (failure, r) => .escape failure r := by
  unfold execute
  rewrite [submit_of_session h]
  rfl

/-- What follows a submission that succeeded is the top of the stack, if that is to be shown. -/
theorem execute_of_done [Platform] {withTop : Bool}
    (h : r.session.submit source (some name) = (session, none)) :
    r.execute source name withTop =
      if withTop then
        match (r.counting session).complete.showTop "" with
        | .ok r => .next r
        | .error (failure, r) => .escape failure r
      else .next (r.counting session).complete := by
  unfold execute
  rewrite [submit_of_session h]
  rfl

/-- What comes of a source that is executed: the submission is made, and the run goes on unless it
failed and failures are not ignored. -/
theorem execute_cases [Platform] (hr : r.session.Steady)
    (hsubmit : r.session.submit source (some name) = (session, failure))
    (hshort : session.state.Short) {withTop : Bool}
    (hreport : r.console.plain = true → ∀ problem ∈ failure, ∀ report,
      reportOf problem name source session.state.stack = .ok report → report.text.Encodable)
    (htop : withTop = true → failure = none → ∀ v ∈ session.state.stack.head?, ∀ text,
      v.source = .ok text → text.Encodable) :
    ∃ r', r.Made session.takeEvents.2 failure.isSome r' ∧
      r.execute source name withTop =
        if failure.isSome && !r.settings.ignore then r'.stop else .next r' := by
  -- a report and the top of the stack change only the console of this runner
  let made : Runner := r.counting session
  have hplain : made.session.state.Plain := (hr.submit hsubmit).plain
  have hshort : made.session.state.Short := ⟨hshort.stack, hshort.bindings⟩
  have hconsole : made.console.plain = r.console.plain := r.console.plain_displayAll _
  cases failure with
  | some failure =>
    have htold : made.console.plain = true → ∀ report,
        reportOf failure name source made.session.state.stack = .ok report →
          report.text.Encodable :=
      fun h => hreport (hconsole.symm.trans h) failure rfl
    obtain ⟨console, hreport, hsame⟩ := exists_report hplain hshort htold
    refine ⟨{ made with console, failed := true },
      ⟨rfl, rfl, rfl, hsame.trans hconsole, (Bool.or_true _).symm⟩, ?_⟩
    rw [execute_of_failed hsubmit, hreport]
    dsimp only
    rw [afterReport_eq]
    show (if r.settings.ignore then _ else _) = _
    cases r.settings.ignore <;> rfl
  | none =>
    cases withTop with
    | false =>
      exact ⟨made.complete, ⟨rfl, rfl, rfl, hconsole, (Bool.or_false _).symm⟩,
        execute_of_done hsubmit⟩
    | true =>
      have hplain : made.complete.session.state.Plain := hplain
      obtain ⟨console, hshow, hsame⟩ := exists_showTop hplain hshort (htop rfl rfl) ""
      refine ⟨{ made.complete with console },
        ⟨rfl, rfl, rfl, hsame.trans hconsole, (Bool.or_false _).symm⟩, ?_⟩
      rw [execute_of_done hsubmit, if_pos rfl, hshow]
      rfl

/-- A run that goes on after a source has written no file. -/
theorem folder_of_execute [Platform] {r' : Runner} {withTop : Bool}
    (h : r.execute source name withTop = .next r') : r'.folder = r.folder := by
  cases hsubmit : r.session.submit source (some name) with
  | mk session failure =>
  -- the ways out contradict `h`, and they are the only ones that write
  cases failure with
  | none =>
    rw [execute_of_done hsubmit] at h
    split at h
    · rcases showTop_frame _ "" with ⟨console, hshow, -⟩ | ⟨fault, console, hshow⟩
      · rw [hshow] at h
        cases h
        rfl
      · rw [hshow] at h
        cases h
    · cases h
      rfl
  | some failure =>
    rw [execute_of_failed hsubmit] at h
    rcases report_frame _ failure name source with ⟨console, hreport, -⟩ | ⟨fault, hreport⟩
    · rw [hreport] at h
      dsimp only at h
      rw [afterReport_eq] at h
      split at h
      · cases h
        rfl
      · unfold stop at h
        split at h <;> cases h
    · rw [hreport] at h
      cases h

end Runner

end CommandLine

end StackShell
