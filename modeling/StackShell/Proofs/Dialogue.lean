import StackShell.Proofs.Places.Runs
import StackShell.Proofs.Plain.Printing
import StackShell.Proofs.Runners
import StackShell.Proofs.Syntax.Lines

/-!
# Dialogues

A dialogue that is given a source text line by line does what the whole text would do as one
submission: it leaves the same stack and the same variables, up to places, it makes the same events
in the same order, and each line that is not blank is in exactly one submission that succeeds
(`Runner.dialogue_agrees`). This holds unless a value on top of the stack cannot be shown, since a
number in it is too long or a surrogate is in its text: the dialogue shows the top after each
submission, and where that fails nobody takes the failure, so that it is over although nothing is
wrong with the script.

Two facts carry the induction over the lines. What is kept back and what is still to come are always
the rest of the program (`Syntax.Unread`), and the rest of the program is what is left to be run on
the state that the dialogue has come to (`Session.Due`).
-/

namespace StackShell

/-- Whether a run invokes the command of that name at some point. -/
def Machine.Invokes (env : Environment) (m : Machine) (name : Text) : Prop :=
  ∃ m' place rest, Machine.Reaches env m m' ∧ m'.code = .invoke name place :: rest

/-- A run that compares no values of any type does not look at places. -/
theorem Machine.blind_of_not_invokes [Platform] {s : Session} (hs : s.vocabulary = .builtins)
    {m : Machine} (h : ∀ name, Builtin.comparesValues (Vocabulary.builtins.resolve name) = true →
      ¬m.Invokes s.environment name)
    (r : Location → Location) : m.Blind r s.environment := by
  intro m' hreach name place rest hcode command hcommand
  have hbuiltin : Vocabulary.builtins.command? name = some command := by
    rw [← hs]
    exact hcommand
  refine Vocabulary.builtins_blindTo hbuiltin (.inr ?_)
  rw [← Bool.not_eq_true]
  intro hcompares
  exact h name hcompares ⟨m', place, rest, hreach, hcode⟩

/-- Words of which there are none, neither in the program nor on the state, are not invoked. -/
theorem Machine.not_invokes_of_plainWith {env : Environment} {good : Statement → Prop}
    (hkeeps : env.KeepsPlainWith good) {m : Machine} (hm : m.PlainWith good) {name : Text}
    (hgood : ∀ place, ¬good (.invoke name place)) : ¬m.Invokes env name := by
  rintro ⟨m', place, rest, hreach, hcode⟩
  have hplain := (hreach.plainWith hkeeps hm).code
  rw [hcode] at hplain
  exact hgood place hplain.1

/-! ## States up to places -/

/-- Two states with the same stack and the same variables, up to places. -/
structure State.Alike (s t : State) : Prop where
  stack : s.stack.map Value.unplaced = t.stack.map Value.unplaced
  bindings : s.bindings.mapValues Value.unplaced = t.bindings.mapValues Value.unplaced

namespace State

variable {s t u : State}

theorem Alike.trans (h : s.Alike t) (h' : t.Alike u) : s.Alike u :=
  ⟨h.stack.trans h'.stack, h.bindings.trans h'.bindings⟩

/-- Without places, a state within a larger run has the same stack, the same variables, and the
events that came before its own. -/
theorem alike_of_within {earlier : List Event} {begun : Nat}
    (h : s.within (fun _ => .nowhere) earlier begun = t.within (fun _ => .nowhere) [] 0) :
    s.Alike t ∧ s.log ++ earlier = t.log := by
  have hunplaced : Value.unplaced = Value.relocate fun _ => .nowhere :=
    funext Value.unplaced_eq_relocate
  have hlog : s.log ++ earlier = t.log ++ [] := congrArg State.log h
  rw [List.append_nil] at hlog
  refine ⟨⟨?_, ?_⟩, hlog⟩
  · rw [hunplaced]
    exact congrArg State.stack h
  · rw [hunplaced]
    exact congrArg State.bindings h

end State

/-! ## What is left to be run -/

namespace Session

/-- A program that is left to be run on a session with the built-in commands and nothing that could
stop it: its run looks at no places, and ends without a failure. -/
structure Due [Platform] (s : Session) (program : Program) (t : State) : Prop where
  vocabulary : s.vocabulary = .builtins
  limit : s.limit = none
  checkpoint : s.checkpoint = .pass
  log : s.state.log = []
  plain : s.state.Plain
  blind : (Machine.start program s.state.rested).Blind (fun _ => .nowhere) s.environment
  run : (Machine.start program s.state.rested).run s.environment patience = some (.done t)

namespace Due

variable {s : Session} {program first second : Program} {t : State} {source : Text}
  {file : Option Text}

theorem tame [Platform] (h : s.Due program t) : s.Tame Builtin.Fails := by
  refine ⟨?_, fun statement state => ?_⟩
  · rw [h.vocabulary]
    exact .builtins fun _ _ h => h
  · rw [h.checkpoint]
    rfl

/-- If nothing is left to be run, the state is the one that the run ends in. -/
theorem finished [Platform] (h : s.Due [] t) : t = s.state.rested := by
  have hstops : Machine.Stops s.environment (Machine.start [] s.state.rested)
      (.done s.state.rested) := ⟨1, rfl⟩
  have hdone := hstops.unique ⟨patience, h.run⟩
  cases hdone
  rfl

/-- A submission that is not read leaves all to be run. -/
theorem refused [Platform] (h : s.Due program t) {failure : Failure}
    (hparse : s.parse source file = .error failure) :
    ∃ session, s.submit source file = (session, some failure) ∧ session.takeEvents.1 = [] ∧
      session.takeEvents.2.Due program t := by
  have hsubmit : s.submit source file = (s.resume, some failure) := by
    rw [submit_eq, hparse]
  have hrested : s.resume.takeEvents.2.state.rested = s.state.rested := by
    simp [takeEvents, resume, State.rested, h.log]
  refine ⟨s.resume, hsubmit, ?_, h.vocabulary, h.limit, h.checkpoint, rfl,
    ⟨h.plain.stack, h.plain.bindings, h.plain.distinct⟩, ?_, ?_⟩
  · show s.state.log.reverse = []
    rw [h.log]
    rfl
  · rw [hrested]
    exact h.blind
  · rw [hrested]
    exact h.run

/-- A submission of the first part runs it, and leaves the second part to be run. -/
theorem submitted [Platform] (h : s.Due program t) (hparse : s.parse source file = .ok first)
    (hprogram : Program.unplaced program = Program.unplaced (first ++ second)) :
    ∃ session t', s.submit source file = (session, none) ∧ session.state.Plain ∧
      session.takeEvents.2.Due second t' ∧ t'.Alike t ∧
      t.log.reverse = session.takeEvents.1 ++ t'.log.reverse := by
  have hfree : s.environment.Free := ⟨h.limit, h.checkpoint⟩
  rw [Program.unplaced_eq_relocate, Program.unplaced_eq_relocate, Program.relocate_append]
    at hprogram
  obtain ⟨state, hrun, hrest⟩ := Machine.run_append hfree hprogram h.blind h.run
  have hsubmit : s.submit source file = ({ s with state }, none) :=
    submit_eq_done_iff.2 ⟨first, state, hparse, hrun, rfl⟩
  have hplain : state.Plain := by
    have hplain := h.tame.submit_plain h.plain source file
    rw [hsubmit] at hplain
    exact hplain
  have hcancelled : state.cancelled = false :=
    congrArg Prod.snd (h.tame.stops_fixed ⟨patience, hrun⟩)
  -- the second part goes on without the events of the first one and the count of its steps
  have hwithin : { state with log := [] }.rested.within (fun _ => .nowhere) state.log state.steps =
      state.within (fun _ => .nowhere) [] 0 := by
    simp [State.within, State.rested, hcancelled]
  obtain ⟨hblind, t', hrun', hend⟩ := hrest _ _ _ hwithin
  obtain ⟨halike, hlog⟩ := State.alike_of_within hend
  refine ⟨_, t', hsubmit, hplain, ⟨h.vocabulary, h.limit, h.checkpoint, rfl,
    ⟨hplain.stack, hplain.bindings, hplain.distinct⟩, hblind, hrun'⟩, halike, ?_⟩
  rw [← hlog, List.reverse_append]
  rfl

end Due

end Session

namespace CommandLine

/-! ## The submissions of a dialogue -/

/-- What came of some lines that were submitted together. -/
structure Submission where
  lines : List Text
  events : List Event
  failure : Option Failure

/-- The lines of the submissions that succeeded. -/
def Submission.executed (made : List Submission) : List Text :=
  (made.filter (·.failure.isNone)).flatMap (·.lines)

/-- The lines that are not blank. -/
def spoken (lines : List Text) : List Text :=
  lines.filter fun line => !(Text.trim line).isEmpty

namespace Runner

/-- What comes of some lines if they are submitted together. -/
def submission [Platform] (r : Runner) (lines : List Text) : Submission :=
  let (session, failure) := r.session.submit (Text.intercalate "\n" lines) (some dialogueName)
  ⟨lines, session.takeEvents.1, failure⟩

/-- The submission that a line leads to, if it leads to one. -/
def submissionOf [Platform] (r : Runner) (pending : List Text) (line : Text) : List Submission :=
  let word := Text.trim line
  if word.isEmpty then []
  else if pending.isEmpty && (word == "exit" || word == "quit") then []
  else [r.submission (pending ++ [line])]

/-- The submissions of a dialogue, in order. -/
def submissions [Platform] (r : Runner) (pending : List Text) : List Text → List Submission
  | [] => []
  | line :: rest =>
    let made := r.submissionOf pending line
    match (r.prompt pending).feed pending line with
    | .again r pending => made ++ r.submissions pending rest
    | .leave _ | .escape .. => made

variable {r : Runner} {pending lines : List Text} {line : Text}

/-- A blank line changes nothing. -/
theorem feed_of_blank [Platform] (hblank : (Text.trim line).isEmpty = true) (r : Runner)
    (pending : List Text) :
    r.feed pending line = .again r pending ∧ r.submissionOf pending line = [] := by
  simp [feed, submissionOf, hblank]

/-- A line that is not blank and does not ask to leave is submitted with the lines before it. -/
theorem feed_of_stays [Platform] (hblank : (Text.trim line).isEmpty = false)
    (hstays : Text.trim line ≠ "exit" ∧ Text.trim line ≠ "quit") (r : Runner)
    (pending : List Text) :
    r.feed pending line = r.answer (pending ++ [line]) ∧
      r.submissionOf pending line = [r.submission (pending ++ [line])] := by
  have hexit : (Text.trim line == "exit") = false := beq_eq_false_iff_ne.2 hstays.1
  have hquit : (Text.trim line == "quit") = false := beq_eq_false_iff_ne.2 hstays.2
  simp [feed, submissionOf, hblank, hexit, hquit]

/-- After a submission that succeeds, the dialogue goes on, unless the top cannot be shown. -/
theorem answer_of_done [Platform] {session : Session}
    (h : r.session.submit (Text.intercalate "\n" lines) (some dialogueName) = (session, none))
    (hplain : session.state.Plain) :
    ∃ r', r'.session = session.takeEvents.2 ∧
      (r.answer lines = .again r' [] ∨
        ∃ fault v stack, r.answer lines = .escape (.fault fault) r' ∧
          r'.session.state.stack = v :: stack ∧ v.Unshown fault) := by
  -- only the console of this runner changes when the top is shown
  let made : Runner :=
    { r with
      session := session.takeEvents.2
      console := r.console.displayAll session.takeEvents.1 }
  have hplain : made.session.state.Plain := ⟨hplain.stack, hplain.bindings, hplain.distinct⟩
  unfold answer
  simp only [submit_of_session h]
  rcases made.showTop_frame (Colour.paint Colour.grey ">>>" ++ " ") with
    ⟨console, hshow, -⟩ | ⟨fault, console, hshow⟩
  · rw [hshow]
    exact ⟨_, rfl, .inl rfl⟩
  · obtain ⟨v, stack, hstack, hunshown⟩ := unshown_of_showTop hplain hshow
    rw [hshow]
    exact ⟨_, rfl, .inr ⟨fault, v, stack, rfl, hstack, hunshown⟩⟩

/-- After a submission that ends too early, the dialogue goes on with its lines kept back. -/
theorem answer_of_incomplete [Platform] {session : Session} {failure : Failure}
    (h : r.session.submit (Text.intercalate "\n" lines) (some dialogueName) =
      (session, some failure)) (hincomplete : failure.isIncomplete = true) :
    ∃ r', r.answer lines = .again r' lines ∧ r'.session = session.takeEvents.2 := by
  unfold answer
  simp only [submit_of_session h, hincomplete, if_true]
  exact ⟨_, rfl, rfl⟩

theorem submission_of_session [Platform] {session : Session} {failure : Option Failure}
    (h : r.session.submit (Text.intercalate "\n" lines) (some dialogueName) = (session, failure)) :
    r.submission lines = ⟨lines, session.takeEvents.1, failure⟩ := by
  unfold submission
  rw [h]

/-! ## Going through the lines -/

/-- A line that is answered leaves the rest of the dialogue to the runner that it leads to. -/
theorem converse_of_again [Platform] {r' : Runner} {pending' : List Text}
    (h : (r.prompt pending).feed pending line = .again r' pending') (rest : List Text) :
    r.converse pending (line :: rest) = r'.converse pending' rest ∧
      r.submissions pending (line :: rest) =
        r.submissionOf pending line ++ r'.submissions pending' rest := by
  rw [converse, submissions]
  simp only [h, and_self]

theorem converse_of_escape [Platform] {r' : Runner} {failure : Failure}
    (h : (r.prompt pending).feed pending line = .escape failure r') (rest : List Text) :
    r.converse pending (line :: rest) = (.escape failure r', rest) ∧
      r.submissions pending (line :: rest) = r.submissionOf pending line := by
  rw [converse, submissions]
  simp only [h, and_self]

/-- A runner in a dialogue: the lines that it keeps back and those that are still to come are a
program, whose run on the session ends in the state `t`. -/
structure Awaits [Platform] (r : Runner) (pending lines : List Text) (trees : List Syntax.Tree)
    (t : State) : Prop where
  due : r.session.Due (Syntax.treesProgram Vocabulary.builtins.contains trees) t
  unread : Syntax.Unread pending lines trees
  stays : ∀ line ∈ lines, Text.trim line ≠ "exit" ∧ Text.trim line ≠ "quit"

/-- How a dialogue ends that is to come to the state `t`: it has made its events by then, or some of
them and a value on top of the stack could not be shown. -/
def Ends (t : State) (made : List Submission) : Step × List Text → Prop
  | (.next r, left) =>
    left = [] ∧ r.session.state.Alike t ∧ made.flatMap (·.events) = t.log.reverse
  | (.escape failure r, _) =>
    ∃ fault, failure = .fault fault ∧ made.flatMap (·.events) <+: t.log.reverse ∧
      ∃ v stack, r.session.state.stack = v :: stack ∧ v.Unshown fault
  | (.quit .., _) => False

/-- How a dialogue ends, and that each line up to there was in one submission that succeeded. -/
structure Concludes (t : State) (pending lines : List Text) (made : List Submission)
    (result : Step × List Text) : Prop where
  executed : Submission.executed made ++ spoken result.2 = pending ++ spoken lines
  ends : Ends t made result

section

variable {t t' : State} {made : List Submission} {result : Step × List Text}

theorem spoken_cons (hblank : (Text.trim line).isEmpty = false) (lines : List Text) :
    spoken (line :: lines) = line :: spoken lines := by
  simp [spoken, hblank]

theorem Concludes.after_blank (h : Concludes t pending lines made result)
    (hblank : (Text.trim line).isEmpty = true) :
    Concludes t pending (line :: lines) made result := by
  refine ⟨?_, h.ends⟩
  rw [h.executed]
  simp [spoken, hblank]

/-- Lines that were kept back are executed later. -/
theorem Concludes.after_kept (h : Concludes t (pending ++ [line]) lines made result)
    (hblank : (Text.trim line).isEmpty = false) (failure : Failure) :
    Concludes t pending (line :: lines) (⟨pending ++ [line], [], some failure⟩ :: made) result := by
  refine ⟨?_, ?_⟩
  · have hexecuted := h.executed
    rw [List.append_assoc, List.singleton_append, ← spoken_cons hblank] at hexecuted
    exact hexecuted
  · have hends := h.ends
    obtain ⟨step, left⟩ := result
    cases step with
    | next r | quit code r | escape failure r => exact hends

/-- Lines that were executed are left behind, with their events. -/
theorem Concludes.after_done (h : Concludes t' [] lines made result)
    (hblank : (Text.trim line).isEmpty = false) (halike : t'.Alike t) {events : List Event}
    (hevents : t.log.reverse = events ++ t'.log.reverse) :
    Concludes t pending (line :: lines) (⟨pending ++ [line], events, none⟩ :: made) result := by
  refine ⟨?_, ?_⟩
  · have hexecuted : Submission.executed (⟨pending ++ [line], events, none⟩ :: made) =
        pending ++ [line] ++ Submission.executed made := rfl
    rw [hexecuted, List.append_assoc, h.executed, spoken_cons hblank, List.append_assoc]
    rfl
  · have hends := h.ends
    obtain ⟨step, left⟩ := result
    cases step with
    | next r =>
      obtain ⟨hleft, hstate, hmade⟩ := hends
      refine ⟨hleft, hstate.trans halike, ?_⟩
      rw [List.flatMap_cons, hmade, hevents]
    | quit code r => exact hends
    | escape failure r =>
      obtain ⟨fault, hfailure, hmade, htop⟩ := hends
      refine ⟨fault, hfailure, ?_, htop⟩
      rw [List.flatMap_cons, hevents]
      exact (List.prefix_append_right_inj events).2 hmade

end

/-- What a line that is not blank leads to in a dialogue. -/
inductive Answered [Platform] (r : Runner) (pending : List Text) (line : Text) (lines : List Text)
    (t : State) : Prop where
  /-- The lines so far are executed. -/
  | done {r' : Runner} {second : List Syntax.Tree} {t' : State} {events : List Event}
      (feed : (r.prompt pending).feed pending line = .again r' [])
      (made : r.submissionOf pending line = [⟨pending ++ [line], events, none⟩])
      (awaits : r'.Awaits [] lines second t') (alike : t'.Alike t)
      (log : t.log.reverse = events ++ t'.log.reverse)
  /-- They are executed, but the top cannot be shown. -/
  | unshown {r' : Runner} {events : List Event} {fault : Fault} {v : Value} {stack : List Value}
      (feed : (r.prompt pending).feed pending line = .escape (.fault fault) r')
      (made : r.submissionOf pending line = [⟨pending ++ [line], events, none⟩])
      (log : events <+: t.log.reverse) (top : r'.session.state.stack = v :: stack)
      (unshown : v.Unshown fault)
  /-- They are kept back. -/
  | kept {r' : Runner} {trees : List Syntax.Tree} {failure : Failure}
      (feed : (r.prompt pending).feed pending line = .again r' (pending ++ [line]))
      (made : r.submissionOf pending line = [⟨pending ++ [line], [], some failure⟩])
      (awaits : r'.Awaits (pending ++ [line]) lines trees t)

namespace Awaits

variable {trees : List Syntax.Tree} {t : State}

theorem blank [Platform] (h : r.Awaits pending (line :: lines) trees t)
    (hblank : (Text.trim line).isEmpty = true) : (r.prompt pending).Awaits pending lines trees t :=
  ⟨h.due, h.unread.blank hblank, fun other hother =>
    h.stays other (List.mem_cons_of_mem line hother)⟩

theorem parse [Platform] (h : r.Awaits pending lines trees t) (source : Text) (file : Option Text) :
    r.session.parse source file = Program.parse Vocabulary.builtins.contains source file := by
  rw [← h.due.vocabulary]
  rfl

/-- The next line completes the lines that were kept back, or is kept back with them. -/
theorem feed [Platform] (h : r.Awaits pending (line :: lines) trees t)
    (hblank : (Text.trim line).isEmpty = false) : r.Answered pending line lines t := by
  obtain ⟨hline, hstays⟩ := List.forall_mem_cons.1 h.stays
  obtain ⟨hfeed, -⟩ := feed_of_stays hblank hline (r.prompt pending) pending
  obtain ⟨-, hmade⟩ := feed_of_stays hblank hline r pending
  rcases h.unread.next Vocabulary.builtins.contains (some dialogueName) with
    ⟨first, second, hfirst, hprogram, hunread⟩ | ⟨⟨failure, hfailure, hincomplete⟩, hunread⟩
  · obtain ⟨session, t', hsubmit, hplain, hdue, halike, hlog⟩ :=
      h.due.submitted ((h.parse _ _).trans hfirst) hprogram
    rw [submission_of_session hsubmit] at hmade
    obtain ⟨r', hsession, hanswer | ⟨fault, v, stack, hanswer, hstack, hunshown⟩⟩ :=
      answer_of_done (r := r.prompt pending) hsubmit hplain
    · rw [← hsession] at hdue
      exact .done (hfeed.trans hanswer) hmade ⟨hdue, hunread, hstays⟩ halike hlog
    · exact .unshown (hfeed.trans hanswer) hmade ⟨_, hlog.symm⟩ hstack hunshown
  · obtain ⟨session, hsubmit, hevents, hdue⟩ := h.due.refused ((h.parse _ _).trans hfailure)
    obtain ⟨r', hanswer, hsession⟩ :=
      answer_of_incomplete (r := r.prompt pending) hsubmit hincomplete
    rw [submission_of_session hsubmit, hevents] at hmade
    rw [← hsession] at hdue
    exact .kept (hfeed.trans hanswer) hmade ⟨hdue, hunread, hstays⟩

/-- A dialogue goes through its lines as their program goes through its run. -/
theorem converse [Platform] (h : r.Awaits pending lines trees t) :
    Concludes t pending lines (r.submissions pending lines) (r.converse pending lines) := by
  induction lines generalizing r pending trees t with
  | nil =>
    obtain ⟨rfl, rfl⟩ := h.unread.finished
    rw [h.due.finished]
    refine ⟨rfl, rfl, ⟨rfl, rfl⟩, ?_⟩
    show [] = r.session.state.log.reverse
    rw [h.due.log]
    rfl
  | cons line lines ih =>
    cases hblank : (Text.trim line).isEmpty with
    | true =>
      -- a blank line is passed over, and the prompt does not remember it
      obtain ⟨hfeed, -⟩ := feed_of_blank hblank (r.prompt pending) pending
      obtain ⟨-, hmade⟩ := feed_of_blank hblank r pending
      obtain ⟨hconverse, hsubmissions⟩ := converse_of_again hfeed lines
      rw [hconverse, hsubmissions, hmade]
      exact (ih (h.blank hblank)).after_blank hblank
    | false =>
      -- a line is run with the lines kept so far, or kept itself as long as a block is open
      cases h.feed hblank with
      | done hfeed hmade hnext halike hlog =>
        obtain ⟨hconverse, hsubmissions⟩ := converse_of_again hfeed lines
        rw [hconverse, hsubmissions, hmade]
        exact (ih hnext).after_done hblank halike hlog
      | unshown hfeed hmade hlog htop hunshown =>
        obtain ⟨hconverse, hsubmissions⟩ := converse_of_escape hfeed lines
        rw [hconverse, hsubmissions, hmade]
        refine ⟨?_, _, rfl, ?_, _, _, htop, hunshown⟩
        · rw [spoken_cons hblank]
          simp [Submission.executed]
        · rw [List.flatMap_singleton]
          exact hlog
      | kept hfeed hmade hnext =>
        obtain ⟨hconverse, hsubmissions⟩ := converse_of_again hfeed lines
        rw [hconverse, hsubmissions, hmade]
        exact (ih hnext).after_kept hblank _

end Awaits

/-- A dialogue agrees with a submission. On a fresh session with the built-in commands and without a
limit, let a source text succeed as one submission and never compare values of any type, and let
none of its lines ask to leave. Then the dialogue with its lines executes each line that is not
blank exactly once. It goes on to the end, leaves the same stack and the same variables up to
places, and makes the same events; unless it comes to a value on top of the stack that cannot be
shown, since it has a number too long to be written or a surrogate in its text, which ends the
dialogue with a failure that nobody reports. -/
theorem dialogue_agrees [Platform] {r : Runner} {device : Device} {source : Text}
    {file : Option Text} {whole : Session} (hr : r.session = .on .builtins none (.initial device))
    (hwhole : r.session.submit source file = (whole, none))
    (hcompares : ∀ program name, r.session.parse source file = .ok program →
      Builtin.comparesValues (Vocabulary.builtins.resolve name) = true →
        ¬(Machine.start program r.session.state).Invokes r.session.environment name)
    (hstays : ∀ line ∈ Text.pieces '\n' source,
      Text.trim line ≠ "exit" ∧ Text.trim line ≠ "quit") :
    let lines := Text.pieces '\n' source
    let made := r.greet.submissions [] lines
    Submission.executed made ++ spoken (r.dialogue lines).2 = spoken lines ∧
      match (r.dialogue lines).1 with
      | .next r' =>
        (r.dialogue lines).2 = [] ∧ r'.session.state.Alike whole.state ∧
          made.flatMap (·.events) = whole.takeEvents.1
      | .escape failure r' =>
        ∃ fault, failure = .fault fault ∧ made.flatMap (·.events) <+: whole.takeEvents.1 ∧
          ∃ v stack, r'.session.state.stack = v :: stack ∧ v.Unshown fault
      | .quit .. => False := by
  obtain ⟨program, state, hparse, hrun, rfl⟩ := Session.submit_eq_done_iff.1 hwhole
  obtain ⟨hvocabulary, hlimit, hcheckpoint⟩ : r.session.vocabulary = .builtins ∧
      r.session.limit = none ∧ r.session.checkpoint = .pass := by
    rw [hr]
    exact ⟨rfl, rfl, rfl⟩
  obtain ⟨hlog, hplain, hrested⟩ : r.session.state.log = [] ∧ r.session.state.Plain ∧
      r.session.state.rested = r.session.state := by
    rw [hr]
    exact ⟨rfl, (State.initial_plainWith (fun _ => True) device).plain, rfl⟩
  have hread : Program.parse Vocabulary.builtins.contains source file = .ok program := by
    rw [← hvocabulary]
    exact hparse
  obtain ⟨trees, rfl, hunread⟩ := Syntax.unread_of_parse hread
  have hblind : (Machine.start (Syntax.treesProgram Vocabulary.builtins.contains trees)
      r.session.state.rested).Blind (fun _ => .nowhere) r.session.environment := by
    rw [hrested]
    exact Machine.blind_of_not_invokes hvocabulary (fun name => hcompares _ name hparse) _
  have hawaits : r.greet.Awaits [] (Text.pieces '\n' source) trees state :=
    ⟨⟨hvocabulary, hlimit, hcheckpoint, hlog, hplain, hblind, hrun⟩, hunread, hstays⟩
  obtain ⟨hexecuted, hends⟩ := hawaits.converse
  refine ⟨hexecuted, ?_⟩
  unfold dialogue
  generalize r.greet.converse [] (Text.pieces '\n' source) = result at hends
  obtain ⟨step, left⟩ := result
  cases step with
  | next r' | quit code r' | escape failure r' => exact hends

/-- A runner on a fresh session. -/
def fresh : Runner where
  settings :=
    { verbosity := 0, ignore := false, stats := false, plain := true, stateFile := none,
      limit := none, extensions := [] }
  session := .on .builtins none (.initial .console)
  folder := ⟨.empty, []⟩
  console := .blank true
  failed := false
  completed := 0
  totalSteps := 0

section

attribute [local instance] Platform.basic

/-- A function that is written over two lines and called does what it does in one submission. -/
theorem dialogue_agrees_on_function :
    ∃ whole, fresh.session.submit "fn\n1 end @" none = (whole, none) ∧
      (∀ program name, fresh.session.parse "fn\n1 end @" none = .ok program →
        Builtin.comparesValues (Vocabulary.builtins.resolve name) = true →
          ¬(Machine.start program fresh.session.state).Invokes fresh.session.environment name) ∧
      (∀ line ∈ Text.pieces '\n' "fn\n1 end @",
        Text.trim line ≠ "exit" ∧ Text.trim line ≠ "quit") ∧
      let lines := Text.pieces '\n' "fn\n1 end @"
      let made := fresh.greet.submissions [] lines
      Submission.executed made ++ spoken (fresh.dialogue lines).2 = spoken lines ∧
        match (fresh.dialogue lines).1 with
        | .next r' =>
          (fresh.dialogue lines).2 = [] ∧ r'.session.state.Alike whole.state ∧
            made.flatMap (·.events) = whole.takeEvents.1
        | .escape failure r' =>
          ∃ fault, failure = .fault fault ∧ made.flatMap (·.events) <+: whole.takeEvents.1 ∧
            ∃ v stack, r'.session.state.stack = v :: stack ∧ v.Unshown fault
        | .quit .. => False := by
  have hparse : fresh.session.parse "fn\n1 end @" none =
      .ok [.define none [.literal (.int 1) ⟨2, 1⟩], .call none ⟨2, 7⟩] := by
    unfold Session.parse
    generalize fresh.session.vocabulary.contains = isCommand
    cbv
  have hwhole : fresh.session.submit "fn\n1 end @" none =
      ({ fresh.session with
          state := { State.initial .console with stack := [.int 1], steps := 3 } }, none) := by
    refine Session.submit_eq_done_iff.2 ⟨_, _, hparse, ?_, rfl⟩
    have hle : 6 ≤ patience := by decide +kernel
    exact Machine.run_mono hle rfl
  have hcompares : ∀ program name, fresh.session.parse "fn\n1 end @" none = .ok program →
      Builtin.comparesValues (Vocabulary.builtins.resolve name) = true →
        ¬(Machine.start program fresh.session.state).Invokes fresh.session.environment name := by
    intro program name hprogram _
    rw [hparse] at hprogram
    cases hprogram
    have htame : fresh.session.Tame Builtin.Fails :=
      ⟨.builtins fun _ _ h => h, fun _ _ => rfl⟩
    -- nothing is invoked at all
    let good : Statement → Prop := fun s => ∀ name place, s ≠ .invoke name place
    have hwords : Program.PlainWith good
        [.define none [.literal (.int 1) ⟨2, 1⟩], .call none ⟨2, 7⟩] := by
      refine ⟨⟨⟨trivial, ?_⟩, trivial⟩, ?_, trivial⟩ <;>
        · intro name place h
          cases h
    have hstart := Machine.start_plainWith hwords (State.initial_plainWith good .console)
    exact Machine.not_invokes_of_plainWith (htame.keepsPlainWith good) hstart
      fun place h => h name place rfl
  have hstays : ∀ line ∈ Text.pieces '\n' "fn\n1 end @",
      Text.trim line ≠ "exit" ∧ Text.trim line ≠ "quit" := by decide +kernel
  exact ⟨_, hwhole, hcompares, hstays, dialogue_agrees rfl hwhole hcompares hstays⟩

end

end Runner

end CommandLine

end StackShell
