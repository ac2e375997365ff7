import StackShell.Proofs.Diagnostics
import StackShell.Proofs.Persistence

/-!
# A terminal survives its input

Whatever is handed in, and whatever was done with the terminal before, a line of input is answered:
with success and nothing more than the script's own output, or with a failure and exactly one line
that says so. What escapes to the caller is never about the script: it is one of the limits on
numbers, or that a run was given up (`Terminal.input_answers`).

What carries the proof along all that can be done with a terminal is that its state stays plain, and
that all names in it stay on one line, since they come from the tokens of source texts.
-/

namespace StackShell

namespace Terminal

/-- What can become of a terminal with the built-in commands. -/
inductive Reachable [Platform] : Terminal → Prop where
  | new {limit : Option Int} {shelf : Shelf} {transcript : Text} {t : Terminal} :
      Terminal.new (.new limit shelf) transcript = .ok t → Reachable t
  | input {t : Terminal} (text : Text) : Reachable t → Reachable (t.input text).1
  | print {t : Terminal} (text : Text) : Reachable t → Reachable (t.print text).1
  | clear {t : Terminal} : Reachable t → Reachable t.clear.1
  | attach {t : Terminal} (viewer : Text) : Reachable t → Reachable (t.attach viewer).1
  | detach {t : Terminal} (viewer : Text) : Reachable t → Reachable (t.detach viewer)
  | cancel {t : Terminal} : Reachable t → Reachable t.cancel
  | close {t : Terminal} : Reachable t → Reachable t.close
  /-- The terminal is persisted, and another host takes it up. -/
  | revive {t u : Terminal} {d : Document} {limit : Option Int} {shelf : Shelf} : Reachable t →
      t.encode = .ok d → decode (.new limit shelf) d = .ok u → Reachable u

/-! ## What stays the same -/

/-- A terminal with the built-in commands, the checkpoint of terminals, the device of terminals and
nothing left to be shown on it, and a plain state in which all names are on one line. -/
structure Steady (t : Terminal) : Prop where
  vocabulary : t.session.vocabulary = .builtins
  checkpoint : ∃ closed, t.session.checkpoint = guard closed
  device : t.session.state.device = .transcript
  log : t.session.state.log = []
  state : t.session.state.PlainWith Statement.NamedOnOneLine

namespace Steady

variable {t : Terminal}

theorem tame (ht : t.Steady) : t.session.Tame Builtin.Fails := by
  refine ⟨?_, fun statement state => ?_⟩
  · rw [ht.vocabulary]
    exact .builtins fun _ _ h => h
  · obtain ⟨closed, hcheckpoint⟩ := ht.checkpoint
    rw [hcheckpoint]
    cases closed <;> rfl

theorem input [Platform] (ht : t.Steady) (text : Text) : (t.input text).1.Steady := by
  have hplain : (t.session.submit text (some "<TERMINAL>")).1.state.PlainWith
      Statement.NamedOnOneLine :=
    ht.tame.submit_plainWith ht.state fun _ hparse => Program.parse_namedOnOneLine hparse
  have hdevice := ht.tame.submit_device text (some "<TERMINAL>")
  -- only the state has changed, and what was put out has been shown
  obtain ⟨state, failure, hsubmit⟩ := t.session.submit_frame text (some "<TERMINAL>")
  rw [hsubmit] at hplain hdevice
  rw [(input_of_submit hsubmit).1]
  exact ⟨ht.vocabulary, ht.checkpoint, hdevice.trans ht.device, rfl,
    ⟨hplain.stack, hplain.bindings, hplain.distinct⟩⟩

end Steady

theorem Reachable.steady [Platform] {t : Terminal} (h : t.Reachable) : t.Steady := by
  induction h with
  | new hnew =>
    cases hnew
    exact ⟨rfl, ⟨false, rfl⟩, rfl, rfl, State.initial_plainWith _ .transcript⟩
  | input text _ ih => exact ih.input text
  | print text _ ih => exact ⟨ih.vocabulary, ih.checkpoint, ih.device, ih.log, ih.state⟩
  | clear _ ih => exact ⟨ih.vocabulary, ih.checkpoint, ih.device, ih.log, ih.state⟩
  | attach viewer _ ih => exact ⟨ih.vocabulary, ih.checkpoint, ih.device, ih.log, ih.state⟩
  | detach viewer _ ih => exact ⟨ih.vocabulary, ih.checkpoint, ih.device, ih.log, ih.state⟩
  | cancel _ ih =>
    exact ⟨ih.vocabulary, ih.checkpoint, ih.device, ih.log,
      ⟨ih.state.stack, ih.state.bindings, ih.state.distinct⟩⟩
  | close _ ih =>
    exact ⟨ih.vocabulary, ⟨true, rfl⟩, ih.device, ih.log,
      ⟨ih.state.stack, ih.state.bindings, ih.state.distinct⟩⟩
  | @revive t u d limit shelf _ hencode hdecode ih =>
    have hhost : (Host.new limit shelf).vocabulary = .ok .builtins := rfl
    -- a plain terminal comes back from its document as it was
    obtain ⟨d', hencode', hdecode'⟩ := decode_encode ih.state.plain hhost
    rw [hencode] at hencode'
    cases hencode'
    rw [hdecode] at hdecode'
    cases hdecode'
    exact ⟨rfl, ⟨false, rfl⟩, rfl, rfl, ⟨ih.state.stack, ih.state.bindings, ih.state.distinct⟩⟩

/-! ## Answers -/

/-- A submission to a steady terminal fails with one line, or at a limit. -/
theorem Steady.submit_reportable [Platform] {t : Terminal} (ht : t.Steady) {text : Text}
    {failure : Failure}
    (h : (t.session.submit text (some "<TERMINAL>")).2 = some failure) : failure.Reportable := by
  rcases ht.tame.submit_failure ht.state (fun _ hparse => Program.parse_namedOnOneLine hparse) h
    with h | rfl | rfl | ⟨hdepth, raw, hmishap, hlocated⟩
  · exact h.reportable
  · trivial
  · unfold Failure.of Failure.Reportable OneLine Cause.message
    simp
  · have hconsole : t.session.state.device ≠ .console := by
      rw [ht.device]
      nofun
    refine hlocated.reportable (hmishap.reportable ht.vocabulary hconsole ?_ ?_)
    · -- the checkpoint fails only if the terminal is closed, and says so on one line
      obtain ⟨closed, hcheckpoint⟩ := ht.checkpoint
      intro statement state failure state' hfailed
      rw [hcheckpoint] at hfailed
      cases closed with
      | false => cases hfailed
      | true =>
        cases hfailed
        exact Stop.oneLine .terminalClosed
    · rintro rfl
      rcases hlocated.eq with rfl | ⟨_, _, _, h, -⟩
      · exact hdepth rfl
      · cases h

/-- Whether a text is one line that reports a failure. -/
def IsDiagnostic (line : Text) : Prop :=
  ∃ message, OneLine message ∧
    (line = "Error: " ++ message ++ "\n" ∨ line = "Parse Error: " ++ message ++ "\n")

theorem isDiagnostic_errorLine {cause : Cause} (h : OneLine cause.message)
    (place : Option Location) : IsDiagnostic (errorLine cause place) := by
  have hmessage : CodePoint.char '\n' ∉ cause.message.toList := h
  unfold errorLine
  split
  · exact ⟨_, h, .inr rfl⟩
  · exact ⟨_, h, .inr rfl⟩
  · dsimp only
    rw [@Text.append_assoc "Error: "]
    refine ⟨_, ?_, .inl rfl⟩
    unfold OneLine
    split
    · split <;> simp [hmessage]
    · simp [hmessage]

/-- The transcript with the echo of a line of input and all that its script puts out. -/
def shown [Platform] (t : Terminal) (text : Text) : Text :=
  (t.session.submit text (some "<TERMINAL>")).1.takeEvents.1.foldl Event.shownOn
    (t.transcript ++ (">" ++ text ++ "\n"))

/-- A line of input on any terminal with the built-in commands succeeds, with no line about a
failure in the transcript; or it fails, with exactly one such line at the end; or it meets a limit,
which escapes and leaves the transcript without such a line. -/
theorem input_answers [Platform] {t : Terminal} (h : t.Reachable) (text : Text) :
    match (t.input text).2.2 with
    | .ok true => (t.input text).1.transcript = t.shown text
    | .ok false =>
      ∃ line, IsDiagnostic line ∧ (t.input text).1.transcript = t.shown text ++ line
    | .error fault => fault.IsLimit ∧ (t.input text).1.transcript = t.shown text := by
  cases hsubmit : t.session.submit text (some "<TERMINAL>") with
  | mk session failure =>
  obtain ⟨hleft, hanswer⟩ := input_of_submit hsubmit
  have hreportable : ∀ problem, failure = some problem → problem.Reportable := fun problem heq =>
    h.steady.submit_reportable (by rw [hsubmit, heq])
  rw [hanswer, hleft, shown, hsubmit]
  match failure, hreportable with
  | none, _ => rfl
  | some (.script cause place), hreportable =>
    exact ⟨_, isDiagnostic_errorLine (hreportable _ rfl) place, rfl⟩
  | some (.fault fault), hreportable => exact ⟨hreportable _ rfl, rfl⟩

section

attribute [local instance] Platform.basic

/-- A fresh terminal answers a division by zero so. -/
theorem fresh_input_answers :
    ∃ t, Terminal.new (.new none []) "" = .ok t ∧ t.Reachable ∧
      match (t.input "1 0 /").2.2 with
      | .ok true => (t.input "1 0 /").1.transcript = t.shown "1 0 /"
      | .ok false =>
        ∃ line, IsDiagnostic line ∧
          (t.input "1 0 /").1.transcript = t.shown "1 0 /" ++ line
      | .error fault =>
        fault.IsLimit ∧ (t.input "1 0 /").1.transcript = t.shown "1 0 /" := by
  have hreachable : Reachable (on (.new none []) (.on .builtins none (.initial .transcript)) "") :=
    .new rfl
  exact ⟨_, rfl, hreachable, input_answers hreachable "1 0 /"⟩

end

end Terminal

end StackShell
