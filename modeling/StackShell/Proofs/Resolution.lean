import StackShell.Proofs.Failures
import StackShell.Proofs.Sessions
import StackShell.Proofs.Snapshot
import StackShell.Proofs.Syntax.Refusals

/-!
# Words that are resolved stay resolved

A word of a source text becomes an invocation only if there is a command of that name when the text
is read. The invocation may then travel inside functions, through the stack, the variables, other
functions, later submissions and persisted states; whenever it runs, there still is a command of
that name.

The invariant is `State.PlainWith` for the statements that the vocabulary of the session knows: what
is read has it, and a run keeps it, whatever the property is. What is left to show is that
persisting a state and restoring it on a host with at least the same extensions keeps it too.
-/

namespace StackShell

/-- Whether a failure is reported as one of a word that is not known. -/
def Failure.IsUnknown (failure : Failure) : Prop :=
  failure.label = Kind.unknownCommand.label

instance (failure : Failure) : Decidable failure.IsUnknown :=
  inferInstanceAs (Decidable (_ = _))

theorem TextExtension.Fails.not_isUnknown {device : Device} {failure : Failure}
    (h : TextExtension.Fails device failure) : ¬failure.IsUnknown := by
  unfold Failure.IsUnknown
  cases h with
  | builtin h =>
    cases h with
    | outOfRange problem => cases problem <;> decide
    | _ => simp [Failure.label, Failure.of, Cause.kind, Kind.label, Fault.label]
  | _ => simp [Failure.label, Failure.of, Cause.kind, Kind.label, Fault.label]

theorem Syntax.Refuses.not_isUnknown [Platform] {source : Text} {file : Option Text}
    {failure : Failure} (h : Refuses source file failure) : ¬failure.IsUnknown := by
  unfold Failure.IsUnknown
  cases h <;> simp [Failure.label, Failure.of, Cause.kind, Kind.label, Fault.label]

theorem Failure.Located.isUnknown {raw failure : Failure} (h : raw.Located failure) :
    failure.IsUnknown ↔ raw.IsUnknown := by
  rcases h.eq with rfl | ⟨cause, place, place', rfl, rfl⟩
  · exact Iff.rfl
  · exact Iff.rfl

namespace Session

variable {s : Session}

/-- A session of a standard host: no word that it holds, on the stack or in a variable, at whatever
depth in a function, invokes anything but a command. -/
structure Settled (withText : Bool) (s : Session) : Prop where
  vocabulary : s.vocabulary = Host.standardVocabulary withText
  checkpoint : s.checkpoint = .pass
  state : s.state.PlainWith (Host.standardVocabulary withText).Knows

namespace Settled

variable {withText : Bool}

theorem tame (hs : s.Settled withText) : s.Tame TextExtension.Fails := by
  refine ⟨?_, fun statement state => ?_⟩
  · rw [hs.vocabulary]
    exact Host.standardVocabulary_behaves withText
  · rw [hs.checkpoint]
    rfl

/-- Every invocation in a program that is read is one of a command. -/
theorem knows_of_parse [Platform] (hs : s.Settled withText) {source : Text} {file : Option Text}
    {program : Program} (h : s.parse source file = .ok program) :
    Program.PlainWith (Host.standardVocabulary withText).Knows program := by
  refine Program.parse_plainWith h fun token _ _ => ?_
  rw [hs.vocabulary]
  unfold Syntax.statementOf
  split
  all_goals first
    | trivial
    | skip
  -- a word invokes something only if it is known
  dsimp only
  split
  · next hcommand =>
    rw [Vocabulary.contains_eq] at hcommand
    exact hcommand
  · trivial

/-- Every machine that a submission comes to holds invocations of commands only. -/
theorem reaches [Platform] (hs : s.Settled withText) {source : Text} {file : Option Text}
    {program : Program} (hparse : s.parse source file = .ok program) {m : Machine}
    (h : Machine.Reaches s.environment (.start program { s.resume.state with steps := 0 }) m) :
    m.PlainWith (Host.standardVocabulary withText).Knows := by
  have hstate : s.resume.state.PlainWith (Host.standardVocabulary withText).Knows :=
    ⟨hs.state.stack, hs.state.bindings, hs.state.distinct⟩
  exact h.plainWith (hs.tame.keepsPlainWith _)
    (Machine.start_plainWith (hs.knows_of_parse hparse) hstate)

/-- What is submitted leaves the session settled. -/
theorem submit [Platform] (hs : s.Settled withText) (source : Text) (file : Option Text) :
    (s.submit source file).1.Settled withText := by
  have hread : ∀ program, s.parse source file = .ok program →
      Program.PlainWith (Host.standardVocabulary withText).Knows program :=
    fun _ => hs.knows_of_parse
  have hstate := hs.tame.submit_plainWith hs.state hread
  obtain ⟨state, failure, hsubmit⟩ := s.submit_frame source file
  rw [hsubmit] at hstate ⊢
  exact ⟨hs.vocabulary, hs.checkpoint, hstate⟩

/-- No submission fails because of a word that is not known. -/
theorem submit_not_isUnknown [Platform] (hs : s.Settled withText) {source : Text}
    {file : Option Text}
    {failure : Failure} (h : (s.submit source file).2 = some failure) : ¬failure.IsUnknown := by
  rcases hs.tame.submit_failure hs.state (fun _ => hs.knows_of_parse) h with
    hrefuses | rfl | rfl | ⟨-, raw, hmishap, hlocated⟩
  · exact hrefuses.not_isUnknown
  · decide
  · decide
  · rw [hlocated.isUnknown]
    cases hmishap with
    | unknown hknows hnone =>
      rw [hs.vocabulary] at hnone
      simp [Vocabulary.Knows, hnone] at hknows
    | checkpoint hcheckpoint =>
      rw [hs.checkpoint] at hcheckpoint
      cases hcheckpoint
    | routine hfails => exact hfails.not_isUnknown
    | _ => simp [Failure.IsUnknown, Failure.label, Failure.of, Cause.kind, Kind.label, Fault.label]

end Settled

/-! ## Sessions that are submitted to and moved -/

/-- What may be done with a session between its creation and its end. -/
inductive Turn where
  /-- A source text is submitted. -/
  | submit (source : Text) (file : Option Text)
  /-- The state is persisted, and the session goes on from it on a standard host, which has the text
  extension if the host before had it, and may have it otherwise. -/
  | move (limit : Option Int) (shelf : Shelf) (withText : Bool) (device : Device)

/-- Takes turns in order, on a session of a standard host with or without the text extension. -/
def play [Platform] (withText : Bool) (s : Session) : List Turn → Except Failure Session
  | [] => .ok s
  | .submit source file :: rest => (s.submit source file).1.play withText rest
  | .move limit shelf more device :: rest => do
    let d ← Snapshot.encode s.state
    let host ← Host.standard limit shelf (withText || more)
    let s ← host.restore d device
    s.play (withText || more) rest

/-- A settled session can be moved, and is settled then. -/
theorem Settled.move {withText : Bool} (hs : s.Settled withText) (limit : Option Int)
    (shelf : Shelf) (more : Bool) (device : Device) :
    ∃ d host s', Snapshot.encode s.state = .ok d ∧
      Host.standard limit shelf (withText || more) = .ok host ∧ host.restore d device = .ok s' ∧
      s'.Settled (withText || more) := by
  obtain ⟨d, hencode, hrestore⟩ := Snapshot.restore_encode hs.state.plain device
  obtain ⟨host, hhost, -, hvocabulary⟩ := Host.standard_eq_ok limit shelf (withText || more)
  refine ⟨d, host, .on (Host.standardVocabulary (withText || more)) host.limit
    { State.initial device with stack := s.state.stack, bindings := s.state.bindings },
    hencode, hhost, ?_, rfl, rfl, ?_⟩
  · rw [Host.restore, hvocabulary, hrestore]
    rfl
  · have hstate := hs.state.mono fun _ h => Host.knows_standardVocabulary h more
    exact ⟨hstate.stack, hstate.bindings, hstate.distinct⟩

/-- Whatever turns are taken, they can be, and leave a settled session. -/
theorem Settled.play [Platform] {withText : Bool} (hs : s.Settled withText) (turns : List Turn) :
    ∃ withText' s', s.play withText turns = .ok s' ∧ s'.Settled withText' := by
  induction turns generalizing withText s with
  | nil => exact ⟨withText, s, rfl, hs⟩
  | cons turn turns ih =>
    cases turn with
    | submit source file => exact ih (hs.submit source file)
    | move limit shelf more device =>
      obtain ⟨d, host, s', hencode, hhost, hrestore, hs'⟩ := hs.move limit shelf more device
      obtain ⟨withText', last, hplay, hlast⟩ := ih hs'
      refine ⟨withText', last, ?_, hlast⟩
      -- The remaining turns are played in the restored session, which is settled too.
      rw [Session.play, hencode]
      show (do
        let host ← Host.standard limit shelf (withText || more)
        let s ← host.restore d device
        s.play (withText || more) turns) = _
      rw [hhost]
      show (do
        let s ← host.restore d device
        s.play (withText || more) turns) = _
      rw [hrestore]
      exact hplay

end Session

/-- Words that were resolved when a text was read never dangle when they run. On a fresh session of
a standard host, whatever is submitted and wherever in between the session is persisted and moved to
a standard host with at least the same extensions, all turns can be taken; every invocation on the
stack and in the variables then left, at whatever depth, is one of a command, and so is every one
that a further submission comes to; and no submission fails because of a word that is not known. -/
theorem invocations_resolve [Platform] (limit : Option Int) (shelf : Shelf) (withText : Bool)
    (device : Device) (turns : List Session.Turn) :
    ∃ host fresh s,
      Host.standard limit shelf withText = .ok host ∧
      host.newSession device = .ok fresh ∧
      fresh.play withText turns = .ok s ∧
      s.state.PlainWith s.vocabulary.Knows ∧
      ∀ source file,
        (∀ program m, s.parse source file = .ok program →
          Machine.Reaches s.environment
              (.start program { s.resume.state with steps := 0 }) m →
            m.PlainWith s.vocabulary.Knows) ∧
        ∀ failure, (s.submit source file).2 = some failure → ¬failure.IsUnknown := by
  obtain ⟨host, hhost, -, hvocabulary⟩ := Host.standard_eq_ok limit shelf withText
  have hfresh : (Session.on (Host.standardVocabulary withText) host.limit
      (.initial device)).Settled withText :=
    ⟨rfl, rfl, State.initial_plainWith _ device⟩
  obtain ⟨withText', s, hplay, hs⟩ := hfresh.play turns
  refine ⟨host, _, s, hhost, ?_, hplay, ?_, fun source file => ⟨?_, ?_⟩⟩
  · rw [Host.newSession, hvocabulary]
    rfl
  · rw [hs.vocabulary]
    exact hs.state
  · intro program m hparse hreach
    rw [hs.vocabulary]
    exact hs.reaches hparse hreach
  · exact fun failure h => hs.submit_not_isUnknown h

end StackShell
