import StackShell.Proofs.Sessions
import StackShell.Proofs.Snapshot
import StackShell.Proofs.Terminals

/-!
# Persistence cannot be observed

A terminal that is persisted between two lines of input, and taken up again from what was persisted,
goes on as if nothing had happened: the transcript, the stack, the variables and the answers to all
later input are the same.

Two things carry the proof. Whatever scripts do, a terminal of a standard host stays *sound*: its
state is plain, so that it can be persisted at any time. And two terminals that are *alike*, which
may differ only in what the next submission resets, stay alike under the same input.
-/

namespace StackShell

namespace Terminal

variable {fails : Device → Failure → Prop} {t u : Terminal}

/-! ## Alike terminals -/

/-- Two terminals that differ at most in their viewers and in what the next submission resets. -/
structure Alike (t u : Terminal) : Prop where
  host : t.host = u.host
  session : t.session.rested = u.session.rested
  transcript : t.transcript = u.transcript

namespace Alike

theorem refl (t : Terminal) : t.Alike t :=
  ⟨rfl, rfl, rfl⟩

theorem trans {w : Terminal} (h : t.Alike u) (h' : u.Alike w) : t.Alike w :=
  ⟨h.host.trans h'.host, h.session.trans h'.session, h.transcript.trans h'.transcript⟩

theorem stack (h : t.Alike u) : t.session.state.stack = u.session.state.stack :=
  congrArg (fun s => s.state.stack) h.session

theorem bindings (h : t.Alike u) : t.session.state.bindings = u.session.state.bindings :=
  congrArg (fun s => s.state.bindings) h.session

/-- Alike terminals answer input alike and stay alike. -/
theorem input [Platform] (h : t.Alike u) (text : Text) :
    (t.input text).2.2 = (u.input text).2.2 ∧ (t.input text).1.Alike (u.input text).1 := by
  cases ht : t.session.submit text (some "<TERMINAL>") with
  | mk session failure =>
  cases hu : u.session.submit text (some "<TERMINAL>") with
  | mk session' failure' =>
  obtain ⟨htfailure, htsession⟩ := t.session.submit_rested text (some "<TERMINAL>")
  obtain ⟨hufailure, husession⟩ := u.session.submit_rested text (some "<TERMINAL>")
  -- both submissions go as that of one and the same rested session
  rw [h.session, ht] at htfailure htsession
  rw [hu] at hufailure husession
  have hfailure : failure = failure' := htfailure.symm.trans hufailure
  have hsession : session.rested = session'.rested := htsession.symm.trans husession
  have hevents : session.takeEvents.1 = session'.takeEvents.1 :=
    congrArg (fun s => s.takeEvents.1) hsession
  obtain ⟨hleft, hanswer⟩ := input_of_submit ht
  obtain ⟨hleft', hanswer'⟩ := input_of_submit hu
  refine ⟨?_, ?_⟩
  · rw [hanswer, hanswer', hfailure]
  · rw [hleft, hleft']
    refine ⟨h.host, congrArg (fun s => s.takeEvents.2) hsession, ?_⟩
    dsimp only
    rw [hevents, h.transcript, hfailure]

end Alike

/-! ## Sound terminals -/

/-- A terminal that is as its host made it, between two lines of input, apart from what scripts left
on the stack and in the variables; and that is plain. -/
structure Sound (fails : Device → Failure → Prop) (t : Terminal) : Prop where
  vocabulary : t.host.vocabulary = .ok t.session.vocabulary
  commands : t.session.vocabulary.Behaves fails
  limit : t.session.limit = t.host.limit
  checkpoint : t.session.checkpoint = guard false
  device : t.session.state.device = .transcript
  log : t.session.state.log = []
  state : t.session.state.Plain

/-- Fresh terminals are sound. -/
theorem new_sound {host : Host} {v : Vocabulary} (hhost : host.vocabulary = .ok v)
    (hv : v.Behaves fails) (transcript : Text) :
    ∃ t, new host transcript = .ok t ∧ t.Sound fails := by
  refine ⟨on host (.on v host.limit (.initial .transcript)) transcript, ?_, ?_⟩
  · rw [new, Host.newSession, hhost]
    rfl
  · exact ⟨hhost, hv, rfl, rfl, rfl, rfl,
      (State.plain_iff _).2 (State.initial_plainWith _ .transcript)⟩

namespace Sound

/-- The checkpoint of a terminal that is open only watches. -/
theorem tame (ht : t.Sound fails) : t.session.Tame fails := by
  refine ⟨ht.commands, fun statement state => ?_⟩
  rw [ht.checkpoint]
  rfl

/-- A sound terminal stays sound, whatever is handed in. -/
theorem input [Platform] (ht : t.Sound fails) (text : Text) : (t.input text).1.Sound fails := by
  have hplain := ht.tame.submit_plain ht.state text (some "<TERMINAL>")
  have hdevice := ht.tame.submit_device text (some "<TERMINAL>")
  obtain ⟨state, failure, hsubmit⟩ := t.session.submit_frame text (some "<TERMINAL>")
  rw [hsubmit] at hplain hdevice
  rw [(input_of_submit hsubmit).1]
  exact ⟨ht.vocabulary, ht.commands, ht.limit, ht.checkpoint, hdevice.trans ht.device, rfl,
    ⟨hplain.stack, hplain.bindings, hplain.distinct⟩⟩

end Sound

/-! ## Persisting -/

/-- A terminal with a plain state can be persisted, and any host that has a vocabulary makes from
that a terminal with the same stack, variables and transcript. -/
theorem decode_encode (hplain : t.session.state.Plain) {host : Host} {v : Vocabulary}
    (hhost : host.vocabulary = .ok v) :
    ∃ d, t.encode = .ok d ∧
      decode host d = .ok (on host (.on v host.limit
        { State.initial .transcript with
          stack := t.session.state.stack
          bindings := t.session.state.bindings }) t.transcript) := by
  obtain ⟨d, hencode, hrestore⟩ := Snapshot.restore_encode hplain .transcript
  refine ⟨.object [.mk "context" d, .mk "logs" (.string t.transcript)], ?_, ?_⟩
  · rw [encode, hencode]
    rfl
  · have hsession : host.restore d .transcript =
        .ok (.on v host.limit
          { State.initial .transcript with
            stack := t.session.state.stack
            bindings := t.session.state.bindings }) := by
      rw [Host.restore, hhost, hrestore]
      rfl
    show (do
        let session ← host.restore d .transcript
        return on host session t.transcript) = _
    rw [hsession]
    rfl

/-- The terminal that is taken up from the persisted form of another one. -/
def revived (t : Terminal) : Except Failure Terminal := do
  decode t.host (← t.encode)

/-- A sound terminal can be persisted, and what is taken up from it is sound and like it. -/
theorem Sound.revived (ht : t.Sound fails) :
    ∃ u, t.revived = .ok u ∧ u.Sound fails ∧ u.Alike t := by
  obtain ⟨d, hencode, hdecode⟩ := decode_encode ht.state ht.vocabulary
  refine ⟨_, (congrArg (· >>= decode t.host) hencode).trans hdecode, ?_, ?_⟩
  · exact ⟨ht.vocabulary, ht.commands, rfl, rfl, rfl, rfl,
      ⟨ht.state.stack, ht.state.bindings, ht.state.distinct⟩⟩
  · refine ⟨rfl, ?_, rfl⟩
    -- what was not persisted is either reset by every submission or the same in all terminals
    simp only [Session.rested, State.rested, ht.limit, ht.checkpoint, ht.device, ht.log]
    rfl

/-! ## Sessions with and without interruptions -/

/-- What may be done with a terminal between its creation and its end. -/
inductive Turn where
  /-- A line of input is handed in. -/
  | input (text : Text)
  /-- The terminal is persisted, and replaced by the one that is taken up from there. -/
  | persist

/-- The line that is handed in, if it is. -/
def Turn.line? : Turn → Option Text
  | .input text => some text
  | .persist => none

/-- Takes turns in order: the terminal that is left, and the answers to all input. -/
def play [Platform] (t : Terminal) : List Turn → Except Failure (Terminal × List Handled)
  | [] => .ok (t, [])
  | .input text :: rest => do
    let (t, _, answer) := t.input text
    let (t, answers) ← t.play rest
    return (t, answer :: answers)
  | .persist :: rest => do
    let t ← t.revived
    t.play rest

/-- Hands in lines in order: the terminal that is left, and the answers. -/
def inputAll [Platform] (t : Terminal) : List Text → Terminal × List Handled
  | [] => (t, [])
  | text :: rest =>
    let (t, _, answer) := t.input text
    let (t, answers) := t.inputAll rest
    (t, answer :: answers)

/-- A sound terminal that is persisted now and then answers as one that is like it and is not, and
is like it in the end. -/
theorem Sound.play [Platform] (ht : t.Sound fails) (h : t.Alike u) (turns : List Turn) :
    ∃ t', t.play turns = .ok (t', (u.inputAll (turns.filterMap Turn.line?)).2) ∧
      t'.Alike (u.inputAll (turns.filterMap Turn.line?)).1 := by
  induction turns generalizing t u with
  | nil => exact ⟨t, rfl, h⟩
  | cons turn turns ih =>
    cases turn with
    | input text =>
      obtain ⟨hanswer, halike⟩ := h.input text
      obtain ⟨t', hplay, hend⟩ := ih (ht.input text) halike
      refine ⟨t', ?_, hend⟩
      show (do
          let (t', answers) ← (t.input text).1.play turns
          return (t', (t.input text).2.2 :: answers)) = _
      rw [hplay, hanswer]
      rfl
    | persist =>
      -- the uninterrupted session stands still here
      obtain ⟨w, hrevived, hw, hlike⟩ := ht.revived
      obtain ⟨t', hplay, hend⟩ := ih hw (hlike.trans h)
      refine ⟨t', ?_, hend⟩
      rw [Terminal.play, hrevived]
      exact hplay

end Terminal

/-- Persistence cannot be observed. On a fresh terminal of a standard host, whatever is handed in,
and wherever between two lines the terminal is persisted and taken up again, nothing fails to be
persisted or taken up, and the answers, the transcript, the stack and the variables are those of the
session without interruptions. -/
theorem persistence_unobservable [Platform] (limit : Option Int) (shelf : Shelf) (withText : Bool)
    (transcript : Text) (turns : List Terminal.Turn) :
    ∃ host fresh interrupted uninterrupted answers,
      Host.standard limit shelf withText = .ok host ∧
      Terminal.new host transcript = .ok fresh ∧
      fresh.play turns = .ok (interrupted, answers) ∧
      fresh.inputAll (turns.filterMap Terminal.Turn.line?) = (uninterrupted, answers) ∧
      interrupted.transcript = uninterrupted.transcript ∧
      interrupted.session.state.stack = uninterrupted.session.state.stack ∧
      interrupted.session.state.bindings = uninterrupted.session.state.bindings := by
  obtain ⟨host, v, hhost, hvocabulary, hv⟩ := Host.vocabulary_standard limit shelf withText
  obtain ⟨fresh, hfresh, hsound⟩ := Terminal.new_sound hvocabulary hv transcript
  obtain ⟨interrupted, hplay, halike⟩ := hsound.play (.refl fresh) turns
  exact ⟨host, fresh, interrupted, _, _, hhost, hfresh, hplay, rfl, halike.transcript,
    halike.stack, halike.bindings⟩

end StackShell
