import StackShell.Host.Terminal

/-!
# What a terminal does with input

The effect of a line of input on the transcript and on the session, apart from what the viewers are
told.
-/

namespace StackShell

/-- The transcript after an event of a run. -/
def Event.shownOn (transcript : Text) : Event → Text
  | .print text => transcript ++ text
  | .clear => ""
  | .trace .. => transcript

namespace Terminal

/-- The transcript after the report of how a submission ended. -/
def reportOn (transcript : Text) : Option Failure → Text
  | some (.script cause place) => transcript ++ errorLine cause place
  | some (.fault _) | none => transcript

/-- How a submission ended, to the one who handed it in. -/
def handled : Option Failure → Handled
  | none => .ok true
  | some (.fault fault) => .error fault
  | some (.script ..) => .ok false

/-- Showing events changes the transcript alone. -/
theorem displayAll_eq (t : Terminal) (events : List Event) :
    (t.displayAll events).1 =
      { t with transcript := events.foldl Event.shownOn t.transcript } := by
  induction events generalizing t with
  | nil => rfl
  | cons e events ih =>
    show ((t.display e).1.displayAll events).1 = _
    rw [ih]
    cases e with
    | print text => rfl
    | clear => rfl
    | trace steps text => rfl

/-- A line of input is echoed, run on the session, and reported. -/
theorem input_of_submit [Platform] {t : Terminal} {text : Text} {session : Session}
    {failure : Option Failure}
    (h : t.session.submit text (some "<TERMINAL>") = (session, failure)) :
    (t.input text).1 =
        { t with
          session := session.takeEvents.2
          transcript := reportOn
            (session.takeEvents.1.foldl Event.shownOn (t.transcript ++ (">" ++ text ++ "\n")))
            failure } ∧
      (t.input text).2.2 = handled failure := by
  have hdisplay := displayAll_eq
    { t with
      session := session.takeEvents.2
      transcript := t.transcript ++ (">" ++ text ++ "\n") } session.takeEvents.1
  simp only [input, print, h]
  match failure with
  | none => exact ⟨hdisplay, rfl⟩
  | some (.fault _) => exact ⟨hdisplay, rfl⟩
  | some (.script cause place) =>
    refine ⟨?_, rfl⟩
    rw [hdisplay]
    rfl

end Terminal

end StackShell
