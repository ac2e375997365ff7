import Mathlib.Data.List.Nodup
import StackShell.Proofs.Terminals

/-!
# Viewers follow the transcript

A terminal keeps one transcript, and tells each viewer separately what changes in it. A viewer that
does nothing but what its notices say nevertheless sees the transcript after whatever was done with
the terminal, and is told nothing while it is away (`Terminal.viewers_follow`).

The invariant is that no viewer is listed twice, and that what a listed viewer was told so far
leaves the transcript on its screen, whatever stood there before.
-/

namespace StackShell

/-- The screen of a viewer after a notice. -/
def Notice.shownOn (screen : Text) : Notice → Text
  | .output text => screen ++ text
  | .contents text => text

/-- The notices of deliveries that go to a viewer, in order. -/
def told (viewer : Text) (deliveries : List Delivery) : List Notice :=
  (deliveries.filter (·.viewer == viewer)).map (·.notice)

/-- The screen of a viewer after deliveries. -/
def replay (viewer : Text) (deliveries : List Delivery) (screen : Text) : Text :=
  (told viewer deliveries).foldl Notice.shownOn screen

@[simp]
theorem replay_append (viewer : Text) (first second : List Delivery) (screen : Text) :
    replay viewer (first ++ second) screen =
      replay viewer second (replay viewer first screen) := by
  simp [replay, told]

theorem replay_single (viewer : Text) (notice : Notice) (screen : Text) :
    replay viewer [⟨viewer, notice⟩] screen = notice.shownOn screen := by
  simp [replay, told]

/-- Deliveries to others leave the screen of a viewer as it is. -/
theorem replay_of_others {viewer : Text} {deliveries : List Delivery} (screen : Text)
    (h : ∀ delivery ∈ deliveries, delivery.viewer ≠ viewer) :
    replay viewer deliveries screen = screen := by
  have hnone : deliveries.filter (·.viewer == viewer) = [] := by
    simpa using h
  simp [replay, told, hnone]

namespace Terminal

/-! ## What is done with a terminal -/

/-- What is done with a terminal and its viewers. -/
inductive Call where
  | attach (viewer : Text)
  | detach (viewer : Text)
  | print (text : Text)
  | clear
  | input (text : Text)

/-- The terminal after a call, and what the viewers are told during it. -/
def perform [Platform] (t : Terminal) : Call → Terminal × List Delivery
  | .attach viewer => t.attach viewer
  | .detach viewer => (t.detach viewer, [])
  | .print text => t.print text
  | .clear => t.clear
  | .input text => ((t.input text).1, (t.input text).2.1)

/-- The terminal after calls, and all that the viewers are told during them. -/
def performAll [Platform] (t : Terminal) : List Call → Terminal × List Delivery
  | [] => (t, [])
  | call :: calls =>
    let (next, first) := t.perform call
    let (last, others) := next.performAll calls
    (last, first ++ others)

/-- Whether each viewer that comes is one that is not there. -/
def Orderly [Platform] (t : Terminal) : List Call → Prop
  | [] => True
  | call :: calls =>
    (∀ viewer, call = .attach viewer → viewer ∉ t.viewers) ∧ (t.perform call).1.Orderly calls

theorem performAll_append [Platform] (t : Terminal) (earlier later : List Call) :
    t.performAll (earlier ++ later) =
      (((t.performAll earlier).1.performAll later).1,
        (t.performAll earlier).2 ++ ((t.performAll earlier).1.performAll later).2) := by
  induction earlier generalizing t with
  | nil => rfl
  | cons call earlier ih => simp [performAll, ih]

/-! ## Announcements -/

/-- Each viewer is told once. -/
theorem replay_tell {t : Terminal} (hdistinct : t.viewers.Nodup) {viewer : Text}
    (hmem : viewer ∈ t.viewers) (notice : Notice) (screen : Text) :
    replay viewer (t.tell notice) screen = notice.shownOn screen := by
  have honce : t.viewers.filter (· == viewer) = [viewer] := by
    rw [List.filter_beq, List.count_eq_one_of_mem hdistinct hmem]
    rfl
  have htold : told viewer (t.tell notice) = [notice] := by
    simp [told, tell, List.filter_map, Function.comp_def, honce]
  rw [replay, htold]
  rfl

/-- The viewers that are there, and no others, are told how the transcript of one terminal becomes
that of another. -/
structure Announced (t u : Terminal) (deliveries : List Delivery) : Prop where
  viewers : u.viewers = t.viewers
  told : ∀ delivery ∈ deliveries, delivery.viewer ∈ t.viewers
  shows : t.viewers.Nodup → ∀ viewer ∈ t.viewers,
    replay viewer deliveries t.transcript = u.transcript

namespace Announced

variable {t u v : Terminal} {first second : List Delivery}

/-- Nothing needs to be told where neither the viewers nor the transcript change. -/
theorem nothing (hviewers : u.viewers = t.viewers) (htranscript : u.transcript = t.transcript) :
    Announced t u [] where
  viewers := hviewers
  told delivery hmem := by cases hmem
  shows _ viewer _ := htranscript.symm

theorem trans (h : Announced t u first) (h' : Announced u v second) :
    Announced t v (first ++ second) where
  viewers := h'.viewers.trans h.viewers
  told delivery hmem := by
    rcases List.mem_append.mp hmem with hfirst | hsecond
    · exact h.told delivery hfirst
    · exact h.viewers ▸ h'.told delivery hsecond
  shows hdistinct viewer hmem := by
    rw [replay_append, h.shows hdistinct viewer hmem]
    exact h'.shows (h.viewers ▸ hdistinct) viewer (h.viewers ▸ hmem)

theorem tell (t : Terminal) (notice : Notice) :
    Announced t { t with transcript := notice.shownOn t.transcript } (t.tell notice) where
  viewers := rfl
  told delivery hmem := by
    obtain ⟨viewer, hthere, rfl⟩ := List.mem_map.mp hmem
    exact hthere
  shows hdistinct viewer hmem := replay_tell hdistinct hmem notice _

theorem print (t : Terminal) (text : Text) : Announced t (t.print text).1 (t.print text).2 :=
  tell t (.output text)

theorem clear (t : Terminal) : Announced t t.clear.1 t.clear.2 :=
  tell t (.contents "")

theorem display (t : Terminal) (e : Event) : Announced t (t.display e).1 (t.display e).2 := by
  cases e with
  | print text => exact print t text
  | clear => exact clear t
  | trace steps text => exact nothing rfl rfl

theorem displayAll (t : Terminal) (events : List Event) :
    Announced t (t.displayAll events).1 (t.displayAll events).2 := by
  induction events generalizing t with
  | nil => exact nothing rfl rfl
  | cons e events ih => exact (display t e).trans (ih (t.display e).1)

/-- A line of input is echoed, then what the script puts out is shown, then a failure of the script
is reported. -/
theorem input [Platform] (t : Terminal) (text : Text) :
    Announced t (t.input text).1 (t.input text).2.1 := by
  have hecho := print t (">" ++ text ++ "\n")
  cases hsubmit : (t.print (">" ++ text ++ "\n")).1.session.submit text (some "<TERMINAL>") with
  | mk session failure =>
  simp only [Terminal.input, hsubmit]
  have hrun : Announced (t.print (">" ++ text ++ "\n")).1
      { (t.print (">" ++ text ++ "\n")).1 with session := session.takeEvents.2 } [] :=
    nothing rfl rfl
  have hshown := hecho.trans (hrun.trans (displayAll _ session.takeEvents.1))
  cases failure with
  | none => exact hshown
  | some failure =>
    cases failure with
    | fault fault => exact hshown
    | script cause place => exact hshown.trans (print _ (errorLine cause place))

end Announced

/-! ## Calls -/

/-- The viewers after a call. -/
def Call.viewersAfter (viewers : List Text) : Call → List Text
  | .attach viewer => viewers ++ [viewer]
  | .detach viewer => viewers.erase viewer
  | .print _ | .clear | .input _ => viewers

/-- Only coming and going changes who is there. -/
theorem viewers_perform [Platform] (t : Terminal) (call : Call) :
    (t.perform call).1.viewers = call.viewersAfter t.viewers := by
  cases call with
  | attach viewer => rfl
  | detach viewer => rfl
  | print text => rfl
  | clear => rfl
  | input text => exact (Announced.input t text).viewers

/-- Only those are told that were there, or that come. -/
theorem mem_perform [Platform] {t : Terminal} {call : Call} {delivery : Delivery}
    (h : delivery ∈ (t.perform call).2) :
    delivery.viewer ∈ (t.perform call).1.viewers ∧
      (delivery.viewer ∈ t.viewers ∨ call = .attach delivery.viewer) := by
  have hthere : ∀ u deliveries, Announced t u deliveries → delivery ∈ deliveries →
      delivery.viewer ∈ u.viewers ∧
        (delivery.viewer ∈ t.viewers ∨ call = .attach delivery.viewer) := by
    intro u deliveries hannounced hmem
    have hviewer := hannounced.told delivery hmem
    exact ⟨hannounced.viewers ▸ hviewer, .inl hviewer⟩
  cases call with
  | attach viewer =>
    cases List.mem_singleton.mp h
    exact ⟨List.mem_append_right _ (List.mem_singleton_self viewer), .inr rfl⟩
  | detach viewer => cases h
  | print text => exact hthere _ _ (.print t text) h
  | clear => exact hthere _ _ (.clear t) h
  | input text => exact hthere _ _ (.input t text) h

/-- No viewer is listed twice, and each sees the transcript after all that was told so far. -/
structure InStep (t : Terminal) (history : List Delivery) : Prop where
  distinct : t.viewers.Nodup
  shows : ∀ viewer ∈ t.viewers, ∀ screen, replay viewer history screen = t.transcript

namespace InStep

variable {t : Terminal} {history : List Delivery}

theorem announced (h : t.InStep history) {u : Terminal} {deliveries : List Delivery}
    (hannounced : Announced t u deliveries) : u.InStep (history ++ deliveries) where
  distinct := hannounced.viewers ▸ h.distinct
  shows viewer hmem screen := by
    rw [hannounced.viewers] at hmem
    rw [replay_append, h.shows viewer hmem]
    exact hannounced.shows h.distinct viewer hmem

theorem attach (h : t.InStep history) {viewer : Text} (haway : viewer ∉ t.viewers) :
    (t.attach viewer).1.InStep (history ++ (t.attach viewer).2) where
  distinct := h.distinct.append (List.nodup_singleton viewer) (by simpa using haway)
  shows other hmem screen := by
    rw [replay_append]
    rcases List.mem_append.mp hmem with hthere | hnew
    · -- the others are not told that a viewer comes
      rw [h.shows other hthere, replay_of_others]
      · rfl
      · rintro delivery hdelivery rfl
        cases List.mem_singleton.mp hdelivery
        exact haway hthere
    · cases List.mem_singleton.mp hnew
      exact replay_single viewer (.contents t.transcript) _

theorem detach (h : t.InStep history) (viewer : Text) : (t.detach viewer).InStep history where
  distinct := h.distinct.erase viewer
  shows other hmem := h.shows other (List.mem_of_mem_erase hmem)

theorem perform [Platform] (h : t.InStep history) {call : Call}
    (horderly : ∀ viewer, call = .attach viewer → viewer ∉ t.viewers) :
    (t.perform call).1.InStep (history ++ (t.perform call).2) := by
  cases call with
  | attach viewer => exact h.attach (horderly viewer rfl)
  | detach viewer => simpa [Terminal.perform] using h.detach viewer
  | print text => exact h.announced (.print t text)
  | clear => exact h.announced (.clear t)
  | input text => exact h.announced (.input t text)

theorem performAll [Platform] (h : t.InStep history) {calls : List Call}
    (horderly : t.Orderly calls) :
    (t.performAll calls).1.InStep (history ++ (t.performAll calls).2) := by
  induction calls generalizing t history with
  | nil => simpa [Terminal.performAll] using h
  | cons call calls ih =>
    have hrest := ih (h.perform horderly.1) horderly.2
    rw [List.append_assoc] at hrest
    exact hrest

end InStep

/-- Whatever is done with a terminal, as long as no viewer comes twice: each viewer that is there
sees the transcript, whatever it showed before; and each notice goes to a viewer that is there, and
that was there before or comes with this very call. -/
theorem viewers_follow [Platform] {t : Terminal} (hfresh : t.viewers = []) {calls : List Call}
    (horderly : t.Orderly calls) :
    (∀ viewer ∈ (t.performAll calls).1.viewers, ∀ screen,
        replay viewer (t.performAll calls).2 screen = (t.performAll calls).1.transcript) ∧
      ∀ earlier call later, calls = earlier ++ call :: later →
        ∀ delivery ∈ ((t.performAll earlier).1.perform call).2,
          delivery.viewer ∈ (t.performAll (earlier ++ [call])).1.viewers ∧
            (delivery.viewer ∈ (t.performAll earlier).1.viewers ∨
              call = .attach delivery.viewer) := by
  have hstart : t.InStep [] := ⟨by simp [hfresh], by simp [hfresh]⟩
  constructor
  · exact (hstart.performAll horderly).shows
  · rintro earlier call later - delivery hmem
    rw [performAll_append]
    exact mem_perform hmem

section

attribute [local instance] Platform.basic

/-- A viewer comes, sees a script print, fail and clear, goes, and comes back to a longer
transcript. -/
theorem returning_viewer_follows :
    ∃ (t : Terminal) (calls : List Call),
      calls = [.input "1 print", .attach "a", .attach "b", .input "clear 2 print 0 /", .detach "a",
        .detach "c", .print "more", .attach "a", .input "3 print )"] ∧
      t.viewers = [] ∧ t.Orderly calls ∧
      (∀ viewer ∈ (t.performAll calls).1.viewers, ∀ screen,
          replay viewer (t.performAll calls).2 screen = (t.performAll calls).1.transcript) ∧
        ∀ earlier call later, calls = earlier ++ call :: later →
          ∀ delivery ∈ ((t.performAll earlier).1.perform call).2,
            delivery.viewer ∈ (t.performAll (earlier ++ [call])).1.viewers ∧
              (delivery.viewer ∈ (t.performAll earlier).1.viewers ∨
                call = .attach delivery.viewer) := by
  have hfresh : (on (.new none []) (.on .builtins none (.initial .transcript)) "").viewers = [] :=
    rfl
  have horderly : (on (.new none []) (.on .builtins none (.initial .transcript)) "").Orderly
      [.input "1 print", .attach "a", .attach "b", .input "clear 2 print 0 /", .detach "a",
        .detach "c", .print "more", .attach "a", .input "3 print )"] := by
    simp [Orderly, viewers_perform, Call.viewersAfter, hfresh]
  exact ⟨_, _, rfl, hfresh, horderly, viewers_follow hfresh horderly⟩

end

end Terminal

end StackShell
