import Mathlib.Data.List.Forall2
import StackShell.Proofs.Plain.Run
import StackShell.Proofs.Routines

/-!
# Routines on plain values

A routine *behaves* if it makes plain values out of plain ones and fails only in expected ways.
Given what its shapes ask for, that is, items of the right types, an output device or a whole stack,
and all of them plain, it gives a result that can be placed and whose part that goes on the stack is
plain, or else one of the failures expected. Functions among the items may reappear in the result
but are not changed, so that whatever holds of all the words in them is kept too.

The main facts are that the command of such a routine keeps states plain (`Routine.Behaves.state`),
and that it fails only as the routine does or because it is refused its items
(`Routine.Behaves.failure`).
-/

namespace StackShell

variable {good : Statement → Prop} {fails : Device → Failure → Prop}

/-- Whether every value is accepted or not accepted for an item of the shape. -/
def Shape.isOperand : Shape → Bool
  | .integer | .real | .boolean | .string | .anything | .stack | .output => true
  | .union [.integer, .real] => true
  | _ => false

/-- What a parameter of the shape is given, when the stack is plain with good words and the output
goes to the device. -/
def Shape.Fits (good : Statement → Prop) (device : Device) (shape : Shape) (v : Value) : Prop :=
  match Role.of shape with
  | .item => v.PlainWith good ∧ ∃ test, shape.normalise = .ok test ∧ test.accepts v = .ok true
  | .output => v = .device device
  | .wholeStack => ∃ items, v = .stack items ∧ Value.AllPlainWith good items

/-- Whether a result can be placed, and the part of it that goes on the stack is plain, with good
words. -/
def Yield.PlainWith (good : Statement → Prop) : Yield → Value → Prop
  | .replace, v => ∃ items, v = .stack items ∧ Value.AllPlainWith good items
  | .items [], _ => True
  | .items [_], v => v.PlainWith good
  | .items (_ :: _ :: _), v => ∃ items, v = .tuple items ∧ Value.AllPlainWith good items

namespace Routine

/-- The shapes of the parameters. -/
def shapes (r : Routine) : List Shape :=
  r.parameters.filterMap (·.shape)

/-- Whether what the routine gives can be placed and is plain, with good words, or is a failure of
those expected. -/
def Gives (good : Statement → Prop) (expected : Failure → Prop) (r : Routine) :
    Except Failure Value → Prop
  | .ok v => ∀ out yield, r.result = some out → Signature.yieldOf out = .ok yield →
      yield.PlainWith good v
  | .error failure => expected failure

/-- Whether the routine makes plain values out of plain ones, with good words out of good words,
whatever good words are; and fails only in the ways expected on the device. -/
structure Behaves (fails : Device → Failure → Prop) (r : Routine) : Prop where
  operands : ∀ shape ∈ r.shapes, shape.isOperand
  body : ∀ good device args, List.Forall₂ (Shape.Fits good device) r.shapes args →
    r.Gives good (fails device) (r.body args).result

end Routine

/-- A shape that decides stands for itself, and decides. -/
theorem Shape.accepts_of_isOperand {shape : Shape} (h : shape.isOperand) :
    shape.normalise = .ok shape ∧ ∀ v : Value, ∃ accepted, shape.accepts v = .ok accepted := by
  unfold Shape.isOperand at h
  split at h
  case h_9 => cases h
  all_goals
    refine ⟨rfl, fun v => ?_⟩
    rcases v with (n | x) | _ | _ | _ | _ | _ | _ | _ <;> exact ⟨_, rfl⟩

theorem Shape.mapM_normalise {row : List Shape} (h : ∀ shape ∈ row, shape.isOperand) :
    row.mapM normalise = .ok row := by
  induction row with
  | nil => rfl
  | cons shape row ih =>
    obtain ⟨hshape, hrow⟩ := List.forall_mem_cons.1 h
    rw [List.mapM_cons, (accepts_of_isOperand hshape).1, ih hrow]
    rfl

namespace Signature

/-- Plain items that are accepted are handed out one by one. -/
theorem arguments_fits_items (device : Device) {shapes tests : List Shape} {items : List Value}
    (htests : (shapes.filter (Role.of · == .item)).mapM Shape.normalise = .ok tests)
    (hitems : List.Forall₂ (fun test v => v.PlainWith good ∧ test.accepts v = .ok true) tests items)
    (hstack : .wholeStack ∉ shapes.map Role.of) :
    List.Forall₂ (Shape.Fits good device) shapes (arguments device (shapes.map Role.of) items) := by
  induction shapes generalizing tests items with
  | nil => exact .nil
  | cons shape shapes ih =>
    obtain ⟨hshape, hstack⟩ := not_or.1 (mt List.mem_cons.2 hstack)
    cases hrole : Role.of shape with
    | wholeStack => exact absurd hrole.symm hshape
    | output =>
      -- an output device takes no item
      rw [List.filter_cons_of_neg (by simp [hrole])] at htests
      have hfits : Shape.Fits good device shape (.device device) := by
        rw [Shape.Fits, hrole]
      simp only [List.map_cons, hrole, arguments]
      exact .cons hfits (ih htests hitems hstack)
    | item =>
      rw [List.filter_cons_of_pos (by simp [hrole]), List.mapM_cons] at htests
      obtain ⟨test, htest, htests⟩ := bind_eq_ok.1 htests
      obtain ⟨others, hothers, htests⟩ := bind_eq_ok.1 htests
      cases htests
      cases hitems with
      | @cons _ v _ items hv hitems =>
        have hfits : Shape.Fits good device shape v := by
          rw [Shape.Fits, hrole]
          exact ⟨hv.1, test, htest, hv.2⟩
        simp only [List.map_cons, hrole, arguments]
        exact .cons hfits (ih hothers hitems hstack)

/-- A plain stack is handed to the one role that asks for it. -/
theorem arguments_fits_stack (device : Device) {shapes : List Shape} {stack : List Value}
    (hplain : Value.AllPlainWith good stack) (hitem : (shapes.map Role.of).count .item = 0)
    (hstack : (shapes.map Role.of).count .wholeStack = 1) :
    List.Forall₂ (Shape.Fits good device) shapes
      (arguments device (shapes.map Role.of) [.stack stack]) := by
  induction shapes with
  | nil => exact .nil
  | cons shape shapes ih =>
    rw [List.map_cons] at hitem hstack
    cases hrole : Role.of shape with
    | output =>
      rw [hrole, List.count_cons_of_ne (by decide)] at hitem hstack
      have hfits : Shape.Fits good device shape (.device device) := by
        rw [Shape.Fits, hrole]
      simp only [List.map_cons, hrole, arguments]
      exact .cons hfits (ih hitem hstack)
    | item =>
      rw [hrole, List.count_cons_self] at hitem
      omega
    | wholeStack =>
      rw [hrole, List.count_cons_self] at hstack
      rw [hrole, List.count_cons_of_ne (by decide)] at hitem
      have hfits : Shape.Fits good device shape (.stack stack) := by
        rw [Shape.Fits, hrole]
        exact ⟨stack, rfl, hplain⟩
      -- no role is left that takes anything off the stack
      have hnone : shapes.filter (Role.of · == .item) = [] := by
        refine List.filter_eq_nil_iff.2 fun other hother hrole => ?_
        have hmem : Role.item ∈ shapes.map Role.of :=
          List.mem_map.2 ⟨other, hother, eq_of_beq hrole⟩
        exact List.count_eq_zero.1 hitem hmem
      have hrest : List.Forall₂ (Shape.Fits good device) shapes
          (arguments device (shapes.map Role.of) []) := by
        have htests : (shapes.filter (Role.of · == .item)).mapM Shape.normalise = .ok [] := by
          rw [hnone]
          rfl
        exact arguments_fits_items device htests .nil
          (List.count_eq_zero.1 (Nat.succ.inj hstack))
      simp only [List.map_cons, hrole, arguments]
      exact .cons hfits hrest

/-- What a command takes off a plain stack leaves plain values, and its arguments fit. -/
theorem takeItems_fits {label command : Text} {parameters : List Parameter}
    {result : Option Shape} {sig : Signature} (hsig : derive label parameters result = .ok sig)
    (device : Device) {stack base items : List Value} (hplain : Value.AllPlainWith good stack)
    (h : sig.takeItems command stack = .ok (base, items)) :
    Value.AllPlainWith good base ∧
      List.Forall₂ (Shape.Fits good device) (parameters.filterMap (·.shape))
        (arguments device sig.roles items) := by
  obtain ⟨hroles, ⟨tests, htests, hinputs⟩, hwhole, -⟩ := derive_eq_ok hsig
  unfold takeItems at h
  split at h
  · next htakes =>
    cases h
    obtain ⟨hone, hnone⟩ := hwhole htakes
    rw [hroles] at hone hnone ⊢
    exact ⟨hplain, arguments_fits_stack device hplain hnone hone⟩
  · next htakes =>
    -- the stack falls apart into the items, which are handed out, and the base, which stays
    obtain ⟨popped, rfl, rfl, haccepted⟩ := popItems_eq_ok h
    have hpopped : Value.AllPlainWith good popped := fun v hv =>
      hplain v (List.mem_append_left _ hv)
    have hbase : Value.AllPlainWith good base := fun v hv => hplain v (List.mem_append_right _ hv)
    have hitems : List.Forall₂ (fun test v => v.PlainWith good ∧ test.accepts v = .ok true) tests
        popped.reverse := by
      rw [hinputs] at haccepted
      rw [← List.forall₂_reverse_iff, List.reverse_reverse]
      exact ((List.forall₂_and_left _ _).2 ⟨hpopped, haccepted.flip⟩).flip
    have hstack : Role.wholeStack ∉ (parameters.filterMap (·.shape)).map Role.of := by
      rw [← hroles]
      exact fun hmem => htakes (List.contains_iff_mem.2 hmem)
    rw [List.append_nil, hroles]
    exact ⟨hbase, arguments_fits_items device htests hitems hstack⟩

/-- A result that can be placed leaves a plain stack. -/
theorem place_plainWith {yield : Yield} {base : List Value} {v : Value}
    (hbase : Value.AllPlainWith good base) (hv : yield.PlainWith good v) :
    ∃ stack, place yield base v = .ok stack ∧ Value.AllPlainWith good stack := by
  match yield, hv with
  | .replace, ⟨items, hitems, hplain⟩ =>
    rw [hitems]
    exact ⟨items, rfl, hplain⟩
  | .items [], _ => exact ⟨base, rfl, hbase⟩
  | .items [_], hv => exact ⟨v :: base, rfl, .cons hv hbase⟩
  | .items (_ :: _ :: _), ⟨items, hitems, hplain⟩ =>
    rw [hitems]
    exact ⟨items.reverse ++ base, rfl, hplain.reverse.append hbase⟩

end Signature

namespace Routine.Behaves

variable {r : Routine} (hr : r.Behaves fails) {label : Text} {sig : Signature}
  (hsig : r.signature label = .ok sig) (name : Text)
include hr hsig

/-- What a command that behaves makes of a plain stack. -/
theorem gives {s : State} (hs : s.PlainWith good) {base items : List Value}
    (htake : sig.takeItems name s.stack = .ok (base, items)) :
    match (r.body (Signature.arguments s.device sig.roles items)).result with
    | .ok v => ∃ stack, Signature.place sig.result base v = .ok stack ∧
        Value.AllPlainWith good stack
    | .error failure => fails s.device failure := by
  obtain ⟨hbase, hfits⟩ := Signature.takeItems_fits hsig s.device hs.stack htake
  obtain ⟨-, -, -, out, hout, hyield⟩ := Signature.derive_eq_ok hsig
  have hgives := hr.body good s.device _ hfits
  cases hresult : (r.body (Signature.arguments s.device sig.roles items)).result with
  | ok v =>
    rw [hresult] at hgives
    exact Signature.place_plainWith hbase (hgives out sig.result hout hyield)
  | error failure =>
    rw [hresult] at hgives
    exact hgives

/-- The command of a routine that behaves keeps plain states plain, and their words good. -/
theorem state (s : State) (hs : s.PlainWith good) :
    (r.command sig name s).state.PlainWith good := by
  cases h : r.command sig name s with
  | failed failure s' =>
    obtain ⟨log, rfl⟩ := command_eq_failed h
    exact ⟨hs.stack, hs.bindings, hs.distinct⟩
  | done s' =>
    obtain ⟨base, items, v, stack, log, htake, hresult, hplace, rfl⟩ := command_eq_done h
    have hgives := hr.gives hsig name hs htake
    rw [hresult] at hgives
    obtain ⟨stack', hplace', hstack⟩ := hgives
    rw [hplace] at hplace'
    cases hplace'
    exact ⟨hstack, hs.bindings, hs.distinct⟩

/-- On a plain state, the command of a routine that behaves fails as the routine does, or because
there are too few items or one of the wrong type. -/
theorem failure {s s' : State} (hs : s.PlainWith good) {failure : Failure}
    (h : r.command sig name s = .failed failure s') :
    fails s.device failure ∨
      (∃ needed available, failure = .of (.underflow (.arguments name needed available))) ∨
      ∃ expected ∈ r.shapes, ∃ v : Value,
        failure = .of (.mismatch expected.describe v.typeName) := by
  rcases failure_of_command h with htake | ⟨base, items, htake, hresult | ⟨v, hresult, hplace⟩⟩
  · obtain ⟨-, ⟨tests, htests, hinputs⟩, -, -⟩ := Signature.derive_eq_ok hsig
    -- all tests are shapes of parameters, which decide
    have hmem : ∀ test ∈ sig.inputs, test ∈ r.shapes := by
      have hnormal : (r.shapes.filter (Role.of · == .item)).mapM Shape.normalise = _ :=
        Shape.mapM_normalise fun shape hshape => hr.operands shape (List.mem_of_mem_filter hshape)
      intro test htest
      cases hnormal.symm.trans htests
      rw [hinputs, List.mem_reverse] at htest
      exact List.mem_of_mem_filter htest
    unfold Signature.takeItems at htake
    split at htake
    · cases htake
    · cases Signature.popItems_eq_error htake with
      | few needed available => exact .inr (.inl ⟨needed, available, rfl⟩)
      | mismatch v hexpected => exact .inr (.inr ⟨_, hmem _ hexpected, v, rfl⟩)
      | @untested expected v problem hexpected hproblem =>
        obtain ⟨accepted, haccepted⟩ :=
          (Shape.accepts_of_isOperand (hr.operands expected (hmem _ hexpected))).2 v
        rw [hproblem] at haccepted
        cases haccepted
  · have hgives := hr.gives hsig name hs htake
    rw [hresult] at hgives
    exact .inl hgives
  · have hgives := hr.gives hsig name hs htake
    rw [hresult] at hgives
    obtain ⟨stack, hplace', -⟩ := hgives
    rw [hplace] at hplace'
    cases hplace'

end Routine.Behaves

end StackShell
