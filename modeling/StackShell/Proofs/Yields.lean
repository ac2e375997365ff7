import StackShell.Proofs.Arguments

/-!
# Where the result of a routine goes

A routine declares what it gives, and the declaration decides what becomes of its result: nothing
of it is kept, or it is the new stack, or its members go on the stack one after the other, or it
goes there itself. All of it lands on what is left of the stack once the items of the command are
off (`results_follow_shape`).

A declared tuple of one member is left out here. Only the number of members is kept of a tuple, so
that nothing tells this one from a single value.
-/

namespace StackShell

namespace Shape

/-- Whether a declared result is that there is none. -/
def isNothing : Shape → Bool
  | .nothing | .missing => true
  | _ => false

/-- The shapes of the members of a declared tuple. A tuple whose members are not declared has none
that could be put on the stack. -/
def memberShapes? : Shape → Option (List Shape)
  | .tuple => some []
  | .tupleOf row => some row
  | _ => none

end Shape

/-- The outcome of a command whose routine gave the reply and that leaves the stack. -/
def Reply.leaving (reply : Reply) (s : State) (stack : List Value) : Outcome :=
  .done { reply.events.foldl State.emit s with stack }

theorem Reply.deliver_of_place {reply : Reply} {v : Value} (h : reply.result = .ok v)
    {result : Yield} {base stack : List Value} (hplace : Signature.place result base v = .ok stack)
    (s : State) : reply.deliver result base s = reply.leaving s stack := by
  have hbind : (reply.result >>= Signature.place result base) = .ok stack := by
    rw [h]
    exact hplace
  rw [deliver, hbind]
  rfl

namespace Signature

/-! ## What the declared result is read as -/

theorem yieldOf_nothing {out : Shape} (h : out.isNothing = true) :
    yieldOf out = .ok (.items []) := by
  cases out with
  | nothing | missing => rfl
  | _ => cases h

/-- Of a declared tuple as many items are kept as it has members. -/
theorem yieldOf_members {out : Shape} {shapes : List Shape} (h : out.memberShapes? = some shapes)
    {result : Yield} (hresult : yieldOf out = .ok result) :
    ∃ row, result = .items row ∧ row.length = shapes.length := by
  cases out with
  | tuple =>
    cases h
    cases hresult
    exact ⟨[], rfl, rfl⟩
  | tupleOf declared =>
    cases h
    obtain ⟨row, hrow, hresult⟩ := bind_eq_ok.1 hresult
    cases hresult
    exact ⟨row, rfl, length_of_mapM_ok hrow⟩
  | _ => cases h

/-- Any other declared result is one item. -/
theorem yieldOf_single {out : Shape} (hsome : out.isNothing = false) (hstack : out ≠ .stack)
    (hmembers : out.memberShapes? = none) {result : Yield} (hresult : yieldOf out = .ok result) :
    ∃ shape, result = .items [shape] := by
  cases out with
  | nothing | missing => cases hsome
  | stack => exact absurd rfl hstack
  | tuple | tupleOf row => cases hmembers
  | _ =>
    obtain ⟨shape, -, hresult⟩ := bind_eq_ok.1 hresult
    cases hresult
    exact ⟨shape, rfl⟩

/-! ## Putting the result on the stack -/

/-- The items of a result go on the stack in order, if there are as many as were declared and that
is not one. -/
theorem place_members {row : List Shape} (hrow : row.length ≠ 1) {v : Value} {members : List Value}
    (hv : itemsOf v = .ok members) (hcount : members.length = row.length) (base : List Value) :
    place (.items row) base v = .ok (members.reverse ++ base) := by
  match row with
  | [] =>
    obtain rfl := List.length_eq_zero_iff.1 hcount
    rfl
  | [_] => exact absurd rfl hrow
  | _ :: _ :: _ =>
    rw [place, hv]
    rfl
    · nofun
    · nofun

/-- The items of a command come off the top of the stack. A command that is given the whole stack
takes none. -/
theorem takeItems_base {parameters : List Parameter} {label : Text} {result : Option Shape}
    {sig : Signature} (hsig : derive label parameters result = .ok sig) {name : Text}
    {stack base items : List Value} (h : sig.takeItems name stack = .ok (base, items)) :
    sig.inputs.length ≤ stack.length ∧ base = stack.drop sig.inputs.length := by
  unfold takeItems at h
  split at h
  · next hwhole =>
    cases h
    rw [inputs_of_takesStack hsig hwhole]
    exact ⟨Nat.zero_le _, rfl⟩
  · obtain ⟨popped, rfl, -, haccepted⟩ := popItems_eq_ok h
    rw [haccepted.length_eq]
    exact ⟨by rw [List.length_append]; omega, (List.drop_left ..).symm⟩

end Signature

/-- The result of a routine follows the declared shape. Once the items of the command are off the
stack and the routine has given a result, the command is done. If the shape says that there is no
result, it leaves the rest of the stack; if it is that of a stack, it leaves the stack that the
routine gave; if it is that of a tuple with any number of members but one, and there are as many,
they are pushed in order; and if it is anything else, the result is pushed. -/
theorem results_follow_shape {r : Routine} {label : Text} {sig : Signature}
    (hsig : r.signature label = .ok sig) (name : Text) {s : State} {base items : List Value}
    (htake : sig.takeItems name s.stack = .ok (base, items)) {reply : Reply}
    (hreply : r.body (Signature.arguments s.device sig.roles items) = reply) {v : Value}
    (hv : reply.result = .ok v) :
    ∃ out, r.result = some out ∧
      (sig.inputs.length ≤ s.stack.length ∧ base = s.stack.drop sig.inputs.length) ∧
      (out.isNothing = true → r.command sig name s = reply.leaving s base) ∧
      (out = .stack → ∀ stack, v = .stack stack → r.command sig name s = reply.leaving s stack) ∧
      (∀ shapes members, out.memberShapes? = some shapes → shapes.length ≠ 1 →
        Signature.itemsOf v = .ok members → members.length = shapes.length →
          r.command sig name s = reply.leaving s (members.reverse ++ base) ∧
          (members.reverse ++ base).length = s.stack.length - sig.inputs.length + shapes.length) ∧
      (out.isNothing = false → out ≠ .stack → out.memberShapes? = none →
        r.command sig name s = reply.leaving s (v :: base)) := by
  obtain ⟨-, -, -, out, hout, hyield⟩ := Signature.derive_eq_ok hsig
  have hbase := Signature.takeItems_base hsig htake
  have hleaves : ∀ stack, Signature.place sig.result base v = .ok stack →
      r.command sig name s = reply.leaving s stack := by
    intro stack hplace
    rw [Routine.command_of_takeItems htake, hreply]
    exact Reply.deliver_of_place hv hplace s
  refine ⟨out, hout, hbase, fun hnothing => ?_, ?_, ?_, fun hsome hstack hmembers => ?_⟩
  · have hresult : .items [] = sig.result :=
      Except.ok.inj ((Signature.yieldOf_nothing hnothing).symm.trans hyield)
    apply hleaves
    rw [← hresult]
    rfl
  · rintro rfl stack rfl
    have hresult : .replace = sig.result := Except.ok.inj hyield
    apply hleaves
    rw [← hresult]
    rfl
  · intro shapes members hshapes hone hitems hcount
    obtain ⟨row, hresult, hrow⟩ := Signature.yieldOf_members hshapes hyield
    refine ⟨hleaves _ ?_, ?_⟩
    · rw [hresult]
      exact Signature.place_members (hrow ▸ hone) hitems (hcount.trans hrow.symm) base
    · rw [List.length_append, List.length_reverse, hbase.2, List.length_drop, hcount]
      omega
  · obtain ⟨shape, hresult⟩ := Signature.yieldOf_single hsome hstack hmembers hyield
    apply hleaves
    rw [hresult]
    rfl

/-- A routine that puts out a text and gives a pair. -/
def pairRoutine : Routine where
  name := "pair"
  parameters :=
    [⟨"text", some .string, .positional⟩, ⟨"io", some .output, .positional⟩,
      ⟨"number", some .integer, .positional⟩]
  result := some (.tupleOf [.integer, .listOf .string])
  body
    | [.string text, _, number] => ⟨[.print text], .ok (.tuple [number, .string text])⟩
    | _ => .misfit

/-- What is read off its shapes. -/
def pairSignature : Signature where
  roles := [.item, .output, .item]
  inputs := [.integer, .string]
  result := .items [.integer, .list]

/-- A state on which the pair can be made. -/
def pairState : State :=
  { State.initial .discard with stack := [.int 7, .string "a", .absent] }

theorem results_follow_shape_of_pair :
    pairRoutine.signature "pair" = .ok pairSignature ∧
    pairSignature.takeItems "pair" pairState.stack = .ok ([.absent], [.string "a", .int 7]) ∧
    (pairRoutine.body [.string "a", .device .discard, .int 7]).result =
      .ok (.tuple [.int 7, .string "a"]) ∧
    pairRoutine.command pairSignature "pair" pairState =
      .done { pairState with stack := [.string "a", .int 7, .absent], log := [.print "a"] } := by
  have hsig : pairRoutine.signature "pair" = .ok pairSignature := rfl
  have htake : pairSignature.takeItems "pair" pairState.stack =
      .ok ([.absent], [.string "a", .int 7]) := rfl
  obtain ⟨out, hout, -, -, -, hmembers, -⟩ := results_follow_shape hsig "pair" htake rfl rfl
  cases hout
  exact ⟨hsig, htake, rfl, (hmembers _ _ rfl (by decide) rfl rfl).1⟩

/-- A result that is neither declared to be none nor a stack nor a tuple with members need not go on
the stack: of a tuple without members nothing is left there. -/
theorem not_results_follow_shape :
    ¬∀ (r : Routine) (label : Text) (sig : Signature) (name : Text) (s : State)
      (base items : List Value) (v : Value) (out : Shape),
      r.signature label = .ok sig → sig.takeItems name s.stack = .ok (base, items) →
      (r.body (Signature.arguments s.device sig.roles items)).result = .ok v →
      r.result = some out → out.isNothing = false → out ≠ .stack →
      (∀ shapes, out = .tupleOf shapes → shapes = []) →
        (r.command sig name s).state.stack = v :: base := by
  intro hpushed
  let r : Routine := ⟨"none", [], some (.tupleOf []), fun _ => .value (.tuple []), nofun⟩
  have hempty := hpushed r "none" ⟨[], [], .items []⟩ "none" (State.initial .discard) [] []
    (.tuple []) (.tupleOf []) rfl rfl rfl rfl rfl nofun (by rintro shapes ⟨⟩; rfl)
  cases hempty

end StackShell
