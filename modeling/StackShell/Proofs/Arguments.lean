import StackShell.Proofs.Routines

/-!
# How a routine gets its arguments

A routine whose parameters take items off the stack or are given the output device is called with
one argument for each parameter. The items are checked from the top of the stack down, the last item
parameter against the top. The first place that is missing or holds a value of another type decides
the failure, and then the routine is not called at all.

That a routine is called once, with which arguments, and that it is not called, is said by looking
at every body that it could have: the outcome is that of the reply to these arguments, or it is the
same whatever the body replies.
-/

namespace StackShell

/-! ## Declared types -/

namespace Shape

/-- Whether a shape is a class of values that scripts compute with. -/
def isScriptClass : Shape → Bool
  | .boolean | .integer | .real | .string | .function => true
  | _ => false

/-- Whether a shape says of an item that it may be anything, or of one class, or of one class out of
several. What holds anything is no class, and has no place among several. -/
def isItem : Shape → Bool
  | .anything => true
  | .union members => members.all isScriptClass
  | shape => shape.isScriptClass

end Shape

/-- Whether a value is of the class. An integer is no double, and a boolean is no number at all. -/
def Value.isOf : Value → Shape → Bool
  | .boolean _, .boolean | .number (.int _), .integer | .number (.float _), .real
  | .string _, .string | .function _, .function => true
  | _, _ => false

namespace Shape

/-- Whether a value is of the declared type. -/
def admits : Shape → Value → Bool
  | .anything, _ => true
  | .union members, v => members.any v.isOf
  | shape, v => v.isOf shape

theorem holds_eq_isOf {shape : Shape} (hshape : shape.isScriptClass = true) {v : Value}
    (hv : ∀ b, v ≠ .boolean b) : shape.holds v = .ok (v.isOf shape) := by
  cases shape with
  | boolean | integer | real | string | function =>
    cases v with
    | boolean b => exact absurd rfl (hv b)
    | number n => cases n <;> rfl
    | _ => rfl
  | _ => cases hshape

theorem holdsAny_eq_any {row : List Shape} (hrow : ∀ shape ∈ row, shape.isScriptClass = true)
    {v : Value} (hv : ∀ b, v ≠ .boolean b) : holdsAny v row = .ok (row.any v.isOf) := by
  induction row with
  | nil => rfl
  | cons shape row ih =>
    obtain ⟨hshape, hrow⟩ := List.forall_mem_cons.1 hrow
    rw [holdsAny, holds_eq_isOf hshape hv, ih hrow, List.any_cons]
    cases v.isOf shape <;> rfl

theorem boolean_isIn (row : List Shape) (b : Bool) :
    boolean.isIn row = row.any (Value.boolean b).isOf := by
  unfold isIn
  congr 1
  funext shape
  cases shape <;> rfl

/-- A declared type accepts exactly the values of that type, and there is always an answer. -/
theorem accepts_eq_admits {shape : Shape} (h : shape.isItem = true) (v : Value) :
    shape.accepts v = .ok (shape.admits v) := by
  cases shape with
  | anything => rfl
  | union row =>
    have hrow : ∀ member ∈ row, member.isScriptClass = true := List.all_eq_true.1 h
    cases v with
    | boolean b => exact congrArg Except.ok (boolean_isIn row b)
    | _ => exact holdsAny_eq_any hrow (by simp)
  | boolean | integer | real | string | function =>
    cases v with
    | number n => cases n <;> rfl
    | _ => rfl
  | _ => cases h

/-- What may be declared of an item is tested for as it stands. -/
theorem normalise_of_isItem {shape : Shape} (h : shape.isItem = true) :
    shape.normalise = .ok shape := by
  cases shape with
  | anything | union | boolean | integer | real | string | function => rfl
  | _ => cases h

theorem role_of_isItem {shape : Shape} (h : shape.isItem = true) : Role.of shape = .item := by
  cases shape with
  | anything | union | boolean | integer | real | string | function => rfl
  | _ => cases h

/-- Whether a place of the stack, counted from the top, holds a value that the shape accepts. -/
def AcceptsAt (shape : Shape) (stack : List Value) (place : Nat) : Prop :=
  ∃ v, stack[place]? = some v ∧ shape.accepts v = .ok true

/-- Whether a place of the stack, counted down from the top, holds a value of the declared type. -/
def FitsAt (shape : Shape) (stack : List Value) (place : Nat) : Prop :=
  ∃ v, stack[place]? = some v ∧ shape.admits v = true

theorem FitsAt.acceptsAt {shape : Shape} {stack : List Value} {place : Nat}
    (h : shape.FitsAt stack place) (hshape : shape.isItem = true) :
    shape.AcceptsAt stack place := by
  obtain ⟨v, hv, hadmits⟩ := h
  exact ⟨v, hv, by rw [accepts_eq_admits hshape, hadmits]⟩

end Shape

/-! ## Checking the items -/

namespace Signature

/-- The items at the top that are accepted are taken, and the check goes on below them. -/
theorem popItems_of_acceptsAt (command : Text) (needed : Nat) {place : Nat} {shapes : List Shape}
    (stack taken : List Value) (hplace : place ≤ shapes.length)
    (haccepts : ∀ above < place, ∀ shape, shapes[above]? = some shape →
      shape.AcceptsAt stack above) :
    popItems command needed shapes stack taken =
      popItems command needed (shapes.drop place) (stack.drop place)
        ((stack.take place).reverse ++ taken) := by
  induction place generalizing shapes stack taken with
  | zero => rfl
  | succ place ih =>
    cases shapes with
    | nil => simp at hplace
    | cons expected shapes =>
      obtain ⟨top, htop, haccepted⟩ := haccepts 0 (Nat.succ_pos place) expected rfl
      cases stack with
      | nil => cases htop
      | cons v stack =>
        cases htop
        -- each place below the top is one place higher in the rest of the stack
        have hbelow := ih stack (top :: taken) (Nat.le_of_succ_le_succ hplace)
          fun above habove shape hshape => haccepts (above + 1) (by omega) shape hshape
        rw [popItems, haccepted]
        simp only [hbelow, List.drop_succ_cons, List.take_succ_cons, List.reverse_cons,
          List.append_assoc, List.singleton_append]

/-- The first place that is not accepted decides the failure: it is missing, or it holds a value
that is refused, or one for which the test has no answer. -/
theorem popItems_at (command : Text) (needed : Nat) {place : Nat} {shapes : List Shape}
    {stack : List Value} {expected : Shape} (hexpected : shapes[place]? = some expected)
    (haccepts : ∀ above < place, ∀ shape, shapes[above]? = some shape →
      shape.AcceptsAt stack above) :
    (stack[place]? = none →
      popItems command needed shapes stack [] =
        .error (.of (.underflow (.arguments command needed stack.length)))) ∧
    ∀ v, stack[place]? = some v →
      (expected.accepts v = .ok false →
        popItems command needed shapes stack [] =
          .error (.of (.mismatch expected.describe v.typeName))) ∧
      ∀ problem, expected.accepts v = .error problem →
        popItems command needed shapes stack [] = .error (.fault (.classTest problem)) := by
  -- the items above are popped, so the test of this one comes next
  have hplace : place < shapes.length := (List.getElem?_eq_some_iff.1 hexpected).1
  have hnext : shapes.drop place = expected :: shapes.drop (place + 1) := by
    rw [List.drop_eq_getElem_cons hplace, (List.getElem?_eq_some_iff.1 hexpected).2]
  rw [popItems_of_acceptsAt command needed stack [] (Nat.le_of_lt hplace) haccepts, hnext,
    List.append_nil]
  constructor
  · intro hmissing
    have hlength : stack.length ≤ place := List.getElem?_eq_none_iff.1 hmissing
    rw [List.drop_eq_nil_of_le hlength, popItems, List.length_reverse,
      List.take_of_length_le hlength]
  · intro v hv
    have hstack : stack.drop place = v :: stack.drop (place + 1) := by
      obtain ⟨hlt, hget⟩ := List.getElem?_eq_some_iff.1 hv
      rw [List.drop_eq_getElem_cons hlt, hget]
    rw [hstack, popItems]
    refine ⟨fun hrefused => ?_, fun problem hproblem => ?_⟩
    · rw [hrefused]
    · rw [hproblem]

variable {command : Text} {shapes : List Shape} {stack : List Value}

/-- If all places are accepted, the items at the top are taken, the deepest first. -/
theorem popItems_eq_take
    (haccepts : ∀ (place : Nat) shape, shapes[place]? = some shape → shape.AcceptsAt stack place) :
    popItems command shapes.length shapes stack [] =
      .ok (stack.drop shapes.length, (stack.take shapes.length).reverse) := by
  rw [popItems_of_acceptsAt command _ stack [] (Nat.le_refl _) fun place _ => haccepts place,
    List.drop_length, popItems, List.append_nil]

/-- The first place that does not fit decides the failure: it is missing, or it holds a value of
another type. -/
theorem popItems_at_bad (command : Text) {place : Nat} {expected : Shape}
    (hshapes : ∀ shape ∈ shapes, shape.isItem = true) (hexpected : shapes[place]? = some expected)
    (hfits : ∀ above < place, ∀ shape, shapes[above]? = some shape → shape.FitsAt stack above) :
    (stack[place]? = none →
      popItems command shapes.length shapes stack [] =
        .error (.of (.underflow (.arguments command shapes.length stack.length)))) ∧
    ∀ v, stack[place]? = some v → expected.admits v = false →
      popItems command shapes.length shapes stack [] =
        .error (.of (.mismatch expected.describe v.typeName)) := by
  have haccepts : ∀ above < place, ∀ shape, shapes[above]? = some shape →
      shape.AcceptsAt stack above := fun above habove shape hshape =>
    (hfits above habove shape hshape).acceptsAt (hshapes shape (List.mem_of_getElem? hshape))
  obtain ⟨hmissing, hrefused⟩ := popItems_at command shapes.length hexpected haccepts
  refine ⟨hmissing, fun v hv hadmits => (hrefused v hv).1 ?_⟩
  rw [Shape.accepts_eq_admits (hshapes expected (List.mem_of_getElem? hexpected)), hadmits]

end Signature

/-! ## Handing out the items -/

/-- The declared type of the item that a parameter takes; one for an output device takes none. -/
def Parameter.item? (p : Parameter) : Option Shape :=
  match p.shape with
  | some .output => none
  | shape => shape

/-- Whether a parameter is for an output device, or takes an item of a declared type. -/
def Parameter.IsOrdinary (p : Parameter) : Prop :=
  p.shape = some .output ∨ ∃ shape, p.shape = some shape ∧ shape.isItem = true

/-- The declared types of the items that parameters take, in the order of the parameters. -/
def itemShapes (parameters : List Parameter) : List Shape :=
  parameters.filterMap Parameter.item?

theorem Parameter.item?_of_isItem {p : Parameter} {shape : Shape} (hp : p.shape = some shape)
    (hshape : shape.isItem = true) : p.item? = some shape := by
  unfold item?
  rw [hp]
  cases shape with
  | output => cases hshape
  | _ => rfl

theorem Parameter.item?_of_output {p : Parameter} (hp : p.shape = some .output) :
    p.item? = none := by
  rw [item?, hp]

section

variable {parameters : List Parameter}

theorem isItem_of_mem_itemShapes (h : ∀ p ∈ parameters, p.IsOrdinary) :
    ∀ shape ∈ itemShapes parameters, shape.isItem = true := by
  intro shape hmem
  obtain ⟨p, hp, hitem⟩ := List.mem_filterMap.1 hmem
  rcases h p hp with houtput | ⟨declared, hshape, hdeclared⟩
  · rw [Parameter.item?_of_output houtput] at hitem
    cases hitem
  · rw [Parameter.item?_of_isItem hshape hdeclared] at hitem
    cases hitem
    exact hdeclared

/-- The roles that take an item belong to the declared types of the items. -/
theorem filter_item_eq (h : ∀ p ∈ parameters, p.IsOrdinary) :
    (parameters.filterMap (·.shape)).filter (Role.of · == .item) = itemShapes parameters := by
  induction parameters with
  | nil => rfl
  | cons p parameters ih =>
    obtain ⟨hp, h⟩ := List.forall_mem_cons.1 h
    rcases hp with houtput | ⟨shape, hshape, hitem⟩
    · rw [itemShapes, List.filterMap_cons_some houtput,
        List.filterMap_cons_none (Parameter.item?_of_output houtput),
        List.filter_cons_of_neg (by decide)]
      exact ih h
    · rw [itemShapes, List.filterMap_cons_some hshape,
        List.filterMap_cons_some (Parameter.item?_of_isItem hshape hitem),
        List.filter_cons_of_pos (by rw [Shape.role_of_isItem hitem]; rfl)]
      exact congrArg (shape :: ·) (ih h)

/-- A parameter that takes an item is not among those before it. -/
theorem length_itemShapes_take_lt {i : Nat} {p : Parameter} {shape : Shape}
    (hp : parameters[i]? = some p) (hitem : p.item? = some shape) :
    (itemShapes (parameters.take i)).length < (itemShapes parameters).length := by
  obtain ⟨hlt, hget⟩ := List.getElem?_eq_some_iff.1 hp
  have hsplit : itemShapes parameters =
      itemShapes (parameters.take i) ++ shape :: itemShapes (parameters.drop (i + 1)) := by
    rw [itemShapes, itemShapes, itemShapes, ← List.filterMap_cons_some hitem, ← hget,
      ← List.drop_eq_getElem_cons hlt, ← List.filterMap_append, List.take_append_drop]
  rw [hsplit, List.length_append, List.length_cons]
  omega

theorem mapM_normalise_itemShapes {row : List Shape} (h : ∀ shape ∈ row, shape.isItem = true) :
    row.mapM Shape.normalise = .ok row := by
  induction row with
  | nil => rfl
  | cons shape row ih =>
    obtain ⟨hshape, hrow⟩ := List.forall_mem_cons.1 h
    rw [List.mapM_cons, Shape.normalise_of_isItem hshape, ih hrow]
    rfl

namespace Signature

/-- The signature of a routine with ordinary parameters takes their items, the last one first. -/
theorem of_ordinary (h : ∀ p ∈ parameters, p.IsOrdinary) {label : Text} {result : Option Shape}
    {sig : Signature} (hsig : derive label parameters result = .ok sig) :
    sig.roles = (parameters.filterMap (·.shape)).map Role.of ∧
      sig.inputs = (itemShapes parameters).reverse ∧ sig.takesStack = false := by
  obtain ⟨hroles, ⟨tests, htests, hinputs⟩, -, -⟩ := derive_eq_ok hsig
  rw [filter_item_eq h, mapM_normalise_itemShapes (isItem_of_mem_itemShapes h)] at htests
  cases htests
  refine ⟨hroles, hinputs, ?_⟩
  rw [takesStack, hroles, List.contains_eq_mem, decide_eq_false_iff_not]
  intro hmem
  obtain ⟨shape, hshape, hrole⟩ := List.mem_map.1 hmem
  obtain ⟨p, hp, hdeclared⟩ := List.mem_filterMap.1 hshape
  rcases h p hp with houtput | ⟨declared, hdeclared', hitem⟩
  · rw [houtput] at hdeclared
    cases hdeclared
    cases hrole
  · rw [hdeclared'] at hdeclared
    cases hdeclared
    rw [Shape.role_of_isItem hitem] at hrole
    cases hrole

/-- The arguments for the parameters. -/
def argumentsFor (device : Device) (parameters : List Parameter) (items : List Value) :
    List Value :=
  arguments device ((parameters.filterMap (·.shape)).map Role.of) items

theorem argumentsFor_output {p : Parameter} (hp : p.shape = some .output) (device : Device)
    (items : List Value) :
    argumentsFor device (p :: parameters) items =
      .device device :: argumentsFor device parameters items := by
  rw [argumentsFor, List.filterMap_cons_some hp]
  rfl

theorem argumentsFor_item {p : Parameter} {shape : Shape} (hp : p.shape = some shape)
    (hitem : shape.isItem = true) (device : Device) (v : Value) (items : List Value) :
    argumentsFor device (p :: parameters) (v :: items) =
      v :: argumentsFor device parameters items := by
  rw [argumentsFor, List.filterMap_cons_some hp, List.map_cons, Shape.role_of_isItem hitem]
  rfl

/-- There is one argument for each parameter: for an output device the device, and otherwise the
item that comes after those of the parameters before it. -/
theorem argumentsFor_spec (h : ∀ p ∈ parameters, p.IsOrdinary) (device : Device)
    {items : List Value} (hlength : items.length = (itemShapes parameters).length) :
    (argumentsFor device parameters items).length = parameters.length ∧
      ∀ (i : Nat) (p : Parameter), parameters[i]? = some p →
        (argumentsFor device parameters items)[i]? =
          match p.item? with
          | none => some (.device device)
          | some _ => items[(itemShapes (parameters.take i)).length]? := by
  induction parameters generalizing items with
  | nil =>
    refine ⟨rfl, fun i p hp => ?_⟩
    cases hp
  | cons first parameters ih =>
    obtain ⟨hfirst, h⟩ := List.forall_mem_cons.1 h
    rcases hfirst with houtput | ⟨shape, hshape, hitem⟩
    · -- the device takes none of the items from the later parameters
      have hnone := Parameter.item?_of_output houtput
      rw [itemShapes, List.filterMap_cons_none hnone] at hlength
      obtain ⟨hcount, hargs⟩ := ih h hlength
      rw [argumentsFor_output houtput]
      refine ⟨congrArg (· + 1) hcount, fun i p hp => ?_⟩
      cases i with
      | zero =>
        cases hp
        rw [hnone]
        rfl
      | succ i =>
        rw [List.take_succ_cons, itemShapes, List.filterMap_cons_none hnone]
        exact hargs i p hp
    · have hsome := Parameter.item?_of_isItem hshape hitem
      rw [itemShapes, List.filterMap_cons_some hsome] at hlength
      cases items with
      | nil => cases hlength
      | cons v items =>
        obtain ⟨hcount, hargs⟩ := ih h (Nat.succ.inj hlength)
        rw [argumentsFor_item hshape hitem]
        refine ⟨congrArg (· + 1) hcount, fun i p hp => ?_⟩
        cases i with
        | zero =>
          cases hp
          rw [hsome]
          rfl
        | succ i =>
          rw [List.take_succ_cons, itemShapes, List.filterMap_cons_some hsome, List.length_cons,
            List.getElem?_cons_succ]
          exact hargs i p hp

end Signature

end

/-! ## Calling the routine -/

/-- What becomes of a reply: what it made visible is put out, and its result, if it can be placed,
goes on what is left of the stack. -/
def Reply.deliver (reply : Reply) (result : Yield) (base : List Value) (s : State) : Outcome :=
  match reply.result >>= Signature.place result base with
  | .error failure => .failed failure (reply.events.foldl State.emit s)
  | .ok stack => .done { reply.events.foldl State.emit s with stack }

theorem Routine.command_of_takeItems {r : Routine} {sig : Signature} {name : Text} {s : State}
    {base items : List Value} (h : sig.takeItems name s.stack = .ok (base, items)) :
    r.command sig name s =
      (r.body (Signature.arguments s.device sig.roles items)).deliver sig.result base s := by
  rw [Routine.command, h]
  rfl

theorem Routine.command_of_takeItems_error {r : Routine} {sig : Signature} {name : Text}
    {s : State} {failure : Failure} (h : sig.takeItems name s.stack = .error failure) :
    r.command sig name s = .failed failure s := by
  rw [Routine.command, h]

/-- A command hands the items at the top of the stack to its routine, the top to the last parameter
that takes one, if each of them is of the declared type. If not, the routine is not called: counted
from the top, the first place where an item is missing or of another type decides the failure. This
is so whatever the routine does: any other one with the signature is called alike. -/
theorem routine_called_with_items {r : Routine} {label : Text} {sig : Signature}
    (hsig : r.signature label = .ok sig) (hparameters : ∀ p ∈ r.parameters, p.IsOrdinary)
    (name : Text) (s : State) :
    let items := itemShapes r.parameters
    ((∀ (place : Nat) expected, items.reverse[place]? = some expected →
        expected.FitsAt s.stack place) →
      ∃ args : List Value, args.length = r.parameters.length ∧
        (∀ (i : Nat) (p : Parameter), r.parameters[i]? = some p →
          args[i]? =
            match p.item? with
            | none => some (.device s.device)
            | some _ => s.stack[items.length - 1 - (itemShapes (r.parameters.take i)).length]?) ∧
        ∀ called : Routine, called.command sig name s =
          (called.body args).deliver sig.result (s.stack.drop items.length) s) ∧
    ∀ (place : Nat) expected, items.reverse[place]? = some expected →
      (∀ above < place, ∀ shape, items.reverse[above]? = some shape →
        shape.FitsAt s.stack above) →
      (s.stack[place]? = none → ∀ called : Routine, called.command sig name s =
        .failed (.of (.underflow (.arguments name items.length s.stack.length))) s) ∧
      ∀ v, s.stack[place]? = some v → expected.admits v = false →
        ∀ called : Routine, called.command sig name s =
          .failed (.of (.mismatch expected.describe v.typeName)) s := by
  intro items
  obtain ⟨hroles, hinputs, htakes⟩ := Signature.of_ordinary hparameters hsig
  have hshapes : ∀ shape ∈ items.reverse, shape.isItem = true := fun shape hmem =>
    isItem_of_mem_itemShapes hparameters shape (List.mem_reverse.1 hmem)
  have htake : sig.takeItems name s.stack =
      Signature.popItems name items.reverse.length items.reverse s.stack [] := by
    rw [Signature.takeItems, htakes, hinputs]
    rfl
  constructor
  · intro hfits
    have henough : items.length ≤ s.stack.length := by
      by_contra hfew
      -- the place below the bottom would have to fit
      have hbelow : s.stack.length < items.reverse.length := by
        rw [List.length_reverse]
        omega
      obtain ⟨v, hv, -⟩ := hfits _ _ (List.getElem?_eq_getElem hbelow)
      rw [List.getElem?_eq_none (Nat.le_refl _)] at hv
      cases hv
    have htaken : (s.stack.take items.length).length = items.length := by
      rw [List.length_take, Nat.min_eq_left henough]
    have hcount : (s.stack.take items.length).reverse.length = items.length := by
      rw [List.length_reverse, htaken]
    obtain ⟨hlength, hargs⟩ := Signature.argumentsFor_spec hparameters s.device hcount
    refine ⟨_, hlength, fun i p hp => ?_, fun called => ?_⟩
    · rw [hargs i p hp]
      cases hitem : p.item? with
      | none => rfl
      | some shape =>
        have hbefore : (itemShapes (r.parameters.take i)).length < items.length :=
          length_itemShapes_take_lt hp hitem
        have hplace : items.length - 1 - (itemShapes (r.parameters.take i)).length <
            items.length := by
          omega
        simp only
        rw [List.getElem?_reverse (by rw [htaken]; exact hbefore), htaken, List.getElem?_take,
          if_pos hplace]
    · rw [Signature.popItems_eq_take fun place shape hshape =>
        (hfits place shape hshape).acceptsAt (hshapes shape (List.mem_of_getElem? hshape)),
        List.length_reverse] at htake
      rw [Routine.command_of_takeItems htake, hroles]
      rfl
  · -- the items are taken before the routine is called, so it does not matter what it does
    intro place expected hexpected habove
    obtain ⟨hmissing, hmismatch⟩ :=
      Signature.popItems_at_bad name hshapes hexpected habove
    rw [List.length_reverse] at hmissing hmismatch htake
    refine ⟨fun hnone called => ?_, fun v hv hadmits called => ?_⟩
    · exact Routine.command_of_takeItems_error (htake.trans (hmissing hnone))
    · exact Routine.command_of_takeItems_error (htake.trans (hmismatch v hv hadmits))

/-- A routine that takes a text, a number that may be an integer or a double, and a truth value,
with an output device between them. -/
def mixedRoutine : Routine where
  name := "mixed"
  parameters :=
    [⟨"text", some .string, .positional⟩, ⟨"io", some .output, .positional⟩,
      ⟨"number", some (.union [.integer, .real]), .positional⟩,
      ⟨"flag", some .boolean, .positional⟩]
  result := some .nothing
  body _ := ⟨[], .ok .absent⟩

/-- What is read off its shapes. -/
def mixedSignature : Signature where
  roles := [.item, .output, .item, .item]
  inputs := [.boolean, .union [.integer, .real], .string]
  result := .items []

theorem mixedRoutine_called_with_items :
    mixedRoutine.signature "mixed" = .ok mixedSignature ∧
    (∀ p ∈ mixedRoutine.parameters, p.IsOrdinary) ∧
    (∃ args : List Value, args.length = 4 ∧ args[0]? = some (.string "a") ∧
      args[1]? = some (.device .discard) ∧ args[2]? = some (.int 7) ∧
      args[3]? = some (.boolean true) ∧
      ∀ called : Routine, called.command mixedSignature "mixed"
          { State.initial .discard with stack := [.boolean true, .int 7, .string "a", .absent] } =
        (called.body args).deliver (.items []) [.absent]
          { State.initial .discard with
            stack := [.boolean true, .int 7, .string "a", .absent] }) ∧
    (∀ called : Routine, called.command mixedSignature "mixed"
        { State.initial .discard with stack := [.boolean true, .boolean true] } =
      .failed (.of (.mismatch "number" "boolean"))
        { State.initial .discard with stack := [.boolean true, .boolean true] }) ∧
    ∀ called : Routine, called.command mixedSignature "mixed"
        { State.initial .discard with stack := [.boolean true, .int 7] } =
      .failed (.of (.underflow (.arguments "mixed" 3 2)))
        { State.initial .discard with stack := [.boolean true, .int 7] } := by
  have hsig : mixedRoutine.signature "mixed" = .ok mixedSignature := rfl
  have hparameters : ∀ p ∈ mixedRoutine.parameters, p.IsOrdinary := by
    simp only [mixedRoutine, List.forall_mem_cons, List.not_mem_nil, false_implies, implies_true,
      and_true]
    exact ⟨.inr ⟨_, rfl, rfl⟩, .inl rfl, .inr ⟨_, rfl, rfl⟩, .inr ⟨_, rfl, rfl⟩⟩
  have hcalled := routine_called_with_items hsig hparameters "mixed"
  refine ⟨hsig, hparameters, ?_, ?_, ?_⟩
  · obtain ⟨args, hlength, hargs, hcall⟩ := (hcalled
      { State.initial .discard with
        stack := [.boolean true, .int 7, .string "a", .absent] }).1 (by
          rintro (_ | _ | _ | place) expected hexpected <;> cases hexpected <;>
            exact ⟨_, rfl, rfl⟩)
    exact ⟨args, hlength, hargs 0 _ rfl, hargs 1 _ rfl, hargs 2 _ rfl, hargs 3 _ rfl, hcall⟩
  · exact ((hcalled { State.initial .discard with stack := [.boolean true, .boolean true] }).2 1
      (.union [.integer, .real]) rfl (by
        rintro (_ | above) habove expected hexpected
        · cases hexpected
          exact ⟨_, rfl, rfl⟩
        · omega)).2 (.boolean true) rfl rfl
  · exact ((hcalled { State.initial .discard with stack := [.boolean true, .int 7] }).2 2
      .string rfl (by
        rintro (_ | _ | above) habove expected hexpected
        · cases hexpected
          exact ⟨_, rfl, rfl⟩
        · cases hexpected
          exact ⟨_, rfl, rfl⟩
        · omega)).1 rfl

end StackShell
