import Mathlib.Data.Nat.Find
import StackShell.Proofs.Arguments

/-!
# Whether an item can be tested

A shape that is accepted in a signature is a class, or anything at all, or a union. Every value can
be tested for a class. The members of a union are tested from left to right, and there the test
comes to no answer if it meets a member that is no class: one with parameters, or the shape of
anything (`Shape.accepts_eq_error_iff`).

So a command calls its routine, or reports that an item is missing or of another type, unless the
first item that is not accepted is to be tested against such a union (`command_tests_items`).
-/

namespace StackShell

namespace Shape

/-! ## Tests without an answer -/

/-- Whether a shape is a class that values can be tested for. -/
def isClass : Shape → Bool
  | .integer | .real | .boolean | .string | .function | .stack | .output | .tuple | .list
  | .missing => true
  | _ => false

/-- The test for a class has an answer, and that for anything else has none. -/
theorem holds_isOk (shape : Shape) (v : Value) : (shape.holds v).isOk = shape.isClass := by
  cases shape with
  | integer | real | boolean | string | function | stack | output | tuple | list | missing =>
    cases v with
    | number n => cases n <;> rfl
    | _ => rfl
  | anything | nothing | ellipsis | named | union | optional | tupleOf | listOf =>
    cases v with
    | number n => cases n <;> rfl
    | _ => rfl

/-- Whether the test of a value against a shape comes to no answer: the shape is a union with a
member that is no class, and no member before it holds of the value. A truth value is never
tested. -/
def Balks (shape : Shape) (v : Value) : Prop :=
  (∀ b, v ≠ .boolean b) ∧ ∃ before member after, shape = .union (before ++ member :: after) ∧
    member.isClass = false ∧ ∀ other ∈ before, other.holds v = .ok false

variable {v : Value}

theorem holdsAny_eq_error_iff {row : List Shape} :
    (∃ problem, holdsAny v row = .error problem) ↔
      ∃ before member after, row = before ++ member :: after ∧ member.isClass = false ∧
        ∀ other ∈ before, other.holds v = .ok false := by
  induction row with
  | nil => simp [holdsAny]
  | cons shape row ih =>
    have hclass := holds_isOk shape v
    rw [holdsAny]
    cases hholds : shape.holds v with
    | error problem =>
      rw [hholds] at hclass
      exact ⟨fun _ => ⟨[], shape, row, rfl, hclass.symm, by simp⟩, fun _ => ⟨problem, rfl⟩⟩
    | ok answer =>
      rw [hholds] at hclass
      have hfirst : ∀ {before member after}, shape :: row = before ++ member :: after →
          member.isClass = false →
            ∃ rest, before = shape :: rest ∧ row = rest ++ member :: after := by
        intro before member after hrow hmember
        cases before with
        | nil =>
          obtain ⟨rfl, -⟩ := List.cons.inj hrow
          rw [hmember] at hclass
          cases hclass
        | cons other rest =>
          obtain ⟨rfl, hrest⟩ := List.cons.inj hrow
          exact ⟨rest, rfl, hrest⟩
      cases answer with
      | true =>
        constructor
        · rintro ⟨problem, h⟩
          cases h
        · rintro ⟨before, member, after, hrow, hmember, hbefore⟩
          obtain ⟨rest, rfl, -⟩ := hfirst hrow hmember
          have hnot := hbefore shape List.mem_cons_self
          rw [hholds] at hnot
          cases hnot
      | false =>
        refine ih.trans ⟨?_, ?_⟩
        · rintro ⟨before, member, after, rfl, hmember, hbefore⟩
          exact ⟨shape :: before, member, after, rfl, hmember,
            List.forall_mem_cons.2 ⟨hholds, hbefore⟩⟩
        · rintro ⟨before, member, after, hrow, hmember, hbefore⟩
          obtain ⟨rest, rfl, hrest⟩ := hfirst hrow hmember
          exact ⟨rest, member, after, hrest, hmember, (List.forall_mem_cons.1 hbefore).2⟩

/-- What is tested in place of a declared shape is a class, anything, or a union. -/
theorem normalise_eq_ok {declared shape : Shape} (h : declared.normalise = .ok shape) :
    shape.isClass = true ∨ shape = .anything ∨ ∃ row, shape = .union row := by
  cases declared with
  | union row =>
    cases h
    exact .inr (.inr ⟨row, rfl⟩)
  | anything =>
    cases h
    exact .inr (.inl rfl)
  | nothing | ellipsis | named | optional => cases h
  | integer | real | boolean | string | function | stack | output | tuple | list | missing | tupleOf
  | listOf =>
    cases h
    exact .inl rfl

theorem classes_of_isClass {shape : Shape} (h : shape.isClass = true) :
    shape.classes = [shape] := by
  cases shape with
  | union => cases h
  | _ => rfl

/-- Any value but a truth value is tested for the classes of a shape, one after the other. -/
theorem accepts_eq_holdsAny {shape : Shape} (hv : ∀ b, v ≠ .boolean b) (hshape : shape ≠ .anything)
    (hrow : ∀ row, shape ≠ .optional row) : shape.accepts v = holdsAny v shape.classes := by
  unfold accepts
  split
  · exact absurd rfl hshape
  · exact absurd rfl (hv _)
  · exact absurd rfl (hrow _)
  · rfl

/-- A truth value is accepted or not, by any shape. -/
theorem exists_accepts_boolean (shape : Shape) (b : Bool) :
    ∃ answer, shape.accepts (.boolean b) = .ok answer := by
  cases shape <;> exact ⟨_, rfl⟩

/-- The test against an accepted shape comes to no answer exactly where it balks. -/
theorem accepts_eq_error_iff {declared shape : Shape} (h : declared.normalise = .ok shape) :
    (∃ problem, shape.accepts v = .error problem) ↔ shape.Balks v := by
  -- a truth value is compared with the truth values first, which always gives an answer
  by_cases hv : ∀ b, v ≠ .boolean b
  · -- a shape that is declared is one class, anything or a union
    rcases normalise_eq_ok h with hclass | rfl | ⟨row, rfl⟩
    · have hshape : shape ≠ .anything := by
        rintro rfl
        cases hclass
      have hrow : ∀ row, shape ≠ .optional row := by
        rintro row rfl
        cases hclass
      rw [accepts_eq_holdsAny hv hshape hrow, classes_of_isClass hclass, holdsAny_eq_error_iff]
      constructor
      · rintro ⟨before, member, after, hsingle, hmember, -⟩
        have hmem : member ∈ [shape] := hsingle ▸ List.mem_append_right before List.mem_cons_self
        rw [List.mem_singleton.1 hmem, hclass] at hmember
        cases hmember
      · rintro ⟨-, before, member, after, rfl, -⟩
        cases hclass
    · constructor
      · rintro ⟨problem, h⟩
        cases h
      · rintro ⟨-, before, member, after, h, -⟩
        cases h
    · rw [accepts_eq_holdsAny hv (by simp) (by simp), classes, holdsAny_eq_error_iff]
      simp only [Balks, Shape.union.injEq]
      exact ⟨fun h => ⟨hv, h⟩, fun h => h.2⟩
  · obtain ⟨b, hb⟩ := not_forall.1 hv
    obtain rfl := not_not.1 hb
    obtain ⟨answer, hanswer⟩ := shape.exists_accepts_boolean b
    constructor
    · rintro ⟨problem, h⟩
      rw [hanswer] at h
      cases h
    · rintro ⟨h, -⟩
      exact absurd rfl (h b)

end Shape

/-! ## Commands -/

/-- Whether all items above a place of the stack are accepted, so that the check gets there. -/
def AcceptedAbove (shapes : List Shape) (stack : List Value) (place : Nat) : Prop :=
  ∀ above < place, ∀ shape, shapes[above]? = some shape → shape.AcceptsAt stack above

/-- Unless every place is accepted, there is a first one that is not. -/
theorem exists_first_not_acceptsAt {shapes : List Shape} {stack : List Value}
    (h : ¬ ∀ (place : Nat) shape, shapes[place]? = some shape → shape.AcceptsAt stack place) :
    ∃ (place : Nat) (expected : Shape), shapes[place]? = some expected ∧
      ¬ expected.AcceptsAt stack place ∧ AcceptedAbove shapes stack place := by
  classical
  have hbad : ∃ place : Nat, ∃ expected, shapes[place]? = some expected ∧
      ¬ expected.AcceptsAt stack place := by
    push Not at h
    exact h
  obtain ⟨expected, hexpected, hrefused⟩ := Nat.find_spec hbad
  refine ⟨Nat.find hbad, expected, hexpected, hrefused, fun above habove shape hshape => ?_⟩
  by_contra hnot
  exact Nat.find_min hbad habove ⟨shape, hshape, hnot⟩

namespace Signature

/-- Whether the check of the items gets to a place where the test comes to no answer. -/
def Balks (sig : Signature) (stack : List Value) : Prop :=
  ∃ (place : Nat) (expected : Shape) (v : Value), sig.inputs[place]? = some expected ∧
    stack[place]? = some v ∧ expected.Balks v ∧ AcceptedAbove sig.inputs stack place

variable {label : Text} {parameters : List Parameter} {result : Option Shape} {sig : Signature}

/-- What is tested stands in place of a shape that was declared. -/
theorem exists_normalise_of_mem (h : derive label parameters result = .ok sig) {expected : Shape}
    (hmem : expected ∈ sig.inputs) : ∃ declared : Shape, declared.normalise = .ok expected := by
  obtain ⟨-, ⟨tests, htests, hinputs⟩, -, -⟩ := derive_eq_ok h
  rw [hinputs, List.mem_reverse] at hmem
  obtain ⟨declared, -, hdeclared⟩ := exists_of_mem_mapM_ok htests hmem
  exact ⟨declared, hdeclared⟩

end Signature

/-- The test for a type that is declared of a parameter comes to no answer exactly where it balks.
So a command calls its routine on what it takes off the stack, or, at the first place of the stack
that is not accepted, reports that an item is missing or of another type, with the stack as it was;
unless that is a place where the test balks, and then that is how it fails. This is so whatever the
routine does: any other one with the signature is called alike. -/
theorem command_tests_items {r : Routine} {label : Text} {sig : Signature}
    (hsig : r.signature label = .ok sig) :
    (∀ expected ∈ sig.inputs, ∀ v,
      (∃ problem, expected.accepts v = .error problem) ↔ expected.Balks v) ∧
    ∀ (name : Text) (s : State),
      (¬ sig.Balks s.stack →
        (∃ args, ∀ called : Routine, called.command sig name s =
          (called.body args).deliver sig.result (s.stack.drop sig.inputs.length) s) ∨
        ∃ (place : Nat) (expected : Shape), sig.inputs[place]? = some expected ∧
          AcceptedAbove sig.inputs s.stack place ∧
          (s.stack[place]? = none ∧ (∀ called : Routine, called.command sig name s =
              .failed (.of (.underflow
                (.arguments name sig.inputs.length s.stack.length))) s) ∨
            ∃ v, s.stack[place]? = some v ∧ expected.accepts v = .ok false ∧
              ∀ called : Routine, called.command sig name s =
                .failed (.of (.mismatch expected.describe v.typeName)) s)) ∧
      (sig.Balks s.stack → ∃ problem, ∀ called : Routine, called.command sig name s =
        .failed (.fault (.classTest problem)) s) := by
  have hbalks : ∀ expected ∈ sig.inputs, ∀ v,
      (∃ problem, expected.accepts v = .error problem) ↔ expected.Balks v := by
    intro expected hmem v
    obtain ⟨declared, hdeclared⟩ := Signature.exists_normalise_of_mem hsig hmem
    exact Shape.accepts_eq_error_iff hdeclared
  refine ⟨hbalks, fun name s => ?_⟩
  cases htakes : sig.takesStack with
  | true =>
    have hnone := Signature.inputs_of_takesStack hsig htakes
    constructor
    · intro _
      have htake : sig.takeItems name s.stack =
          .ok (s.stack.drop sig.inputs.length, [.stack s.stack]) := by
        rw [Signature.takeItems, if_pos htakes, hnone]
        rfl
      exact .inl ⟨_, fun _ => Routine.command_of_takeItems htake⟩
    · rintro ⟨place, expected, v, hexpected, -⟩
      rw [hnone] at hexpected
      cases hexpected
  | false =>
    have htake : sig.takeItems name s.stack =
        Signature.popItems name sig.inputs.length sig.inputs s.stack [] := by
      rw [Signature.takeItems, htakes]
      rfl
    constructor
    · intro hanswered
      by_cases hall : ∀ (place : Nat) shape, sig.inputs[place]? = some shape →
          shape.AcceptsAt s.stack place
      · left
        rw [Signature.popItems_eq_take hall] at htake
        exact ⟨_, fun _ => Routine.command_of_takeItems htake⟩
      · right
        obtain ⟨place, expected, hexpected, hrefused, habove⟩ := exists_first_not_acceptsAt hall
        obtain ⟨hmissing, hdecides⟩ :=
          Signature.popItems_at name sig.inputs.length hexpected habove
        refine ⟨place, expected, hexpected, habove, ?_⟩
        cases hv : s.stack[place]? with
        | none =>
          have herror := htake.trans (hmissing hv)
          exact .inl ⟨rfl, fun _ => Routine.command_of_takeItems_error herror⟩
        | some v =>
          refine .inr ⟨v, rfl, ?_⟩
          cases haccepts : expected.accepts v with
          | ok answer =>
            cases answer with
            | true => exact absurd ⟨v, hv, haccepts⟩ hrefused
            | false =>
              have herror := htake.trans ((hdecides v hv).1 haccepts)
              exact ⟨rfl, fun _ => Routine.command_of_takeItems_error herror⟩
          | error problem =>
            have hbalk := (hbalks expected (List.mem_of_getElem? hexpected) v).1 ⟨problem, haccepts⟩
            exact absurd ⟨place, expected, v, hexpected, hv, hbalk, habove⟩ hanswered
    · rintro ⟨place, expected, v, hexpected, hv, hbalk, habove⟩
      obtain ⟨problem, hproblem⟩ :=
        (hbalks expected (List.mem_of_getElem? hexpected) v).2 hbalk
      have herror := htake.trans (((Signature.popItems_at name sig.inputs.length hexpected
        habove).2 v hv).2 problem hproblem)
      exact ⟨problem, fun _ => Routine.command_of_takeItems_error herror⟩

/-- A routine that takes an integer or a list of strings. -/
def pickRoutine : Routine where
  name := "pick"
  parameters := [⟨"x", some (.union [.integer, .listOf .string]), .positional⟩]
  result := some .nothing
  body _ := .value .absent

/-- What is read off its shapes. -/
def pickSignature : Signature where
  roles := [.item]
  inputs := [.union [.integer, .listOf .string]]
  result := .items []

/-- An integer is handed to it; for a string the test goes on to the list of strings, and balks. -/
theorem pickRoutine_tests_items :
    pickRoutine.signature "pick" = .ok pickSignature ∧
    (∃ args, ∀ called : Routine, called.command pickSignature "pick"
        { State.initial .discard with stack := [.int 5] } =
      (called.body args).deliver (.items []) [] { State.initial .discard with stack := [.int 5] }) ∧
    ∃ problem, ∀ called : Routine, called.command pickSignature "pick"
        { State.initial .discard with stack := [.string "a"] } =
      .failed (.fault (.classTest problem))
        { State.initial .discard with stack := [.string "a"] } := by
  have hsig : pickRoutine.signature "pick" = .ok pickSignature := rfl
  obtain ⟨htests, hcommand⟩ := command_tests_items hsig
  refine ⟨hsig, ?_, ?_⟩
  · have hanswered : ¬ pickSignature.Balks [.int 5] := by
      rintro ⟨place, expected, v, hexpected, hv, hbalk, -⟩
      obtain ⟨problem, hproblem⟩ := (htests expected (List.mem_of_getElem? hexpected) v).2 hbalk
      cases place with
      | zero =>
        cases hexpected
        cases hv
        cases hproblem
      | succ place => cases hexpected
    rcases (hcommand "pick" { State.initial .discard with stack := [.int 5] }).1 hanswered with
      hcalled | ⟨place, expected, hexpected, -, hrefused⟩
    · exact hcalled
    · cases place with
      | zero =>
        cases hexpected
        rcases hrefused with ⟨hmissing, -⟩ | ⟨v, hv, haccepts, -⟩
        · cases hmissing
        · cases hv
          cases haccepts
      | succ place => cases hexpected
  · have hbalks : pickSignature.Balks [.string "a"] := by
      refine ⟨0, _, _, rfl, rfl, ⟨by simp, [.integer], .listOf .string, [], rfl, rfl, ?_⟩, ?_⟩
      · simp [Shape.holds]
      · simp [AcceptedAbove]
    exact (hcommand "pick" { State.initial .discard with stack := [.string "a"] }).2 hbalks

end StackShell
