import Mathlib.Data.List.Forall2
import StackShell.Command.Builtin
import StackShell.Machine
import StackShell.Proofs.Results
import StackShell.Proofs.Tables

/-!
# What routines do to a state

A command that is made from a routine changes a state in two ways only: the log grows, and, if
nothing fails, the stack is replaced. What the routine is given and what becomes of its result is
read off its signature. All built-in commands are made from routines (`Vocabulary.mem_builtins`).
-/

namespace StackShell

/-- Events are put on the log one after the other. -/
theorem State.foldl_emit (events : List Event) (s : State) :
    events.foldl State.emit s = { s with log := events.reverse ++ s.log } := by
  induction events generalizing s with
  | nil => rfl
  | cons e events ih =>
    rw [List.foldl_cons, ih]
    simp [State.emit]

namespace Routine

/-- A command that succeeds has popped its items, got a result from the routine and placed it. -/
theorem command_eq_done {r : Routine} {sig : Signature} {label : Text} {s s' : State}
    (h : r.command sig label s = .done s') :
    ∃ base items v stack log,
      sig.takeItems label s.stack = .ok (base, items) ∧
      (r.body (Signature.arguments s.device sig.roles items)).result = .ok v ∧
      Signature.place sig.result base v = .ok stack ∧
      s' = { s with stack, log } := by
  unfold command at h
  split at h
  · cases h
  · next base items htake =>
    simp only [State.foldl_emit] at h
    split at h
    · cases h
    · next stack hplace =>
      cases h
      cases hresult : (r.body (Signature.arguments s.device sig.roles items)).result with
      | error failure =>
        rw [hresult] at hplace
        cases hplace
      | ok v =>
        rw [hresult] at hplace
        exact ⟨base, items, v, stack, _, htake, hresult, hplace, rfl⟩

/-- A command that fails, at whatever point, leaves all but the log as it was. -/
theorem command_eq_failed {r : Routine} {sig : Signature} {label : Text} {s s' : State}
    {failure : Failure} (h : r.command sig label s = .failed failure s') :
    ∃ log, s' = { s with log } := by
  unfold command at h
  split at h
  · cases h
    exact ⟨s.log, rfl⟩
  · next base items htake =>
    simp only [State.foldl_emit] at h
    split at h
    · cases h
      exact ⟨_, rfl⟩
    · cases h

/-- A command fails because it cannot take its items, because the routine fails, or because the
result cannot be placed. -/
theorem failure_of_command {r : Routine} {sig : Signature} {label : Text} {s s' : State}
    {failure : Failure} (h : r.command sig label s = .failed failure s') :
    sig.takeItems label s.stack = .error failure ∨
      ∃ base items, sig.takeItems label s.stack = .ok (base, items) ∧
        ((r.body (Signature.arguments s.device sig.roles items)).result = .error failure ∨
          ∃ v, (r.body (Signature.arguments s.device sig.roles items)).result = .ok v ∧
            Signature.place sig.result base v = .error failure) := by
  unfold command at h
  split at h
  · next problem htake =>
    cases h
    exact .inl htake
  · next base items htake =>
    refine .inr ⟨base, items, htake, ?_⟩
    dsimp only at h
    split at h
    · next problem hplace =>
      cases h
      -- With no result there is nothing to place: the failure is the body's own.
      cases hresult : (r.body (Signature.arguments s.device sig.roles items)).result with
      | error problem =>
        rw [hresult] at hplace
        cases hplace
        exact .inl rfl
      | ok v =>
        rw [hresult] at hplace
        exact .inr ⟨v, rfl, hplace⟩
    · cases h

end Routine

/-- A command that was made from a routine. -/
def Command.IsRoutine (command : Command) : Prop :=
  ∃ (r : Routine) (sig : Signature) (label : Text), command = r.command sig label

/-- All commands of an environment were made from routines. -/
def Environment.RoutinesOnly (env : Environment) : Prop :=
  ∀ name command, env.command? name = some command → command.IsRoutine

/-! ## Signatures -/

namespace Signature

/-- There is one test for each role that asks for an item. -/
theorem length_tests {shapes tests : List Shape}
    (h : (shapes.filter (Role.of · == .item)).mapM Shape.normalise = .ok tests) :
    tests.length = (shapes.map Role.of).count .item := by
  rw [length_of_mapM_ok h, List.count, List.countP_map, List.countP_eq_length_filter]
  rfl

/-- What the signature of a routine says about its parameters and its result: every parameter has a
role, an item is taken for each role that asks for one, and a whole stack stands alone. -/
theorem derive_eq_ok {label : Text} {parameters : List Parameter} {result : Option Shape}
    {sig : Signature} (h : derive label parameters result = .ok sig) :
    let shapes := parameters.filterMap (·.shape)
    sig.roles = shapes.map Role.of ∧
      (∃ tests, (shapes.filter (Role.of · == .item)).mapM Shape.normalise = .ok tests ∧
        sig.inputs = tests.reverse) ∧
      (sig.takesStack → sig.roles.count .wholeStack = 1 ∧ sig.roles.count .item = 0) ∧
      ∃ out, result = some out ∧ yieldOf out = .ok sig.result := by
  intro shapes
  unfold derive at h
  dsimp only at h
  split at h
  · cases h
  · split at h
    · cases h
    · split at h
      · next out =>
        obtain ⟨tests, htests, h⟩ := bind_eq_ok.1 h
        split at h
        · cases h
        · next hstack =>
          obtain ⟨yield, hyield, h⟩ := bind_eq_ok.1 h
          cases h
          refine ⟨rfl, ⟨tests, htests, rfl⟩, ?_, out, rfl, hyield⟩
          intro htakes
          have hone := List.one_le_count_iff.2 (List.contains_iff_mem.1 htakes)
          simp only [takesStack] at htakes
          simp only [htakes, Bool.true_and, Bool.or_eq_true, decide_eq_true_eq, Bool.not_eq_true',
            not_or, Bool.not_eq_false, List.isEmpty_iff] at hstack
          rw [← length_tests htests, hstack.2]
          exact ⟨Nat.le_antisymm (Nat.le_of_not_lt hstack.1) hone, rfl⟩
      · cases h

/-- A command that is given the whole stack takes no items off it. -/
theorem inputs_of_takesStack {label : Text} {parameters : List Parameter}
    {result : Option Shape} {sig : Signature} (h : derive label parameters result = .ok sig)
    (htakes : sig.takesStack = true) : sig.inputs = [] := by
  obtain ⟨hroles, ⟨tests, htests, hinputs⟩, halone, -⟩ := derive_eq_ok h
  have hcount := (halone htakes).2
  rw [hroles, ← length_tests htests, List.length_eq_zero_iff] at hcount
  rw [hinputs, hcount]
  rfl

/-- The items of a command come off the top of the stack, the deepest first, and each of them is
accepted. -/
theorem popItems_eq_ok {command : Text} {needed : Nat} {shapes : List Shape}
    {stack taken base items : List Value}
    (h : popItems command needed shapes stack taken = .ok (base, items)) :
    ∃ popped, stack = popped ++ base ∧ items = popped.reverse ++ taken ∧
      List.Forall₂ (fun shape v => shape.accepts v = .ok true) shapes popped := by
  induction shapes generalizing stack taken with
  | nil =>
    cases h
    exact ⟨[], rfl, rfl, .nil⟩
  | cons expected shapes ih =>
    cases stack with
    | nil => cases h
    | cons v stack =>
      rw [popItems] at h
      split at h
      · cases h
      · cases h
      · next haccepts =>
        obtain ⟨popped, rfl, rfl, haccepted⟩ := ih h
        refine ⟨v :: popped, rfl, ?_, .cons haccepts haccepted⟩
        rw [List.reverse_cons, List.append_assoc]
        rfl

/-- Why a command that takes such items may be refused what is on the stack. -/
inductive Refuses (command : Text) (inputs : List Shape) : Failure → Prop where
  /-- There are too few items. -/
  | few (needed available : Nat) :
      Refuses command inputs (.of (.underflow (.arguments command needed available)))
  /-- An item is not accepted. -/
  | mismatch {expected : Shape} (v : Value) :
      expected ∈ inputs → Refuses command inputs (.of (.mismatch expected.describe v.typeName))
  /-- There is no saying whether an item is accepted. -/
  | untested {expected : Shape} {v : Value} {problem : ClassProblem} :
      expected ∈ inputs → expected.accepts v = .error problem →
        Refuses command inputs (.fault (.classTest problem))

/-- A command whose items cannot be taken is refused for one of these reasons. -/
theorem popItems_eq_error {command : Text} {needed : Nat} {shapes : List Shape}
    {stack taken : List Value} {failure : Failure}
    (h : popItems command needed shapes stack taken = .error failure) :
    Refuses command shapes failure := by
  induction shapes generalizing stack taken with
  | nil => cases h
  | cons expected shapes ih =>
    cases stack with
    | nil =>
      cases h
      exact .few needed taken.length
    | cons v stack =>
      rw [popItems] at h
      split at h
      · next problem hproblem =>
        cases h
        exact .untested List.mem_cons_self hproblem
      · cases h
        exact .mismatch v List.mem_cons_self
      · cases ih h with
        | few needed available => exact .few needed available
        | mismatch v hmem => exact .mismatch v (List.mem_cons_of_mem _ hmem)
        | untested hmem hproblem => exact .untested (List.mem_cons_of_mem _ hmem) hproblem

end Signature

/-! ## The built-in commands -/

/-- What stands in a vocabulary to which routines were added stood there before, or was made from
one of them. -/
theorem Builtin.mem_register {v v' : Vocabulary} {added : List (Text × Routine)}
    (h : register v added = .ok v') {name : Text} {entry : Entry}
    (hmem : (name, entry) ∈ v'.entries.entries) :
    (name, entry) ∈ v.entries.entries ∨
      ∃ r sig label, (name, r) ∈ added ∧ r.signature label = .ok sig ∧
        entry = ⟨r.command sig name, some sig⟩ := by
  induction added generalizing v with
  | nil =>
    cases h
    exact .inl hmem
  | cons e added ih =>
    obtain ⟨w, hw, h⟩ := bind_eq_ok.1 h
    rcases ih h with hmem | ⟨r, sig, label, hr, hsig, hentry⟩
    · obtain ⟨sig, hsig, hw⟩ := bind_eq_ok.1 hw
      cases hw
      rcases Table.mem_put hmem with heq | hmem
      · cases heq
        exact .inr ⟨e.2, sig, _, List.mem_cons_self, hsig, rfl⟩
      · exact .inl hmem
    · exact .inr ⟨r, sig, label, List.mem_cons_of_mem e hr, hsig, hentry⟩

/-- Every built-in command was made from the built-in routine of its name. -/
theorem Vocabulary.mem_builtins {name : Text} {entry : Entry}
    (h : (name, entry) ∈ builtins.entries.entries) :
    ∃ r sig label, (name, r) ∈ Builtin.routines ∧ r.signature label = .ok sig ∧
      entry = ⟨r.command sig name, some sig⟩ := by
  unfold builtins at h
  dsimp only at h
  split at h
  · next v hv =>
    rcases Builtin.mem_register hv h with h | h
    · cases h
    · exact h
  -- were a signature refused, there would be no commands at all
  · cases h

end StackShell
