import Mathlib.Tactic.SplitIfs
import StackShell.Machine
import StackShell.Proofs.Results

/-!
# What a statement does

What becomes of a statement once it has begun. `Machine.Begins` lists what it leads to if it does
not fail, and `Machine.Mishap` what it can fail with; nothing else happens
(`Machine.begins_of_execute`, `Machine.mishap_of_execute`).

A call does two things: it fetches a function, from a variable or off the stack, and then it enters
the body. `State.fetch` is the first of them, and `Machine.execute_call` says that the second one
only depends on how deep parts of programs are nested.
-/

namespace StackShell

/-! ## What is taken from a state -/

/-- A value is the body of a function only if it is that function. -/
theorem Value.asFunction_eq_ok {v : Value} {body : Program} (h : v.asFunction = .ok body) :
    v = .function body := by
  cases v with
  | function body' =>
    cases h
    rfl
  | _ => cases h

/-- A value that is no function is a mismatch. -/
theorem Value.asFunction_eq_error {v : Value} {failure : Failure}
    (h : v.asFunction = .error failure) : failure = .of (.mismatch "function" v.typeName) := by
  cases v with
  | function body => cases h
  | _ =>
    cases h
    rfl

namespace State

variable {s t : State} {failure : Failure}

/-- A variable that is looked up has the value that is found. -/
theorem lookup_eq_ok {name : Text} {v : Value} (h : s.lookup name = .ok v) :
    s.bindings.get? name = some v := by
  unfold lookup at h
  split at h
  · next found hfound =>
    cases h
    exact hfound
  · cases h

/-- Only a variable that is not defined cannot be looked up. -/
theorem lookup_eq_error {name : Text} (h : s.lookup name = .error failure) :
    failure = .of (.undefinedVariable name) := by
  unfold lookup at h
  split at h
  · cases h
  · cases h
    rfl

/-- What is popped is the value on top. -/
theorem pop_eq_ok {v : Value} (h : s.pop = .ok (v, t)) :
    ∃ stack, s.stack = v :: stack ∧ t = { s with stack } := by
  unfold pop at h
  split at h
  · cases h
  · next stack hstack =>
    cases h
    exact ⟨stack, hstack, rfl⟩

/-- Only off an empty stack nothing is popped. -/
theorem pop_eq_error (h : s.pop = .error failure) : failure = .of (.underflow .pop) := by
  unfold pop at h
  split at h
  · cases h
    rfl
  · cases h

/-- Only a truth value on top is taken as the outcome of a condition. -/
theorem popBoolean_eq_ok {b : Bool} (h : s.popBoolean = .ok (b, t)) :
    ∃ stack, s.stack = .boolean b :: stack ∧ t = { s with stack } := by
  unfold popBoolean at h
  split at h
  · cases h
  · next v stack hstack =>
    cases v with
    | boolean b' =>
      simp only [Value.asBoolean, bind, Except.bind, pure, Except.pure, Except.ok.injEq,
        Prod.mk.injEq] at h
      obtain ⟨rfl, rfl⟩ := h
      exact ⟨stack, hstack, rfl⟩
    | _ => cases h

/-- The outcome of a condition is missing, or it is no truth value. -/
theorem popBoolean_eq_error (h : s.popBoolean = .error failure) :
    failure = .of (.underflow .condition) ∨
      ∃ v : Value, failure = .of (.mismatch "boolean" v.typeName) := by
  unfold popBoolean at h
  split at h
  · cases h
    exact .inl rfl
  · next v stack _ =>
    cases v with
    | boolean b => cases h
    | _ =>
      cases h
      exact .inr ⟨_, rfl⟩

/-- Only a function on top is taken as the one to call. -/
theorem popFunction_eq_ok {body : Program} (h : s.popFunction = .ok (body, t)) :
    ∃ stack, s.stack = .function body :: stack ∧ t = { s with stack } := by
  unfold popFunction at h
  split at h
  · cases h
  · next v stack hstack =>
    cases hv : v.asFunction with
    | error failure =>
      rw [hv] at h
      cases h
    | ok body' =>
      rw [hv] at h
      cases h
      rw [Value.asFunction_eq_ok hv] at hstack
      exact ⟨stack, hstack, rfl⟩

/-- The function to call is missing, or it is no function. -/
theorem popFunction_eq_error (h : s.popFunction = .error failure) :
    failure = .of (.underflow .call) ∨
      ∃ v : Value, failure = .of (.mismatch "function" v.typeName) := by
  unfold popFunction at h
  split at h
  · cases h
    exact .inl rfl
  · next v stack _ =>
    cases hv : v.asFunction with
    | ok body =>
      rw [hv] at h
      cases h
    | error problem =>
      rw [hv] at h
      cases h
      exact .inr ⟨v, Value.asFunction_eq_error hv⟩

/-- Fetches the function of a call: from a variable, or, without a name, off the stack. -/
def fetch (s : State) : Option Text → Except Failure (Program × State)
  | none => s.popFunction
  | some name =>
    match s.lookup name >>= Value.asFunction with
    | .ok body => .ok (body, s)
    | .error failure => .error failure

/-- A function that is fetched is on top of the stack, or in the variable. -/
theorem fetch_eq_ok {name : Option Text} {body : Program} (h : s.fetch name = .ok (body, t)) :
    (name = none ∧ ∃ stack, s.stack = .function body :: stack ∧ t = { s with stack }) ∨
      ∃ x, name = some x ∧ s.bindings.get? x = some (.function body) ∧ t = s := by
  cases name with
  | none => exact .inl ⟨rfl, popFunction_eq_ok h⟩
  | some x =>
    right
    simp only [fetch] at h
    split at h
    · next body' hfunction =>
      cases h
      obtain ⟨v, hlookup, hv⟩ := bind_eq_ok.1 hfunction
      rw [← Value.asFunction_eq_ok hv]
      exact ⟨x, rfl, lookup_eq_ok hlookup, rfl⟩
    · cases h

/-- Fetching a function works on the stack alone. -/
theorem fetch_frame {name : Option Text} {body : Program} (h : s.fetch name = .ok (body, t)) :
    ∃ stack, t = { s with stack } := by
  rcases fetch_eq_ok h with ⟨-, stack, -, rfl⟩ | ⟨x, -, -, rfl⟩
  · exact ⟨stack, rfl⟩
  · exact ⟨_, rfl⟩

/-- What a call can fail with before its function is known. -/
theorem fetch_eq_error {name : Option Text} (h : s.fetch name = .error failure) :
    (name = none ∧ failure = .of (.underflow .call)) ∨
      (∃ x, name = some x ∧ failure = .of (.undefinedVariable x)) ∨
        ∃ v : Value, failure = .of (.mismatch "function" v.typeName) := by
  cases name with
  | none =>
    rcases popFunction_eq_error h with hmissing | hother
    · exact .inl ⟨rfl, hmissing⟩
    · exact .inr (.inr hother)
  | some x =>
    right
    simp only [fetch] at h
    split at h
    · cases h
    · next problem hproblem =>
      cases h
      rcases bind_eq_error.1 hproblem with hlookup | ⟨v, -, hv⟩
      · exact .inl ⟨x, rfl, lookup_eq_error hlookup⟩
      · exact .inr ⟨v, Value.asFunction_eq_error hv⟩

end State

namespace Machine

variable {env : Environment} {statement : Statement} {rest : Program} {frames : List Frame}
  {s t : State} {m : Machine} {failure : Failure}

/-! ## Parts within parts -/

/-- Choosing among branches leaves the state as it is. -/
@[simp] theorem choose_state (branches : List Branch) (otherwise : Option Program)
    (rest : Program) (frames : List Frame) (s : State) :
    (choose branches otherwise rest frames s).state = s := by
  unfold choose
  split <;> rfl

theorem nest_of_lt (h : frames.length < env.depth) (m : Machine) : nest env frames m = .ok m :=
  if_pos h

theorem nest_of_le (h : env.depth ≤ frames.length) (m : Machine) :
    nest env frames m = .error (.fault .depth, m.state) :=
  if_neg (Nat.not_lt.2 h)

/-- A part of a program is nested only where there is room, and as it stands. -/
theorem nest_eq_ok {m' : Machine} (h : nest env frames m = .ok m') :
    frames.length < env.depth ∧ m = m' := by
  unfold nest at h
  split_ifs at h with hdepth
  cases h
  exact ⟨hdepth, rfl⟩

/-- Where there is no room, nothing is done to the state. -/
theorem nest_eq_error (h : nest env frames m = .error (failure, t)) :
    failure = .fault .depth ∧ t = m.state := by
  unfold nest at h
  split_ifs at h
  cases h
  exact ⟨rfl, rfl⟩

/-- A call fetches its function first, and then it may still be refused for its depth. -/
theorem execute_call (env : Environment) (name : Option Text) (place : Location)
    (rest : Program) (frames : List Frame) (s : State) :
    execute env (.call name place) rest frames s =
      match s.fetch name with
      | .error failure => .error (failure, s)
      | .ok (body, t) => nest env frames ⟨body, .call place rest :: frames, t⟩ := by
  cases name with
  | none =>
    simp only [execute, State.fetch]
    cases s.popFunction <;> rfl
  | some name =>
    simp only [execute, State.fetch]
    cases s.lookup name >>= Value.asFunction <;> rfl

/-! ## A statement that does not fail -/

/-- What becomes of a statement that has begun and does not fail: `s` is the state on which it
begins, `rest` and `frames` what follows it. -/
inductive Begins (env : Environment) (rest : Program) (frames : List Frame) (s : State) :
    Statement → Machine → Prop where
  | literal (v : Value) (place : Location) :
      Begins env rest frames s (.literal v place) ⟨rest, frames, s.push v⟩
  | load {name : Text} {v : Value} (place : Location) :
      s.bindings.get? name = some v →
        Begins env rest frames s (.load name place) ⟨rest, frames, s.push v⟩
  | store {v : Value} {stack : List Value} (name : Text) (place : Location) :
      s.stack = v :: stack →
        Begins env rest frames s (.store name place)
          ⟨rest, frames, { s with stack }.assign name v⟩
  | invoke {name : Text} {command : Command} {s' : State} (place : Location) :
      env.command? name = some command → command s = .done s' →
        Begins env rest frames s (.invoke name place) ⟨rest, frames, s'⟩
  | callTop {body : Program} {stack : List Value} (place : Location) :
      s.stack = .function body :: stack → frames.length < env.depth →
        Begins env rest frames s (.call none place)
          ⟨body, .call place rest :: frames, { s with stack }⟩
  | callNamed {name : Text} {body : Program} (place : Location) :
      s.bindings.get? name = some (.function body) → frames.length < env.depth →
        Begins env rest frames s (.call (some name) place)
          ⟨body, .call place rest :: frames, s⟩
  | conditional (branches : List Branch) (otherwise : Option Program) :
      frames.length < env.depth →
        Begins env rest frames s (.conditional branches otherwise)
          (choose branches otherwise rest frames s)
  | whileLoop (condition body : Program) : frames.length < env.depth →
      Begins env rest frames s (.whileLoop condition body)
        ⟨[], .loopBody condition body rest :: frames, s⟩
  | push (body : Program) :
      Begins env rest frames s (.define none body) ⟨rest, frames, s.push (.function body)⟩
  | bind (name : Text) (body : Program) :
      Begins env rest frames s (.define (some name) body)
        ⟨rest, frames, s.assign name (.function body)⟩

/-- The body of a function that was fetched is entered where there is room for it. -/
theorem Begins.call {name : Option Text} {body : Program} (place : Location)
    (hfetch : s.fetch name = .ok (body, t)) (hdepth : frames.length < env.depth) :
    Begins env rest frames s (.call name place) ⟨body, .call place rest :: frames, t⟩ := by
  rcases State.fetch_eq_ok hfetch with ⟨rfl, stack, hstack, rfl⟩ | ⟨x, rfl, hget, rfl⟩
  · exact .callTop place hstack hdepth
  · exact .callNamed place hget hdepth

/-- A statement that begins and does not fail is one of those that `Begins` lists. -/
theorem begins_of_execute (h : execute env statement rest frames s = .ok m) :
    Begins env rest frames s statement m := by
  cases statement with
  | literal v place =>
    cases h
    exact .literal v place
  | load name place =>
    cases hlookup : s.lookup name with
    | error problem => simp [execute, hlookup] at h
    | ok v =>
      simp only [execute, hlookup] at h
      cases h
      exact .load place (State.lookup_eq_ok hlookup)
  | store name place =>
    cases hpop : s.pop with
    | error problem => simp [execute, hpop] at h
    | ok popped =>
      obtain ⟨stack, hstack, hrest⟩ := State.pop_eq_ok hpop
      simp only [execute, hpop] at h
      cases h
      rw [hrest]
      exact .store name place hstack
  | invoke name place =>
    cases hcommand : env.command? name with
    | none => simp [execute, hcommand] at h
    | some command =>
      cases hrun : command s with
      | failed problem s' => simp [execute, hcommand, hrun] at h
      | done s' =>
        simp only [execute, hcommand, hrun] at h
        cases h
        exact .invoke place hcommand hrun
  | call name place =>
    rw [execute_call] at h
    cases hfetch : s.fetch name with
    | error problem =>
      rw [hfetch] at h
      cases h
    | ok fetched =>
      rw [hfetch] at h
      -- the function is off the stack by now, but it may still be refused for its depth
      obtain ⟨hdepth, rfl⟩ := nest_eq_ok h
      exact .call place hfetch hdepth
  | conditional branches otherwise =>
    obtain ⟨hdepth, rfl⟩ := nest_eq_ok h
    exact .conditional branches otherwise hdepth
  | whileLoop condition body =>
    obtain ⟨hdepth, rfl⟩ := nest_eq_ok h
    exact .whileLoop condition body hdepth
  | define name body =>
    cases name with
    | none =>
      cases h
      exact .push body
    | some name =>
      cases h
      exact .bind name body
  | stray => cases h

/-! ## A statement that fails -/

/-- What a statement can fail with once it has begun on a state. -/
inductive Mishap (env : Environment) (s : State) : Statement → Failure → Prop where
  | undefinedLoad {name : Text} (place : Location) :
      Mishap env s (.load name place) (.of (.undefinedVariable name))
  | emptyStore (name : Text) (place : Location) :
      Mishap env s (.store name place) (.of (.underflow .pop))
  | unknown {name : Text} (place : Location) : env.command? name = none →
      Mishap env s (.invoke name place) (.of (.unknownCommand name))
  | command {name : Text} {command : Command} {failure : Failure} {s' : State}
      (place : Location) : env.command? name = some command → command s = .failed failure s' →
        Mishap env s (.invoke name place) failure
  | emptyCall (place : Location) : Mishap env s (.call none place) (.of (.underflow .call))
  | undefinedCall {name : Text} (place : Location) :
      Mishap env s (.call (some name) place) (.of (.undefinedVariable name))
  | noFunction (name : Option Text) (place : Location) (v : Value) :
      Mishap env s (.call name place) (.of (.mismatch "function" v.typeName))
  | callTooDeep (name : Option Text) (place : Location) :
      Mishap env s (.call name place) (.fault .depth)
  | conditionalTooDeep (branches : List Branch) (otherwise : Option Program) :
      Mishap env s (.conditional branches otherwise) (.fault .depth)
  | loopTooDeep (condition body : Program) :
      Mishap env s (.whileLoop condition body) (.fault .depth)
  | stray : Mishap env s .stray (.fault (.unknownStatement "Branch"))

/-- A function that cannot be fetched is a mishap of its call. -/
theorem Mishap.call {name : Option Text} (place : Location)
    (hfetch : s.fetch name = .error failure) : Mishap env s (.call name place) failure := by
  rcases State.fetch_eq_error hfetch with ⟨rfl, rfl⟩ | ⟨x, rfl, rfl⟩ | ⟨v, rfl⟩
  · exact .emptyCall place
  · exact .undefinedCall place
  · exact .noFunction name place v

/-- A statement that fails once it has begun fails in one of the ways listed. -/
theorem mishap_of_execute (h : execute env statement rest frames s = .error (failure, t)) :
    Mishap env s statement failure := by
  cases statement with
  | literal v place => cases h
  | load name place =>
    cases hlookup : s.lookup name with
    | ok v => simp [execute, hlookup] at h
    | error problem =>
      simp only [execute, hlookup] at h
      cases h
      rw [State.lookup_eq_error hlookup]
      exact .undefinedLoad place
  | store name place =>
    cases hpop : s.pop with
    | ok popped => simp [execute, hpop] at h
    | error problem =>
      simp only [execute, hpop] at h
      cases h
      rw [State.pop_eq_error hpop]
      exact .emptyStore name place
  | invoke name place =>
    cases hcommand : env.command? name with
    | none =>
      simp only [execute, hcommand] at h
      cases h
      exact .unknown place hcommand
    | some command =>
      cases hrun : command s with
      | done s' => simp [execute, hcommand, hrun] at h
      | failed problem s' =>
        simp only [execute, hcommand, hrun] at h
        cases h
        exact .command place hcommand hrun
  | call name place =>
    rw [execute_call] at h
    cases hfetch : s.fetch name with
    | error problem =>
      rw [hfetch] at h
      cases h
      exact .call place hfetch
    | ok fetched =>
      rw [hfetch] at h
      obtain ⟨rfl, -⟩ := nest_eq_error h
      exact .callTooDeep name place
  | conditional branches otherwise =>
    obtain ⟨rfl, -⟩ := nest_eq_error h
    exact .conditionalTooDeep branches otherwise
  | whileLoop condition body =>
    obtain ⟨rfl, -⟩ := nest_eq_error h
    exact .loopTooDeep condition body
  | define name body => cases name <;> cases h
  | stray =>
    cases h
    exact .stray

end Machine

end StackShell
