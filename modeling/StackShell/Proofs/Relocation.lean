import StackShell.Proofs.Places.Runs
import StackShell.Proofs.Places.Tokens
import StackShell.Proofs.Sessions

/-!
# Places cannot be observed

What a program does with the built-in commands does not depend on where its words stand in the
source text, as long as different places stay different: `=` sees whether two functions come from
the same places, and nothing else sees places at all. So the run of a program that is moved, on a
state whose functions are moved along, goes like the run of the program itself, and all that it
leaves is moved (`places_unobservable`).

Two source texts with the same tokens are the same program at other places. On a state that holds no
functions they do the same.
-/

namespace StackShell

/-! ## Moved states -/

/-- A state with the places in its stack and its variables moved. -/
def State.relocate (r : Location → Location) (s : State) : State :=
  { s with
    stack := s.stack.map (Value.relocate r)
    bindings := s.bindings.mapValues (Value.relocate r) }

theorem State.within_eq_relocate (r : Location → Location) (s : State) :
    s.within r [] 0 = s.relocate r := by
  simp [within, relocate]

/-- A session with the places in its stack and its variables moved. -/
def Session.relocate (r : Location → Location) (s : Session) : Session :=
  { s with state := s.state.relocate r }

/-! ## States without functions -/

mutual

/-- Whether a value holds no function. -/
def Value.FunctionFree : Value → Prop
  | .function _ => False
  | .tuple items | .stack items => Value.AllFunctionFree items
  | _ => True
termination_by structural x => x

/-- Whether none of the values holds a function. -/
def Value.AllFunctionFree : List Value → Prop
  | [] => True
  | v :: rest => Value.FunctionFree v ∧ Value.AllFunctionFree rest
termination_by structural x => x

end

mutual

/-- Without functions there are no places. -/
theorem Value.FunctionFree.relocate (r : Location → Location) {v : Value} (h : v.FunctionFree) :
    v.relocate r = v := by
  cases v with
  | function body => exact h.elim
  | tuple items => exact congrArg Value.tuple (Value.AllFunctionFree.relocateAll r h)
  | stack items => exact congrArg Value.stack (Value.AllFunctionFree.relocateAll r h)
  | number | boolean | string | absent | device => rfl
termination_by structural v

theorem Value.AllFunctionFree.relocateAll (r : Location → Location) {values : List Value}
    (h : Value.AllFunctionFree values) : Value.relocateAll r values = values := by
  cases values with
  | nil => rfl
  | cons v rest =>
    exact congrArg₂ List.cons (Value.FunctionFree.relocate r h.1)
      (Value.AllFunctionFree.relocateAll r h.2)
termination_by structural values

end

/-- Whether a state holds no function, neither on the stack nor in a variable. -/
structure State.FunctionFree (s : State) : Prop where
  stack : ∀ v ∈ s.stack, v.FunctionFree
  bindings : ∀ e ∈ s.bindings.entries, e.2.FunctionFree

theorem State.FunctionFree.relocate (r : Location → Location) {s : State} (h : s.FunctionFree) :
    s.relocate r = s := by
  have hstack := calc
    s.stack.map (Value.relocate r) = s.stack.map id :=
      List.map_congr_left fun v hv => (h.stack v hv).relocate r
    _ = s.stack := List.map_id s.stack
  have hentries := calc
    s.bindings.entries.map (fun e => (e.1, e.2.relocate r)) = s.bindings.entries.map id :=
      List.map_congr_left fun e he => Prod.ext rfl ((h.bindings e he).relocate r)
    _ = s.bindings.entries := List.map_id s.bindings.entries
  unfold State.relocate Table.mapValues
  rw [hstack, hentries]

/-! ## Runs -/

namespace Environment

variable {env : Environment} {r : Location → Location}

/-- Where a failure of a whole run is reported does not decide what is reported. -/
theorem reportDepth_relocate (r : Location → Location) (failure : Failure) :
    reportDepth (failure.relocate r) = (reportDepth failure).relocate r := by
  cases failure with
  | fault problem => cases problem <;> rfl
  | script cause place =>
    simp only [Failure.relocate, reportDepth]
    split <;> rfl

/-- A run with blind commands is the same wherever its places are moved to. -/
theorem submit_relocate (hpass : env.checkpoint = .pass)
    (hblind : ∀ name command, env.command? name = some command → command.BlindTo r) (fuel : Nat)
    (program : Program) (s : State) :
    env.submit fuel (Program.relocate r program) (s.relocate r) =
      (env.submit fuel program s).within r [] 0 := by
  -- The moved start is the start with every place moved: `run_within` applies to it.
  have hstart : Machine.start (Program.relocate r program)
      { s.relocate r with steps := 0 } =
        (Machine.start program { s with steps := 0 }).within r [] 0 [] := by
    simp [Machine.start, Machine.within, framesWithin, State.within, State.relocate]
  have hrun := Machine.run_within (checksWithin_of_pass hpass r []) hblind fuel
    (Machine.start program { s with steps := 0 })
  unfold submit exec
  rw [hstart, hrun]
  cases (Machine.start program { s with steps := 0 }).run env fuel with
  | none =>
    show Outcome.failed _ _ = Outcome.failed _ _
    simp [reportDepth, Failure.relocate, State.within, State.relocate]
  | some o =>
    cases o with
    | done s' => rfl
    | failed failure s' =>
      show Outcome.failed (reportDepth (failure.relocate r)) _ = _
      rw [reportDepth_relocate]
      rfl

end Environment

/-! ## Sessions -/

namespace Session

variable {r : Location → Location} {s : Session}

/-- A session with the built-in commands and no checkpoint. -/
structure Standard (s : Session) : Prop where
  vocabulary : s.vocabulary = .builtins
  checkpoint : s.checkpoint = .pass

/-- A program that is moved does the same on a session that is moved, as long as different places
stay different. -/
theorem Standard.run_relocate [Platform] (hs : s.Standard) (hr : Function.Injective r)
    (program : Program) :
    (s.relocate r).run (Program.relocate r program) =
      ((s.run program).1.relocate r, (s.run program).2.map (Failure.relocate r)) := by
  have hblind : ∀ name command, s.environment.command? name = some command →
      command.BlindTo r := by
    intro name command hcommand
    have hbuiltin : Vocabulary.builtins.command? name = some command := by
      rw [← hs.vocabulary]
      exact hcommand
    exact Vocabulary.builtins_blindTo hbuiltin (.inl hr)
  have hsubmit := Environment.submit_relocate hs.checkpoint hblind patience program s.state
  unfold run
  show (s.relocate r).settle (s.environment.submit patience _ (s.state.relocate r)) = _
  rw [hsubmit]
  cases s.environment.submit patience program s.state with
  | done state => simp [settle, Outcome.within, relocate, State.within_eq_relocate]
  | failed failure state => simp [settle, Outcome.within, relocate, State.within_eq_relocate]

/-- A source text with the same tokens does the same on a session that holds no functions; and if
the one is refused, so is the other. -/
theorem Standard.submit_sameTokens [Platform] (hs : s.Standard) (hfree : s.state.FunctionFree)
    {source source' : Text} (h : Token.SameTokens source source') (file : Option Text) :
    ∃ r : Location → Location, Function.Injective r ∧
      match s.parse source file with
      | .ok _ =>
        s.submit source' file =
          ((s.submit source file).1.relocate r,
            (s.submit source file).2.map (Failure.relocate r))
      | .error failure =>
        s.submit source' file = ((s.submit source file).1, some (failure.relocateSource r)) := by
  obtain ⟨r, hr, htokens, hstuck⟩ := h.exists_relocation
  have hparse : s.parse source' file =
      readElsewhere r (Program.relocate r) (s.parse source file) :=
    Program.parse_relocate s.vocabulary.contains file htokens hstuck
  refine ⟨r, hr, ?_⟩
  cases hread : s.parse source file with
  | error failure =>
    rw [hread] at hparse
    rw [submit_eq, submit_eq, hparse, hread]
    rfl
  | ok program =>
    rw [hread] at hparse
    -- there is nothing to be moved before the run
    have hresume : s.resume.relocate r = s.resume := by
      have hstate : s.resume.state.FunctionFree := ⟨hfree.stack, hfree.bindings⟩
      unfold relocate
      rw [hstate.relocate]
    have hstandard : s.resume.Standard := ⟨hs.vocabulary, hs.checkpoint⟩
    have hrun := hstandard.run_relocate hr program
    rw [hresume] at hrun
    rw [submit_eq, submit_eq, hparse, hread]
    exact hrun

end Session

/-- Places cannot be observed. On a session with the built-in commands, under any limit, the run of
a program that is moved, with different places staying different, ends as that of the program on the
state before the move: with the same failure, if any, the same events and the same count of steps,
and with its stack, its variables and the place of its failure moved. And two source texts with the
same tokens do the same on a state that holds no functions, up to such a move. -/
theorem places_unobservable [Platform] (limit : Option Int) :
    (∀ (r : Location → Location) (program : Program) (s : State), Function.Injective r →
      (Session.on .builtins limit (s.relocate r)).run (Program.relocate r program) =
        (((Session.on .builtins limit s).run program).1.relocate r,
          ((Session.on .builtins limit s).run program).2.map (Failure.relocate r))) ∧
    ∀ (source source' : Text) (file : Option Text) (s : State),
      Token.SameTokens source source' → s.FunctionFree →
        ∃ r : Location → Location, Function.Injective r ∧
          match (Session.on .builtins limit s).parse source file with
          | .ok _ =>
            (Session.on .builtins limit s).submit source' file =
              (((Session.on .builtins limit s).submit source file).1.relocate r,
                ((Session.on .builtins limit s).submit source file).2.map (Failure.relocate r))
          | .error failure =>
            (Session.on .builtins limit s).submit source' file =
              (((Session.on .builtins limit s).submit source file).1,
                some (failure.relocateSource r)) := by
  have hstandard : ∀ s, (Session.on .builtins limit s).Standard := fun _ => ⟨rfl, rfl⟩
  refine ⟨fun r program s hr => (hstandard s).run_relocate hr program, ?_⟩
  intro source source' file s hsame hfree
  exact (hstandard s).submit_sameTokens hfree hsame file

section

attribute [local instance] Platform.basic

/-- A program one line further down, and a source text in another layout. -/
theorem layout_unobservable :
    Function.Injective (fun place : Location => Location.mk (place.line + 1) place.column) ∧
    Token.SameTokens "1 2 +" "1\n2 # two\n+" ∧ (State.initial .discard).FunctionFree ∧
    (Session.on .builtins none
        ((State.initial .discard).relocate fun place => ⟨place.line + 1, place.column⟩)).run
        (Program.relocate (fun place => ⟨place.line + 1, place.column⟩)
          [.define none [.invoke "add" ⟨1, 4⟩]]) =
      (((Session.on .builtins none (.initial .discard)).run
          [.define none [.invoke "add" ⟨1, 4⟩]]).1.relocate
            fun place => ⟨place.line + 1, place.column⟩,
        ((Session.on .builtins none (.initial .discard)).run
          [.define none [.invoke "add" ⟨1, 4⟩]]).2.map
            (Failure.relocate fun place => ⟨place.line + 1, place.column⟩)) ∧
    ∃ r : Location → Location, Function.Injective r ∧
      match (Session.on .builtins none (.initial .discard)).parse "1 2 +" none with
      | .ok _ =>
        (Session.on .builtins none (.initial .discard)).submit "1\n2 # two\n+" none =
          (((Session.on .builtins none (.initial .discard)).submit "1 2 +" none).1.relocate r,
            ((Session.on .builtins none (.initial .discard)).submit "1 2 +" none).2.map
              (Failure.relocate r))
      | .error failure =>
        (Session.on .builtins none (.initial .discard)).submit "1\n2 # two\n+" none =
          (((Session.on .builtins none (.initial .discard)).submit "1 2 +" none).1,
            some (failure.relocateSource r)) := by
  have hinjective :
      Function.Injective (fun place : Location => Location.mk (place.line + 1) place.column) := by
    intro p q h
    obtain ⟨line, column⟩ := p
    obtain ⟨line', column'⟩ := q
    simp only [Location.mk.injEq] at h ⊢
    omega
  have hsame : Token.SameTokens "1 2 +" "1\n2 # two\n+" := by decide +kernel
  have hfree : (State.initial .discard).FunctionFree := ⟨nofun, nofun⟩
  exact ⟨hinjective, hsame, hfree, (places_unobservable none).1 _ _ _ hinjective,
    (places_unobservable none).2 _ _ none _ hsame hfree⟩

end

end StackShell
