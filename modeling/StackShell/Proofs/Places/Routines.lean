import Mathlib
import StackShell.Command.Builtin
import StackShell.Proofs.Places.Values
import StackShell.Proofs.Routines
import StackShell.Proofs.Tables

/-!
# Commands that do not look at places

A routine is blind to a move of places if it does the same with its arguments moved: it makes the
same visible, and gives the same result, moved. The command of a blind routine does the same to a
state that is moved (`Routine.BlindTo.command`). All built-in routines are blind to every move but
the two that compare values of any type: functions are equal only at the same places, so these two
are blind to moves that keep different places different (`Vocabulary.builtins_blindTo`).
-/

namespace StackShell

/-! ## States -/

/-- A failure with its place moved. -/
def Failure.relocate (r : Location → Location) : Failure → Failure
  | .script cause place => .script cause (place.map r)
  | .fault problem => .fault problem

/-- A result with its places moved: by `f` in what it is, by `r` in a failure. -/
def relocateResult {α β : Type} (r : Location → Location) (f : α → β) (x : Except Failure α) :
    Except Failure β :=
  (x.map f).mapError (Failure.relocate r)

/-- A state with its places moved, in a run that goes on from an earlier one: with the events of
that one before its own, and the statements begun in that one counted too. -/
def State.within (r : Location → Location) (earlier : List Event) (begun : Nat) (s : State) :
    State :=
  { s with
    stack := s.stack.map (Value.relocate r)
    bindings := s.bindings.mapValues (Value.relocate r)
    steps := begun + s.steps
    log := s.log ++ earlier }

/-- An outcome with its places moved, in a run that goes on from an earlier one. -/
def Outcome.within (r : Location → Location) (earlier : List Event) (begun : Nat) :
    Outcome → Outcome
  | .done s => .done (s.within r earlier begun)
  | .failed failure s => .failed (failure.relocate r) (s.within r earlier begun)

/-- Whether a command does the same to a state that is moved and in a run that goes on from an
earlier one. -/
def Command.BlindTo (r : Location → Location) (command : Command) : Prop :=
  ∀ earlier begun s, command (s.within r earlier begun) = (command s).within r earlier begun

/-! ## Routines -/

/-- A reply with its places moved. -/
def Reply.relocate (r : Location → Location) (reply : Reply) : Reply :=
  ⟨reply.events, relocateResult r (Value.relocate r) reply.result⟩

/-- Whether a routine does the same with arguments that are moved. -/
def Routine.BlindTo (r : Location → Location) (routine : Routine) : Prop :=
  ∀ args, routine.body (args.map (Value.relocate r)) = (routine.body args).relocate r

section

variable (r : Location → Location)

namespace Signature

theorem popItems_relocate (command : Text) (needed : Nat) (shapes : List Shape)
    (stack taken : List Value) :
    popItems command needed shapes (stack.map (Value.relocate r)) (taken.map (Value.relocate r)) =
      relocateResult r (Prod.map (List.map (Value.relocate r)) (List.map (Value.relocate r)))
        (popItems command needed shapes stack taken) := by
  induction shapes generalizing stack taken with
  | nil => rfl
  | cons expected rest ih =>
    cases stack with
    | nil =>
      rw [List.map_nil, popItems, popItems, List.length_map]
      rfl
    | cons v stack =>
      rw [List.map_cons, popItems, popItems, Shape.accepts_relocate, Value.typeName_relocate]
      split
      · rfl
      · rfl
      · exact ih stack (v :: taken)

theorem takeItems_relocate (sig : Signature) (command : Text) (stack : List Value) :
    sig.takeItems command (stack.map (Value.relocate r)) =
      relocateResult r (Prod.map (List.map (Value.relocate r)) (List.map (Value.relocate r)))
        (sig.takeItems command stack) := by
  unfold takeItems
  split
  · show Except.ok (_, [Value.stack _]) = Except.ok (_, [Value.relocate r (.stack stack)])
    rw [Value.relocate, Value.relocateAll_eq_map]
  · exact popItems_relocate r command _ _ stack []

theorem arguments_relocate (device : Device) (roles : List Role) (items : List Value) :
    arguments device roles (items.map (Value.relocate r)) =
      (arguments device roles items).map (Value.relocate r) := by
  induction roles generalizing items with
  | nil => rfl
  | cons role roles ih =>
    cases role with
    | output =>
      rw [arguments, arguments, ih, List.map_cons]
      rfl
    | wholeStack | item =>
      cases items with
      | nil => exact ih []
      | cons v items =>
        rw [List.map_cons]
        exact congrArg (v.relocate r :: ·) (ih items)

theorem itemsOf_relocate (v : Value) :
    itemsOf (v.relocate r) = relocateResult r (List.map (Value.relocate r)) (itemsOf v) := by
  cases v with
  | number n => cases n <;> rfl
  | tuple items =>
    rw [Value.relocate, Value.relocateAll_eq_map]
    rfl
  | stack items =>
    cases items with
    | nil => rfl
    | cons top rest => rfl
  | string text =>
    show _ = Except.ok _
    rw [Value.relocate, itemsOf, List.map_map]
    rfl
  | boolean | function | absent | device => rfl

theorem place_relocate (yield : Yield) (base : List Value) (v : Value) :
    place yield (base.map (Value.relocate r)) (v.relocate r) =
      relocateResult r (List.map (Value.relocate r)) (place yield base v) := by
  match yield with
  | .replace =>
    cases v with
    | number n => cases n <;> rfl
    | stack items =>
      rw [Value.relocate, Value.relocateAll_eq_map]
      rfl
    | boolean | string | function | tuple | absent | device => rfl
  | .items [] => rfl
  | .items [_] => rfl
  | .items (_ :: _ :: _) =>
    simp only [place, itemsOf_relocate]
    cases itemsOf v with
    | error failure => rfl
    | ok items =>
      show Except.ok ((items.map (Value.relocate r)).reverse ++ base.map (Value.relocate r)) =
        Except.ok ((items.reverse ++ base).map (Value.relocate r))
      rw [List.map_append, List.map_reverse]

end Signature

variable {r}

/-- The command of a blind routine does the same to a state that is moved. -/
theorem Routine.BlindTo.command {routine : Routine} (h : routine.BlindTo r) (sig : Signature)
    (name : Text) : Command.BlindTo r (routine.command sig name) := by
  intro earlier begun s
  have htake := sig.takeItems_relocate r name s.stack
  unfold Routine.command
  rw [State.within]
  dsimp only
  rw [htake]
  cases sig.takeItems name s.stack with
  | error failure => rfl
  | ok taken =>
    obtain ⟨base, items⟩ := taken
    have hbody := h (Signature.arguments s.device sig.roles items)
    rw [← Signature.arguments_relocate] at hbody
    dsimp only [relocateResult, Except.map, Except.mapError, Prod.map]
    rw [hbody]
    obtain ⟨events, result⟩ := routine.body (Signature.arguments s.device sig.roles items)
    cases result with
    | error failure => simp [Reply.relocate, relocateResult, Outcome.within, State.within,
        State.foldl_emit, Except.map, Except.mapError, bind, Except.bind]
    | ok v =>
      have hplace := Signature.place_relocate r sig.result base v
      simp only [Reply.relocate, relocateResult, Except.map, Except.mapError, bind, Except.bind,
        hplace, State.foldl_emit]
      cases Signature.place sig.result base v with
      | error failure => simp [Outcome.within, State.within]
      | ok stack => simp [Outcome.within, State.within]

/-! ## The built-in routines -/

namespace Builtin

theorem number_blindTo (out : Shape) {hout : out ≠ .stack}
    {f : Number → Reply} (hf : ∀ x, (f x).relocate r = f x) :
    (number out f hout).BlindTo r := by
  intro args
  match args with
  | [] => rfl
  | [v] => cases v <;> first | exact (hf _).symm | rfl
  | v :: _ :: _ => cases v <;> rfl

theorem numbers_blindTo (out : Shape) {hout : out ≠ .stack}
    {f : Number → Number → Reply}
    (hf : ∀ b a, (f b a).relocate r = f b a) : (numbers out f hout).BlindTo r := by
  intro args
  match args with
  | [] => rfl
  | [v] => cases v <;> rfl
  | [v, w] => cases v <;> cases w <;> first | exact (hf _ _).symm | rfl
  | v :: w :: _ :: _ => cases v <;> cases w <;> rfl

theorem result_relocate (x : Except NumberProblem Number) : (result x).relocate r = result x := by
  cases x <;> rfl

theorem division_blindTo (f : Number → Number → Except NumberProblem Number) :
    (division f).BlindTo r := by
  refine numbers_blindTo _ fun b a => ?_
  split
  · rfl
  · exact result_relocate _

theorem logic_blindTo (f : Bool → Bool → Bool) : (logic f).BlindTo r := by
  intro args
  match args with
  | [] => rfl
  | [v] => cases v <;> rfl
  | [v, w] => cases v <;> cases w <;> rfl
  | v :: w :: _ :: _ => cases v <;> cases w <;> rfl

theorem any_blindTo (out : Shape) {hout : out ≠ .stack}
    {f : Value → Reply}
    (hf : ∀ x, f (x.relocate r) = (f x).relocate r) : (any out f hout).BlindTo r := by
  intro args
  match args with
  | [x] => exact hf x
  | [] | _ :: _ :: _ => rfl

theorem anyTwo_blindTo (out : Shape) {hout : out ≠ .stack}
    {f : Value → Value → Reply}
    (hf : ∀ b a, f (b.relocate r) (a.relocate r) = (f b a).relocate r) :
    (anyTwo out f hout).BlindTo r := by
  intro args
  match args with
  | [b, a] => exact hf b a
  | [] | [_] | _ :: _ :: _ :: _ => rfl

theorem textOf_relocate (v : Value) : textOf (v.relocate r) = textOf v := by
  rw [textOf, textOf, Value.printed_relocate]

theorem print_relocate (device : Device) (text : Text) :
    (device.print text).relocate r = device.print text := by
  cases device with
  | console =>
    unfold Device.print
    dsimp only
    split <;> rfl
  | _ => rfl

theorem printing_blindTo (ending : Text) : (printing ending).BlindTo r := by
  intro args
  match args with
  | [] => rfl
  | [v] => cases v <;> rfl
  | [v, x] =>
    cases v with
    | device device =>
      simp only [printing, List.map, Value.relocate, textOf_relocate]
      unfold textOf
      cases x.printed with
      | ok text => exact (print_relocate device _).symm
      | error fault => rfl
    | _ => rfl
  | v :: _ :: _ :: _ => cases v <;> rfl

theorem floorOf_relocate (x : Number) : (floorOf x).relocate r = floorOf x := by
  unfold floorOf
  split
  · rfl
  · split <;> rfl

theorem concat_blindTo : concat.BlindTo r := by
  intro args
  match args with
  | [] => rfl
  | [v] => cases v <;> rfl
  | [v, w] => cases v <;> cases w <;> rfl
  | v :: w :: _ :: _ => cases v <;> cases w <;> rfl

theorem length_blindTo : length.BlindTo r := by
  intro args
  match args with
  | [] => rfl
  | [v] => cases v <;> rfl
  | v :: _ :: _ => cases v <;> rfl

theorem depth_blindTo : depth.BlindTo r := by
  intro args
  match args with
  | [] => rfl
  | [.stack items] =>
    show Reply.value (.int (Value.relocateAll r items).length) = .value (.int items.length)
    rw [Value.relocateAll_eq_map, List.length_map]
  | [.number _] | [.boolean _] | [.string _] | [.function _] | [.tuple _] | [.absent]
  | [.device _] => rfl
  | v :: _ :: _ => cases v <;> rfl

theorem rotate_blindTo : rotate.BlindTo r := by
  intro args
  match args with
  | [_, _, _] => rfl
  | [] | [_] | [_, _] | _ :: _ :: _ :: _ :: _ => rfl

theorem question_blindTo {f : Value → Bool} (hf : ∀ x : Value, f (x.relocate r) = f x) :
    (question f).BlindTo r := by
  refine any_blindTo _ fun x => ?_
  rw [hf]
  rfl

theorem str_blindTo :
    (any .string fun x => .ofExcept ((textOf x).map Value.string)).BlindTo r := by
  refine any_blindTo _ fun x => ?_
  rw [textOf_relocate]
  unfold textOf
  cases x.printed <;> rfl

theorem typeOf_blindTo : (any .string fun x => .value (.string x.typeName)).BlindTo r := by
  refine any_blindTo _ fun x => ?_
  rw [Value.typeName_relocate]
  rfl

theorem negation_blindTo : Routine.BlindTo r
    { name := "", parameters := one .boolean, result := some .boolean,
      body := fun | [.boolean x] => .value (.boolean (!x)) | _ => .misfit } := by
  intro args
  match args with
  | [] => rfl
  | [v] => cases v <;> rfl
  | v :: _ :: _ => cases v <;> rfl

/-- The routines that compare values of any type. -/
def comparesValues (name : Text) : Bool :=
  name == "eq" || name == "ne"

/-- A comparison is blind to a move that keeps different places different. -/
theorem equality_blindTo (hr : Function.Injective r) (f : Bool → Bool) :
    (anyTwo .boolean fun b a => .value (.boolean (f (b.equal a)))).BlindTo r := by
  refine anyTwo_blindTo _ fun b a => ?_
  rw [Value.equal_relocate hr]
  rfl

/-- All built-in routines are blind to a move, or to a move that keeps different places
different. -/
theorem routines_blindTo : ∀ e ∈ routines,
    Function.Injective r ∨ comparesValues e.1 = false → e.2.BlindTo r := by
  have hequality : ∀ {f : Bool → Bool} {name : Text}, comparesValues name = true →
      Function.Injective r ∨ comparesValues name = false →
        (anyTwo .boolean fun b a => .value (.boolean (f (b.equal a)))).BlindTo r := by
    intro f name hname h
    rcases h with hr | h
    · exact equality_blindTo hr f
    · rw [hname] at h
      cases h
  -- one entry of the table after the other
  simp only [routines, List.forall_mem_cons]
  refine ⟨fun _ => number_blindTo _ fun _ => rfl,
    fun _ => numbers_blindTo _ fun _ _ => result_relocate _, fun _ => logic_blindTo _,
    fun _ => question_blindTo fun x => by cases x <;> rfl,
    fun _ _ => rfl, fun _ _ => rfl, fun _ => concat_blindTo, fun _ => depth_blindTo,
    fun _ => division_blindTo _, fun _ => any_blindTo _ fun _ => rfl,
    fun _ => any_blindTo _ fun _ => rfl, hequality (f := id) rfl,
    fun _ => number_blindTo _ floorOf_relocate,
    fun _ => question_blindTo fun x => by cases x <;> rfl,
    fun _ => numbers_blindTo _ fun _ _ => rfl, fun _ => numbers_blindTo _ fun _ _ => rfl,
    fun _ => division_blindTo _, fun _ => numbers_blindTo _ fun _ _ => rfl,
    fun _ => length_blindTo, fun _ => numbers_blindTo _ fun _ _ => rfl,
    fun _ => numbers_blindTo _ fun _ _ => rfl, fun _ => numbers_blindTo _ fun _ _ => rfl,
    fun _ => numbers_blindTo _ fun _ _ => result_relocate _, hequality (f := not) rfl,
    fun _ => number_blindTo _ fun _ => rfl, fun _ => negation_blindTo,
    fun _ => question_blindTo fun x => by cases x <;> rfl, fun _ => logic_blindTo _,
    fun _ => anyTwo_blindTo _ fun _ _ => rfl, fun _ => printing_blindTo _,
    fun _ => division_blindTo _, fun _ => rotate_blindTo, fun _ => str_blindTo,
    fun _ => question_blindTo fun x => by cases x <;> rfl,
    fun _ => numbers_blindTo _ fun _ _ => result_relocate _,
    fun _ => anyTwo_blindTo _ fun _ _ => rfl, fun _ => typeOf_blindTo,
    fun _ => printing_blindTo _, ?_⟩
  intro e he
  cases he

end Builtin

/-- All built-in commands are blind to a move, those that compare values of any type to a move that
keeps different places different. -/
theorem Vocabulary.builtins_blindTo {name : Text} {command : Command}
    (h : builtins.command? name = some command)
    (hname : Function.Injective r ∨ Builtin.comparesValues (builtins.resolve name) = false) :
    command.BlindTo r := by
  obtain ⟨entry, hentry, rfl⟩ := Option.map_eq_some_iff.1 h
  obtain ⟨routine, sig, label, hroutine, hsig, hmade⟩ := mem_builtins (Table.mem_of_get? hentry)
  rw [hmade]
  exact (Builtin.routines_blindTo _ hroutine hname).command sig _

end

end StackShell
