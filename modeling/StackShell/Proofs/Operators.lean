import Mathlib.Data.List.Nodup
import StackShell.Proofs.OperatorNames
import StackShell.Proofs.Registration

/-!
# One command for each operator

Functions with different names stand for commands with different names. So when the functions of an
extension are registered, each one gets a command of its own, and none takes the place of another.
The built-in commands are registered in the same way (`operators_never_collide`).

How the entries of a vocabulary come from a list of routines is said by a row that pairs each
routine with its entry (`Routine.RegisteredAs`).
-/

namespace StackShell

/-! ## What a routine is registered as -/

/-- Whether a signature can be read does not depend on the name of the command. -/
theorem Signature.derive_toOption (label label' : Text) (parameters : List Parameter)
    (result : Option Shape) :
    (derive label parameters result).toOption = (derive label' parameters result).toOption := by
  unfold derive
  dsimp only
  split
  · rfl
  · split
    · rfl
    · cases result with
      | none => rfl
      | some out =>
        show Except.toOption (Except.bind _ _) = Except.toOption (Except.bind _ _)
        cases ((parameters.filterMap (·.shape)).filter (Role.of · == .item)).mapM
          Shape.normalise with
        | error problem => rfl
        | ok items =>
          dsimp only [Except.bind]
          split <;> rfl

namespace Routine

/-- Whether the shapes of a routine say what its command takes and gives. -/
def isDeclared (r : Routine) : Bool :=
  (r.signature r.name).toOption.isSome

/-- An entry that a routine is registered as: the command under the name that the name of the
routine stands for, with `lead` in front. -/
def RegisteredAs (lead : Text) (r : Routine) (e : Text × Entry) : Prop :=
  ∃ name, OperatorName.toCommand r.name = .ok name ∧ e.1 = lead ++ name ∧ r.entry e.1 = .ok e.2

/-- A routine that is declared has an entry under every name, any other has none. -/
theorem toOption_entry_isSome (r : Routine) (name : Text) :
    (r.entry name).toOption.isSome = r.isDeclared := by
  unfold entry isDeclared signature
  rw [Signature.derive_toOption r.name (if name.isEmpty then r.name else name)]
  cases Signature.derive (if name.isEmpty then r.name else name) r.parameters r.result <;> rfl

theorem exists_entry {r : Routine} (h : r.isDeclared = true) (name : Text) :
    ∃ entry, r.entry name = .ok entry := by
  rw [← toOption_entry_isSome r name] at h
  cases hentry : r.entry name with
  | ok entry => exact ⟨entry, rfl⟩
  | error problem =>
    rw [hentry] at h
    cases h

theorem exists_entry_error {r : Routine} (h : r.isDeclared = false) (name : Text) :
    ∃ problem, r.entry name = .error problem := by
  rw [← toOption_entry_isSome r name] at h
  cases hentry : r.entry name with
  | ok entry =>
    rw [hentry] at h
    cases h
  | error problem => exact ⟨problem, rfl⟩

end Routine

open OperatorName (IsOperator)

variable {lead : Text} {rs : List Routine} {row : List (Text × Entry)}

/-- The names of the entries are those that the names of the routines stand for. -/
theorem keys_registered (h : List.Forall₂ (Routine.RegisteredAs lead) rs row) :
    (row.map (·.1)).map Except.ok =
      (rs.map (·.name)).map fun name => (OperatorName.toCommand name).map (lead ++ ·) := by
  induction h with
  | nil => rfl
  | cons hentry _ ih =>
    obtain ⟨name, hname, hkey, -⟩ := hentry
    rw [List.map_cons, List.map_cons, List.map_cons, List.map_cons, hname, hkey, ih]
    rfl

/-- Routines with different names are registered under different names. -/
theorem nodup_registered (h : List.Forall₂ (Routine.RegisteredAs lead) rs row)
    (hoperators : ∀ r ∈ rs, IsOperator r.name) (hnames : (rs.map (·.name)).Nodup) :
    (row.map (·.1)).Nodup := by
  apply List.Nodup.of_map Except.ok
  rw [keys_registered h]
  refine List.Nodup.map_on (fun f hf g hg heq => ?_) hnames
  have hoperator : ∀ name ∈ rs.map (·.name), IsOperator name := List.forall_mem_map.2 hoperators
  refine (hoperator f hf).eq_of_toCommand_eq (hoperator g hg) ?_
  -- what is put in front of both names is the same
  obtain ⟨name, hname, -⟩ := (hoperator f hf).exists_toCommand
  obtain ⟨name', hname', -⟩ := (hoperator g hg).exists_toCommand
  rw [hname, hname'] at heq ⊢
  exact congrArg Except.ok (Text.append_right_inj lead |>.1 (Except.ok.inj heq))

/-! ## The operators of an extension -/

namespace Vocabulary

/-- The operators of an extension are registered one after the other, up to the first one that is
not declared. -/
theorem exists_addOperators (extension : Text) {rs : List Routine}
    (hoperators : ∀ r ∈ rs, IsOperator r.name) (v : Vocabulary) :
    ∃ row,
      List.Forall₂ (Routine.RegisteredAs (extension ++ ".")) (rs.takeWhile (·.isDeclared)) row ∧
      (v.addOperators extension rs).1 = { v with entries := v.entries.insertAll row } ∧
      ((v.addOperators extension rs).2 = none ↔ ∀ r ∈ rs, r.isDeclared = true) := by
  induction rs generalizing v with
  | nil => exact ⟨[], .nil, rfl, by simp [addOperators]⟩
  | cons r rs ih =>
    obtain ⟨hr, hrs⟩ := List.forall_mem_cons.1 hoperators
    obtain ⟨name, hname, -⟩ := hr.exists_toCommand
    rw [addOperators, hname]
    dsimp only
    rw [addRoutine_eq, List.forall_mem_cons]
    cases hdeclared : r.isDeclared with
    | false =>
      -- the loading stops in front of it
      obtain ⟨problem, hentry⟩ := Routine.exists_entry_error hdeclared (extension ++ "." ++ name)
      rw [hentry, List.takeWhile_cons_of_neg (by simp [hdeclared])]
      exact ⟨[], .nil, rfl, by simp [Except.map]⟩
    | true =>
      -- the others go on with the vocabulary that has its entry
      obtain ⟨entry, hentry⟩ := Routine.exists_entry hdeclared (extension ++ "." ++ name)
      obtain ⟨row, hrow, hadded, hdone⟩ := ih hrs
        { v with entries := v.entries.insert (extension ++ "." ++ name) entry }
      rw [hentry, List.takeWhile_cons_of_pos hdeclared]
      refine ⟨(extension ++ "." ++ name, entry) :: row, .cons ⟨name, hname, rfl, hentry⟩ hrow,
        hadded, ?_⟩
      rw [eq_self_iff_true, true_and]
      exact hdone

/-- Loading an extension for the first time registers its operators. -/
theorem load_operators {v : Vocabulary} {extension : Text} (hnew : extension ∉ v.extensions)
    (rs : List Routine) :
    (v.load extension (some (.operators rs))).1.entries =
        (v.addOperators extension rs).1.entries ∧
      (v.load extension (some (.operators rs))).2 = (v.addOperators extension rs).2 := by
  rw [load, if_neg (by simpa using hnew)]
  obtain ⟨w, failure⟩ := v.addOperators extension rs
  cases failure <;> exact ⟨rfl, rfl⟩

end Vocabulary

/-! ## The built-in operators -/

namespace Builtin

/-- The names of the functions behind the built-in commands, in the order in which they are
registered. -/
def functions : List Text :=
  List.map Text.ofString
    [ "op_abs", "op_add", "op_and", "op_boolean_q", "op_clear", "op_clear_stack", "op_concat",
      "op_depth", "op_div", "op_drop", "op_dup", "op_eq", "op_floor", "op_function_q", "op_ge",
      "op_gt", "op_idiv", "op_le", "op_length", "op_lt", "op_max", "op_min", "op_mul", "op_ne",
      "op_neg", "op_not", "op_number_q", "op_or", "op_over", "op_print", "op_rem", "op_rot",
      "op_str", "op_string_q", "op_sub", "op_swap", "op_type_of", "op_write" ]

/-- The operator of a built-in command: its routine under the name of a function. -/
def operator (function : Text) (e : Text × Routine) : Routine :=
  { e.2 with name := function }

/-- The built-in operators. -/
def operators : List Routine :=
  functions.zipWith operator routines

/-- Every built-in command has the name that the name of its function stands for. -/
theorem functions_named :
    functions.map OperatorName.toCommand = routines.map fun e => .ok e.1 := by
  cbv

theorem functions_distinct : functions.Nodup ∧ ∀ function ∈ functions, IsOperator function := by
  decide +kernel

theorem routines_declared : ∀ e ∈ routines, e.2.isDeclared = true := by
  decide

theorem routines_named : ∀ e ∈ routines, e.1.isEmpty = false := by
  decide

/-- Routines that are registered under the names that those of their functions stand for. -/
theorem registered_operators {fs : List Text} {rows : List (Text × Routine)}
    (hfunctions : fs.map OperatorName.toCommand = rows.map fun e => .ok e.1)
    (hnamed : ∀ e ∈ rows, e.1.isEmpty = false) {row : List (Text × Entry)}
    (h : List.Forall₂ (fun e e' => e'.1 = e.1 ∧ e.2.entry e.1 = .ok e'.2) rows row) :
    List.Forall₂ (Routine.RegisteredAs "") (fs.zipWith operator rows) row := by
  induction h generalizing fs with
  | nil =>
    rw [List.zipWith_nil_right]
    exact .nil
  | @cons e e' rows row hentry _ ih =>
    obtain ⟨hkey, hentry⟩ := hentry
    obtain ⟨hsome, hrest⟩ := List.forall_mem_cons.1 hnamed
    obtain ⟨f, fs, rfl, hname, hfs⟩ := List.map_eq_cons_iff.1 hfunctions
    refine .cons ⟨e.1, hname, hkey.trans (Text.empty_append _).symm, ?_⟩ (ih hfs hrest)
    -- the routine's own name counts only for a command without a name
    rw [hkey, ← hentry, Routine.entry, Routine.entry, hsome]
    rfl

/-- The names of the operators are those of the functions. -/
theorem map_name_operators : operators.map (·.name) = functions := by
  rfl

/-- The built-in commands are the entries of the built-in operators. -/
theorem exists_entries : ∃ row, List.Forall₂ (Routine.RegisteredAs "") operators row ∧
    (row.map (·.1)).Nodup ∧ Vocabulary.builtins.entries = ⟨row⟩ := by
  obtain ⟨row, hrow, hregister⟩ := exists_register
    (fun e he => Routine.exists_entry (routines_declared e he) e.1)
    { Vocabulary.empty with aliases := .ofList aliases }
  have hregistered : List.Forall₂ (Routine.RegisteredAs "") operators row :=
    registered_operators functions_named routines_named hrow
  have hnodup : (row.map (·.1)).Nodup := by
    obtain ⟨hdistinct, hfunctions⟩ := functions_distinct
    rw [← map_name_operators] at hdistinct hfunctions
    exact nodup_registered hregistered (List.forall_mem_map.1 hfunctions) hdistinct
  refine ⟨row, hregistered, hnodup, ?_⟩
  unfold Vocabulary.builtins
  dsimp only
  rw [hregister]
  exact Table.ofList_entries hnodup

end Builtin

/-- Operators never collide. The name of a function that stands for a command is found again from
that of the command, so different functions stand for different commands. The built-in vocabulary
has exactly one command for each built-in operator, under a name of its own. And when an extension
is loaded whose functions have different names, each one is registered under a name of its own,
where it is found afterwards, and nothing else is touched. A function that is not declared is where
loading stops, and only there. -/
theorem operators_never_collide :
    (∀ function, IsOperator function →
      ∃ name, OperatorName.toCommand function = .ok name ∧
        OperatorName.ofCommand name = function) ∧
    (∀ f g, IsOperator f → IsOperator g → f ≠ g →
      OperatorName.toCommand f ≠ OperatorName.toCommand g) ∧
    (∃ row, List.Forall₂ (Routine.RegisteredAs "") Builtin.operators row ∧
      (row.map (·.1)).Nodup ∧ Vocabulary.builtins.entries = ⟨row⟩) ∧
    ∀ (v : Vocabulary) (extension : Text) (rs : List Routine), extension ∉ v.extensions →
      (∀ r ∈ rs, IsOperator r.name) → (rs.map (·.name)).Nodup →
      let loaded := v.load extension (some (.operators rs))
      (loaded.2 = none ↔ ∀ r ∈ rs, r.isDeclared = true) ∧
      ∃ row,
        List.Forall₂ (Routine.RegisteredAs (extension ++ ".")) (rs.takeWhile (·.isDeclared)) row ∧
        (row.map (·.1)).Nodup ∧
        (∀ e ∈ row, loaded.1.entries.get? e.1 = some e.2) ∧
        ∀ name ∉ row.map (·.1), loaded.1.entries.get? name = v.entries.get? name := by
  refine ⟨fun function h => h.exists_toCommand,
    fun f g hf hg hne heq => hne (hf.eq_of_toCommand_eq hg heq), Builtin.exists_entries, ?_⟩
  intro v extension rs hnew hoperators hnames loaded
  obtain ⟨row, hrow, hadded, hdone⟩ := Vocabulary.exists_addOperators extension hoperators v
  have hnodup : (row.map (·.1)).Nodup := by
    have hfirst := List.takeWhile_prefix (l := rs) (·.isDeclared)
    refine nodup_registered hrow (fun r hr => hoperators r (hfirst.subset hr)) ?_
    exact hnames.sublist (hfirst.sublist.map _)
  obtain ⟨hentries, hfailure⟩ : loaded.1.entries = (v.addOperators extension rs).1.entries ∧
      loaded.2 = (v.addOperators extension rs).2 := Vocabulary.load_operators hnew rs
  rw [hadded] at hentries
  rw [← hfailure] at hdone
  -- no name comes twice in the row, so that no entry of it takes the place of another
  have hget : ∀ name, loaded.1.entries.get? name =
      (row.lookup name).or (v.entries.get? name) := by
    intro name
    rw [hentries]
    exact Table.get?_insertAll hnodup v.entries name
  refine ⟨hdone, row, hrow, hnodup, fun e he => ?_, fun name hname => ?_⟩
  · rw [hget, Table.lookup_of_mem hnodup he]
    rfl
  · rw [hget, Table.lookup_of_not_mem hname]
    rfl

/-- Operators with names that differ in their underscores. -/
def lookAlikes : List Routine :=
  (["op_a_b", "op_a__b", "op_ab"] : List Text).map fun name => { answering 1 with name }

theorem lookAlikes_never_collide :
    (∀ r ∈ lookAlikes, IsOperator r.name) ∧ (lookAlikes.map (·.name)).Nodup ∧
      ("marks" : Text) ∉ Vocabulary.builtins.extensions ∧
      (∃ name, OperatorName.toCommand "op_a_b" = .ok name ∧
        OperatorName.ofCommand name = "op_a_b") ∧
      OperatorName.toCommand "op_a_b" ≠ OperatorName.toCommand "op_a__b" ∧
      let loaded := Vocabulary.builtins.load "marks" (some (.operators lookAlikes))
      loaded.2 = none ∧
      ∃ row, List.Forall₂ (Routine.RegisteredAs "marks.") lookAlikes row ∧
        row.map (·.1) = (["marks.a!", "marks.a-!", "marks.ab"] : List Text) ∧
        (∀ e ∈ row, loaded.1.entries.get? e.1 = some e.2) ∧
        loaded.1.entries.get? "abs" = Vocabulary.builtins.entries.get? "abs" := by
  obtain ⟨hback, hdifferent, -, hload⟩ := operators_never_collide
  have hoperators : ∀ r ∈ lookAlikes, IsOperator r.name := by decide
  have hnames : (lookAlikes.map (·.name)).Nodup := by decide
  have hnew : ("marks" : Text) ∉ Vocabulary.builtins.extensions := by decide
  obtain ⟨hdone, row, hrow, -, hfound, hothers⟩ :=
    hload Vocabulary.builtins "marks" lookAlikes hnew hoperators hnames
  have hkeys : row.map (·.1) = (["marks.a!", "marks.a-!", "marks.ab"] : List Text) :=
    List.map_injective_iff.2 (fun _ _ => Except.ok.inj) (keys_registered hrow)
  refine ⟨hoperators, hnames, hnew, hback _ (by decide),
    hdifferent _ _ (by decide) (by decide) (by decide), hdone.2 (by decide), row, hrow, hkeys,
    hfound, hothers _ ?_⟩
  rw [hkeys]
  decide

end StackShell
