import StackShell.Proofs.Plain.Builtins
import StackShell.Proofs.Plain.Run
import StackShell.Proofs.Vocabularies

/-!
# Vocabularies of routines that behave

The commands of a vocabulary to which only routines that behave were added keep states plain. The
standard hosts, which have the built-in commands with or without the text extension, make such
vocabularies.
-/

namespace StackShell

variable {good : Statement → Prop} {fails : Device → Failure → Prop}

/-! ## Routines that behave -/

theorem Routine.Behaves.mono {fails' : Device → Failure → Prop} {r : Routine}
    (hfails : ∀ device failure, fails device failure → fails' device failure)
    (hr : r.Behaves fails) : r.Behaves fails' := by
  refine ⟨hr.operands, fun good device args hargs => ?_⟩
  have hgives := hr.body good device args hargs
  cases hresult : (r.body args).result with
  | ok v =>
    rw [hresult] at hgives
    exact hgives
  | error failure =>
    rw [hresult] at hgives
    exact hfails device failure hgives

/-- Whether the command of that name was made from a routine that behaves. -/
def Command.Behaves (fails : Device → Failure → Prop) (name : Text) (command : Command) : Prop :=
  ∃ r sig label, Routine.Behaves fails r ∧ r.signature label = .ok sig ∧
    command = r.command sig name

theorem Command.Behaves.state {name : Text} {command : Command} (h : command.Behaves fails name)
    {s : State} (hs : s.PlainWith good) : (command s).state.PlainWith good := by
  obtain ⟨r, sig, label, hr, hsig, rfl⟩ := h
  exact hr.state hsig name s hs

theorem Command.Behaves.isRoutine {name : Text} {command : Command}
    (h : command.Behaves fails name) : command.IsRoutine := by
  obtain ⟨r, sig, label, -, -, rfl⟩ := h
  exact ⟨r, sig, name, rfl⟩

/-- Whether all commands of a vocabulary were made from routines that behave. -/
def Vocabulary.Behaves (fails : Device → Failure → Prop) (v : Vocabulary) : Prop :=
  ∀ name entry, (name, entry) ∈ v.entries.entries → entry.command.Behaves fails name

theorem Routine.Behaves.suits {r : Routine} (hr : r.Behaves fails) :
    Vocabulary.Suits (fun name command => command.Behaves fails name) r :=
  fun _ sig label hsig => ⟨r, sig, label, hr, hsig, rfl⟩

namespace Vocabulary.Behaves

variable {v : Vocabulary}

theorem command? (hv : v.Behaves fails) {name : Text} {command : Command}
    (h : v.command? name = some command) : command.Behaves fails (v.resolve name) :=
  Each.command? hv h

theorem load (hv : v.Behaves fails) (name : Text) {found : Option Extension}
    (hfound : ∀ rs, found = some (.operators rs) → ∀ r ∈ rs, r.Behaves fails) :
    (v.load name found).1.Behaves fails :=
  Each.load hv name fun rs hrs r hr => (hfound rs hrs r hr).suits

theorem builtins
    (hfails : ∀ device failure, Builtin.Fails device failure → fails device failure) :
    Vocabulary.builtins.Behaves fails :=
  Each.builtins fun e he => ((Builtin.routines_behave e he).mono hfails).suits

end Vocabulary.Behaves

/-! ## Standard hosts -/

namespace Host

/-- A host with the built-in commands, with or without the text extension. -/
def standard (limit : Option Int) (shelf : Shelf) (withText : Bool) : Except Failure Host :=
  if withText then (Host.new limit shelf).loadExtension "text" else .ok (.new limit shelf)

/-- The vocabulary of a standard host. -/
def standardVocabulary (withText : Bool) : Vocabulary :=
  if withText then (Vocabulary.builtins.load "text" (some TextExtension.extension)).1
  else .builtins

/-- A standard host can be made, and makes its vocabulary. -/
theorem standard_eq_ok (limit : Option Int) (shelf : Shelf) (withText : Bool) :
    ∃ host, standard limit shelf withText = .ok host ∧ host.limit = limit ∧
      host.vocabulary = .ok (standardVocabulary withText) := by
  cases withText with
  | false => exact ⟨.new limit shelf, rfl, rfl, rfl⟩
  | true => exact ⟨{ Host.new limit shelf with extensions := ["text"] }, rfl, rfl, rfl⟩

/-- The commands of a standard host come from routines that behave. -/
theorem standardVocabulary_behaves (withText : Bool) :
    (standardVocabulary withText).Behaves TextExtension.Fails := by
  have hbuiltins := Vocabulary.Behaves.builtins fun _ _ => TextExtension.Fails.builtin
  cases withText with
  | false => exact hbuiltins
  | true =>
    refine hbuiltins.load "text" fun rs hrs => ?_
    exact TextExtension.routines_behave (Option.some.inj hrs)

/-- What a standard host knows, it knows with the text extension too. -/
theorem knows_standardVocabulary {withText : Bool} {statement : Statement}
    (h : (standardVocabulary withText).Knows statement) (more : Bool) :
    (standardVocabulary (withText || more)).Knows statement := by
  cases withText with
  | true => exact h
  | false =>
    cases more with
    | false => exact h
    | true => exact Vocabulary.Knows.load h "text" _

/-- A standard host has a vocabulary, and its commands come from routines that behave. -/
theorem vocabulary_standard (limit : Option Int) (shelf : Shelf) (withText : Bool) :
    ∃ host v, standard limit shelf withText = .ok host ∧ host.vocabulary = .ok v ∧
      v.Behaves TextExtension.Fails := by
  obtain ⟨host, hhost, -, hvocabulary⟩ := standard_eq_ok limit shelf withText
  exact ⟨host, _, hhost, hvocabulary, standardVocabulary_behaves withText⟩

end Host

end StackShell
