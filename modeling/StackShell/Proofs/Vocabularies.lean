import StackShell.Host.Basic
import StackShell.Proofs.Routines

/-!
# What loading adds to a vocabulary

An extension adds its operators to a vocabulary one by one, until one is refused. So whatever is
kept when one of them is added is kept when the extension is loaded, also if it is not loaded to the
end (`Vocabulary.load_keeps`). This is used three times: the aliases stay as they are, what holds of
the routines that are added holds of the commands (`Vocabulary.Each`), and no word is taken away
that was known before (`Vocabulary.Knows`).
-/

namespace StackShell.Vocabulary

variable {v w : Vocabulary}

/-! ## Loading adds routines -/

section Keeps

variable {Q : Vocabulary → Prop}

theorem addOperators_keeps {rs : List Routine}
    (hadd : ∀ r ∈ rs, ∀ v w name, Q v → addRoutine v name r = .ok w → Q w) (extension : Text)
    (hv : Q v) : Q (v.addOperators extension rs).1 := by
  induction rs generalizing v with
  | nil => exact hv
  | cons r rs ih =>
    obtain ⟨hr, hrs⟩ := List.forall_mem_cons.1 hadd
    rw [addOperators]
    split
    · exact hv
    · split
      · exact hv
      · next w hw => exact ih hrs (hr v w _ hv hw)

/-- What is kept when an operator is added, and does not depend on which extensions were loaded, is
kept when an extension is loaded. -/
theorem load_keeps {found : Option Extension}
    (hadd : ∀ rs, found = some (.operators rs) →
      ∀ r ∈ rs, ∀ v w name, Q v → addRoutine v name r = .ok w → Q w)
    (hextensions : ∀ v extensions, Q v → Q { v with extensions }) (name : Text) (hv : Q v) :
    Q (v.load name found).1 := by
  unfold load
  split
  · exact hv
  · match found, hadd with
    | none, _ => exact hv
    | some (.broken _), _ => exact hv
    | some .unlisted, _ => exact hv
    | some (.operators rs), hadd =>
      have hadded : Q (v.addOperators name rs).1 := addOperators_keeps (hadd rs rfl) name hv
      dsimp only
      split
      · next w hw =>
        rw [hw] at hadded
        exact hextensions w _ hadded
      · next w failure hw =>
        rw [hw] at hadded
        exact hadded

end Keeps

/-! ## Aliases -/

theorem aliases_addRoutine {name : Text} {r : Routine} (h : v.addRoutine name r = .ok w) :
    w.aliases = v.aliases := by
  obtain ⟨sig, -, h⟩ := bind_eq_ok.1 h
  cases h
  rfl

theorem aliases_load (v : Vocabulary) (name : Text) (found : Option Extension) :
    (v.load name found).1.aliases = v.aliases :=
  load_keeps (fun _ _ _ _ _ _ _ hkept hadded => (aliases_addRoutine hadded).trans hkept)
    (fun _ _ hkept => hkept) name rfl

/-! ## What holds of every command -/

/-- Whether something holds of every command and the name that it stands under. -/
def Each (P : Text → Command → Prop) (v : Vocabulary) : Prop :=
  ∀ name entry, (name, entry) ∈ v.entries.entries → P name entry.command

/-- Whether something holds of a routine under every name under which it is registered. -/
def Suits (P : Text → Command → Prop) (r : Routine) : Prop :=
  ∀ name sig label, r.signature label = .ok sig → P name (r.command sig name)

namespace Each

variable {P : Text → Command → Prop}

theorem command? (hv : v.Each P) {name : Text} {command : Command}
    (h : v.command? name = some command) : P (v.resolve name) command := by
  obtain ⟨entry, hentry, rfl⟩ := Option.map_eq_some_iff.1 h
  exact hv _ entry (Table.mem_of_get? hentry)

theorem addRoutine (hv : v.Each P) {name : Text} {r : Routine} (hr : Suits P r)
    (h : v.addRoutine name r = .ok w) : w.Each P := by
  obtain ⟨sig, hsig, h⟩ := bind_eq_ok.1 h
  cases h
  intro key entry hmem
  -- the new command takes the place of another one, or comes on top
  rcases Table.mem_put hmem with heq | hmem
  · cases heq
    exact hr name sig _ hsig
  · exact hv key entry hmem

theorem load (hv : v.Each P) (name : Text) {found : Option Extension}
    (hfound : ∀ rs, found = some (.operators rs) → ∀ r ∈ rs, Suits P r) :
    (v.load name found).1.Each P :=
  load_keeps (fun rs hrs r hr _ _ _ hv h => addRoutine hv (hfound rs hrs r hr) h)
    (fun _ _ hv => hv) name hv

theorem builtins (h : ∀ e ∈ Builtin.routines, Suits P e.2) : Vocabulary.builtins.Each P := by
  intro name entry hmem
  obtain ⟨r, sig, label, hr, hsig, rfl⟩ := Vocabulary.mem_builtins hmem
  exact h _ hr name sig label hsig

theorem loadAll {shelf : Shelf} {names : List Text} (hv : v.Each P)
    (hshelf : ∀ name rs, shelf.find? name = some (.operators rs) → ∀ r ∈ rs, Suits P r)
    (h : Host.loadAll shelf v names = .ok w) : w.Each P := by
  induction names generalizing v with
  | nil =>
    cases h
    exact hv
  | cons name names ih =>
    have hloaded := hv.load name (hshelf name)
    rw [Host.loadAll] at h
    split at h
    · cases h
    · next u hu =>
      rw [hu] at hloaded
      exact ih hloaded h

end Each

/-! ## Known words -/

/-- Whether a word that invokes something invokes a command of the vocabulary. -/
def Knows (v : Vocabulary) : Statement → Prop
  | .invoke name _ => (v.command? name).isSome
  | _ => True

theorem contains_eq (v : Vocabulary) (name : Text) :
    v.contains name = (v.command? name).isSome :=
  Option.isSome_map.symm

theorem contains_addRoutine {key : Text} {r : Routine} (h : v.addRoutine key r = .ok w)
    {name : Text} (hname : v.contains name) : w.contains name := by
  obtain ⟨sig, -, h⟩ := bind_eq_ok.1 h
  cases h
  simp only [contains, entry?, resolve, Table.get?_insert] at hname ⊢
  split
  · rfl
  · exact hname

theorem contains_load (extension : Text) (found : Option Extension) {name : Text}
    (hname : v.contains name) : (v.load extension found).1.contains name :=
  load_keeps (Q := fun v => v.contains name)
    (fun _ _ _ _ _ _ _ hknown hadded => contains_addRoutine hadded hknown)
    (fun _ _ hknown => hknown) extension hname

/-- Loading an extension takes no word away. -/
theorem Knows.load {statement : Statement} (h : v.Knows statement) (extension : Text)
    (found : Option Extension) : (v.load extension found).1.Knows statement := by
  cases statement with
  | invoke name place =>
    have hname : (v.command? name).isSome := h
    rw [← contains_eq] at hname
    show ((v.load extension found).1.command? name).isSome
    rw [← contains_eq]
    exact contains_load extension found hname
  | _ => trivial

end StackShell.Vocabulary
