import Mathlib.Data.List.Forall2
import StackShell.Host.Basic
import StackShell.Proofs.Vocabularies

/-!
# What a host has registered

A host checks each request at once, on an empty vocabulary, and builds the real vocabularies later,
on the built-in commands and all that came before. Both go the same way: whether a routine or an
extension is accepted does not depend on the vocabulary that it is added to
(`Vocabulary.load_accepted`). So a host that has only registered what it accepted can always build
a vocabulary (`Host.Sound.exists_vocabulary`).

A name stands for what was registered last under it. Two things come first: an alias, which stands
for the command that it names whatever is registered under the alias itself, and a command, which
no later routine of its name replaces.
-/

namespace StackShell

/-- What stands under a name once the routine is registered under it. -/
def Routine.entry (r : Routine) (name : Text) : Except SignatureProblem Entry :=
  (r.signature (if name.isEmpty then r.name else name)).map fun sig =>
    ⟨r.command sig name, some sig⟩

namespace Vocabulary

variable {v w : Vocabulary}

theorem addRoutine_eq (v : Vocabulary) (name : Text) (r : Routine) :
    v.addRoutine name r =
      (r.entry name).map fun entry => { v with entries := v.entries.insert name entry } := by
  unfold addRoutine Routine.entry
  cases r.signature (if name.isEmpty then r.name else name) <;> rfl

/-- Commands are added as a row of entries. -/
theorem foldl_addCommand (commands : Table Command) (v : Vocabulary) :
    commands.entries.foldl (fun v e => v.addCommand e.1 e.2) v =
      { v with
        entries :=
          v.entries.insertAll (commands.mapValues fun c => (⟨c, none⟩ : Entry)).entries } := by
  obtain ⟨rows⟩ := commands
  unfold Table.insertAll Table.mapValues
  rw [List.foldl_map]
  induction rows generalizing v with
  | nil => rfl
  | cons e rows ih => exact ih _

/-! ## Loading on one vocabulary and on another -/

/-- Whether operators are refused, and why, does not depend on what is known already. -/
theorem addOperators_failure (v w : Vocabulary) (extension : Text) (rs : List Routine) :
    (v.addOperators extension rs).2 = (w.addOperators extension rs).2 := by
  induction rs generalizing v w with
  | nil => rfl
  | cons r rs ih =>
    rw [addOperators, addOperators]
    cases OperatorName.toCommand r.name with
    | error problem => rfl
    | ok name =>
      dsimp only
      rw [addRoutine_eq, addRoutine_eq]
      cases r.entry (extension ++ "." ++ name) with
      | error problem => rfl
      | ok entry => exact ih _ _

/-- An extension that an empty vocabulary accepts is accepted by every vocabulary. -/
theorem load_accepted {name : Text} {found : Option Extension}
    (h : (empty.load name found).2 = none) (v : Vocabulary) : (v.load name found).2 = none := by
  unfold load at h ⊢
  split
  · rfl
  · have hnew : ¬empty.extensions.contains name = true := by simp [empty]
    rw [if_neg hnew] at h
    match found, h with
    | some (.operators rs), h =>
      have hsame := addOperators_failure v empty name rs
      dsimp only at h ⊢
      split at h
      · next u hempty =>
        rw [hempty] at hsame
        split
        · rfl
        · next u' failure hv =>
          rw [hv] at hsame
          cases hsame
      · cases h

end Vocabulary

namespace Builtin

/-- Routines that all can be registered are, as a row of entries. -/
theorem exists_register {rows : List (Text × Routine)}
    (h : ∀ e ∈ rows, ∃ entry, e.2.entry e.1 = .ok entry) (v : Vocabulary) :
    ∃ row : List (Text × Entry),
      List.Forall₂ (fun e e' => e'.1 = e.1 ∧ e.2.entry e.1 = .ok e'.2) rows row ∧
        register v rows = .ok { v with entries := v.entries.insertAll row } := by
  induction rows generalizing v with
  | nil => exact ⟨[], .nil, rfl⟩
  | cons e rows ih =>
    obtain ⟨name, r⟩ := e
    obtain ⟨⟨entry, hentry⟩, hrows⟩ := List.forall_mem_cons.1 h
    obtain ⟨row, hrow, hregister⟩ := ih hrows { v with entries := v.entries.insert name entry }
    refine ⟨(name, entry) :: row, .cons ⟨rfl, hentry⟩ hrow, ?_⟩
    rw [register, Vocabulary.addRoutine_eq, hentry]
    exact hregister

variable {rows : List (Text × Routine)} {row : List (Text × Entry)}

theorem keys_entries
    (h : List.Forall₂ (fun e e' => e'.1 = e.1 ∧ e.2.entry e.1 = .ok e'.2) rows row) :
    row.map (·.1) = rows.map (·.1) := by
  induction h with
  | nil => rfl
  | cons hentry _ ih => rw [List.map_cons, List.map_cons, hentry.1, ih]

/-- What is found among routines is found among the entries that are made from them. -/
theorem lookup_entries
    (h : List.Forall₂ (fun e e' => e'.1 = e.1 ∧ e.2.entry e.1 = .ok e'.2) rows row)
    {name : Text} {r : Routine} (hr : rows.lookup name = some r) :
    ∃ entry, r.entry name = .ok entry ∧ row.lookup name = some entry := by
  induction h with
  | nil => cases hr
  | @cons e e' rows row hentry _ ih =>
    obtain ⟨key, r'⟩ := e
    obtain ⟨key', entry⟩ := e'
    obtain ⟨hkey, hentry⟩ := hentry
    obtain rfl : key' = key := hkey
    rw [List.lookup_cons] at hr ⊢
    cases hname : name == key' with
    | false =>
      rw [hname] at hr
      exact ih hr
    | true =>
      rw [hname] at hr
      cases hr
      rw [eq_of_beq hname]
      exact ⟨entry, hentry, rfl⟩

end Builtin

namespace Host

/-! ## Requests -/

/-- What a host is asked to register. -/
inductive Request where
  | routine (name : Text) (r : Routine)
  | command (name : Text) (c : Command)
  | extension (name : Text)

namespace Request

/-- The name under which something is registered; an extension brings its own names. -/
def name? : Request → Option Text
  | .routine name _ | .command name _ => some name
  | .extension _ => none

/-- Whether a command is registered, and not a routine. -/
def isCommand : Request → Bool
  | .command .. => true
  | _ => false

/-- What is registered under the name. -/
def registered? : Request → Option Entry
  | .routine name r => (r.entry name).toOption
  | .command _ c => some ⟨c, none⟩
  | .extension _ => none

end Request

/-- Serves a request, unless it is refused. -/
def serve (h : Host) : Request → Except Failure Host
  | .routine name r => h.registerRoutine name r
  | .command name c => .ok (h.registerCommand name c)
  | .extension name => h.loadExtension name

/-- Serves requests in order, none of which may be refused. -/
def serveAll (h : Host) (requests : List Request) : Except Failure Host :=
  requests.foldlM serve h

/-! ## Sound hosts -/

/-- A host that has registered only what it can register again, each name once. -/
structure Sound (h : Host) : Prop where
  routines : ∀ e ∈ h.routines.entries, ∃ entry, e.2.entry e.1 = .ok entry
  extensions : ∀ name ∈ h.extensions, (Vocabulary.empty.load name (h.shelf.find? name)).2 = none
  routineNames : h.routines.keys.Nodup
  commandNames : h.commands.keys.Nodup

theorem new_sound (limit : Option Int) (shelf : Shelf) : (Host.new limit shelf).Sound :=
  ⟨nofun, nofun, .nil, .nil⟩

theorem registerRoutine_eq (h : Host) (name : Text) (r : Routine) :
    h.registerRoutine name r =
      match r.entry name with
      | .ok _ => .ok { h with routines := h.routines.insert name r }
      | .error problem => .error (.of (.signature problem)) := by
  unfold registerRoutine Routine.entry
  cases r.signature (if name.isEmpty then r.name else name) <;> rfl

/-- What is served keeps a host sound: each request was checked. -/
theorem Sound.serve {h h' : Host} (hh : h.Sound) {q : Request} (hq : h.serve q = .ok h') :
    h'.Sound ∧ h'.shelf = h.shelf := by
  cases q with
  | routine name r =>
    rw [Host.serve, registerRoutine_eq] at hq
    cases hentry : r.entry name with
    | error problem =>
      rw [hentry] at hq
      cases hq
    | ok entry =>
      rw [hentry] at hq
      cases hq
      refine ⟨⟨fun e he => ?_, hh.extensions, Table.nodup_keys_insert hh.routineNames name r,
        hh.commandNames⟩, rfl⟩
      rcases Table.mem_put he with heq | hold
      · obtain rfl : e = (name, r) := heq
        exact ⟨entry, hentry⟩
      · exact hh.routines e hold
  | command name c =>
    cases hq
    exact ⟨⟨hh.routines, hh.extensions, hh.routineNames,
      Table.nodup_keys_insert hh.commandNames name c⟩, rfl⟩
  | extension name =>
    simp only [Host.serve, loadExtension] at hq
    split at hq
    · cases hq
    · next u hload =>
      cases hq
      split
      · exact ⟨hh, rfl⟩
      · refine ⟨⟨hh.routines, fun other hother => ?_, hh.routineNames, hh.commandNames⟩, rfl⟩
        rcases List.mem_append.1 hother with hold | hnew
        · exact hh.extensions other hold
        · rw [List.mem_singleton.1 hnew]
          exact congrArg Prod.snd hload

theorem Sound.serveAll {h h' : Host} (hh : h.Sound) {requests : List Request}
    (hserved : h.serveAll requests = .ok h') : h'.Sound := by
  induction requests generalizing h with
  | nil =>
    cases hserved
    exact hh
  | cons q requests ih =>
    obtain ⟨between, hq, hrest⟩ := bind_eq_ok.1 hserved
    exact ih (hh.serve hq).1 hrest

/-! ## The vocabulary -/

/-- Extensions that were accepted are loaded, one after the other. -/
theorem exists_loadAll {shelf : Shelf} {names : List Text}
    (h : ∀ name ∈ names, (Vocabulary.empty.load name (shelf.find? name)).2 = none)
    (v : Vocabulary) : ∃ w, loadAll shelf v names = .ok w ∧ w.aliases = v.aliases := by
  induction names generalizing v with
  | nil => exact ⟨v, rfl, rfl⟩
  | cons name names ih =>
    obtain ⟨hname, hnames⟩ := List.forall_mem_cons.1 h
    have haccepted := Vocabulary.load_accepted hname v
    obtain ⟨w, hload, haliases⟩ := ih hnames (v.load name (shelf.find? name)).1
    refine ⟨w, ?_, haliases.trans (Vocabulary.aliases_load v name _)⟩
    rw [loadAll]
    split
    · next u failure hfailed =>
      rw [hfailed] at haccepted
      cases haccepted
    · next u hdone =>
      rw [hdone] at hload
      exact hload

/-- A sound host can build its vocabulary. Its own commands come first in it, then its own
routines. -/
theorem Sound.exists_vocabulary {h : Host} (hh : h.Sound) :
    ∃ v, h.vocabulary = .ok v ∧ v.aliases = Vocabulary.builtins.aliases ∧
      (∀ name c, h.commands.get? name = some c → v.entries.get? name = some ⟨c, none⟩) ∧
      ∀ name r, h.commands.get? name = none → h.routines.get? name = some r →
        ∃ entry, r.entry name = .ok entry ∧ v.entries.get? name = some entry := by
  obtain ⟨u, hload, haliases⟩ := exists_loadAll hh.extensions .builtins
  obtain ⟨row, hrow, hregister⟩ := Builtin.exists_register hh.routines u
  -- the commands as a table of entries, as the routines are a row of them
  let commands : Table Entry := h.commands.mapValues fun c => ⟨c, none⟩
  have hcommands : commands.keys.Nodup := by
    rw [Table.keys_mapValues]
    exact hh.commandNames
  have hroutines : (row.map (·.1)).Nodup := by
    rw [Builtin.keys_entries hrow]
    exact hh.routineNames
  have hget : ∀ name, ((u.entries.insertAll row).insertAll commands.entries).get? name =
      ((h.commands.get? name).map fun c => ⟨c, none⟩).or
        ((row.lookup name).or (u.entries.get? name)) := by
    intro name
    rw [Table.get?_insertAll hcommands, Table.get?_insertAll hroutines, ← Table.get?_mapValues]
    rfl
  refine ⟨{ u with entries := (u.entries.insertAll row).insertAll commands.entries },
    ?_, haliases, fun name c hc => ?_, fun name r hnone hr => ?_⟩
  · unfold vocabulary
    rw [hload]
    show (do
      let v ← (Builtin.register u h.routines.entries).mapError fun p => Failure.of (.signature p)
      return h.commands.entries.foldl
        (fun (v : Vocabulary) (e : Text × Command) => v.addCommand e.1 e.2) v) = _
    rw [hregister]
    exact congrArg Except.ok
      (Vocabulary.foldl_addCommand h.commands { u with entries := u.entries.insertAll row })
  · show Table.get? _ name = _
    rw [hget, hc]
    rfl
  · obtain ⟨entry, hentry, hlookup⟩ := Builtin.lookup_entries hrow hr
    refine ⟨entry, hentry, ?_⟩
    show Table.get? _ name = _
    rw [hget, hnone, hlookup]
    rfl

/-! ## What is under a name after requests -/

section Tables

variable {h h' : Host} {q : Request} {requests : List Request} {name : Text}

/-- A request does not touch what is under other names. -/
theorem get?_serve_of_ne (hq : h.serve q = .ok h') (hname : q.name? ≠ some name) :
    h'.commands.get? name = h.commands.get? name ∧
      h'.routines.get? name = h.routines.get? name := by
  cases q with
  | routine key r =>
    have hkey : name ≠ key := fun heq => hname (congrArg some heq.symm)
    rw [Host.serve, registerRoutine_eq] at hq
    split at hq
    · cases hq
      exact ⟨rfl, by rw [Table.get?_insert, if_neg hkey]⟩
    · cases hq
  | command key c =>
    have hkey : name ≠ key := fun heq => hname (congrArg some heq.symm)
    cases hq
    exact ⟨by rw [registerCommand, Table.get?_insert, if_neg hkey], rfl⟩
  | extension other =>
    simp only [Host.serve, loadExtension] at hq
    split at hq
    · cases hq
    · cases hq
      split <;> exact ⟨rfl, rfl⟩

/-- Nor do requests under other names, one after the other. -/
theorem get?_serveAll_of_ne (hserved : h.serveAll requests = .ok h')
    (hnames : ∀ q ∈ requests, q.name? ≠ some name) :
    h'.commands.get? name = h.commands.get? name ∧
      h'.routines.get? name = h.routines.get? name := by
  induction requests generalizing h with
  | nil =>
    cases hserved
    exact ⟨rfl, rfl⟩
  | cons q requests ih =>
    obtain ⟨hname, hrest⟩ := List.forall_mem_cons.1 hnames
    obtain ⟨between, hq, hserved⟩ := bind_eq_ok.1 hserved
    obtain ⟨hcommands, hroutines⟩ := get?_serve_of_ne hq hname
    obtain ⟨hcommands', hroutines'⟩ := ih hserved hrest
    exact ⟨hcommands'.trans hcommands, hroutines'.trans hroutines⟩

/-- Only a command is put among the commands. -/
theorem commands_serve_of_not_isCommand (hq : h.serve q = .ok h') (hkind : q.isCommand = false) :
    h'.commands = h.commands := by
  cases q with
  | routine key r =>
    rw [Host.serve, registerRoutine_eq] at hq
    split at hq
    · cases hq
      rfl
    · cases hq
  | command key c => cases hkind
  | extension other =>
    simp only [Host.serve, loadExtension] at hq
    split at hq
    · cases hq
    · cases hq
      split <;> rfl

/-- As long as no command of the name is served, none is found. -/
theorem commands_serveAll_eq_none (hserved : h.serveAll requests = .ok h')
    (hnone : h.commands.get? name = none)
    (hkind : ∀ q ∈ requests, q.isCommand = true → q.name? ≠ some name) :
    h'.commands.get? name = none := by
  induction requests generalizing h with
  | nil =>
    cases hserved
    exact hnone
  | cons q requests ih =>
    obtain ⟨hq', hrest⟩ := List.forall_mem_cons.1 hkind
    obtain ⟨between, hq, hserved⟩ := bind_eq_ok.1 hserved
    refine ih hserved ?_ hrest
    cases hcommand : q.isCommand with
    | true => rw [(get?_serve_of_ne hq (hq' hcommand)).1, hnone]
    | false => rw [commands_serve_of_not_isCommand hq hcommand, hnone]

/-- Requests that are served are served in two parts. -/
theorem serveAll_append {earlier later : List Request} :
    h.serveAll (earlier ++ later) = .ok h' ↔
      ∃ between, h.serveAll earlier = .ok between ∧ between.serveAll later = .ok h' := by
  unfold serveAll
  rw [List.foldlM_append]
  exact bind_eq_ok

/-- A sound host finds in its vocabulary what it served last under a name, unless that is a routine
and there is a command of this name. -/
theorem Sound.exists_entry {earlier between last : Host} (hlast : last.Sound)
    (hq : earlier.serve q = .ok between) {later : List Request}
    (hlater : between.serveAll later = .ok last) (hname : q.name? = some name)
    (hnames : ∀ q' ∈ later, q'.name? ≠ some name)
    (hkind : q.isCommand = true ∨ earlier.commands.get? name = none) :
    ∃ v entry, last.vocabulary = .ok v ∧ v.aliases = Vocabulary.builtins.aliases ∧
      q.registered? = some entry ∧ v.entries.get? name = some entry := by
  obtain ⟨v, hv, haliases, hcommands, hroutines⟩ := hlast.exists_vocabulary
  -- The later requests leave what both tables hold under this name.
  obtain ⟨hsameCommand, hsameRoutine⟩ := get?_serveAll_of_ne hlater hnames
  cases q with
  | extension other => cases hname
  | command key c =>
    cases hname
    cases hq
    refine ⟨v, ⟨c, none⟩, hv, haliases, rfl, hcommands _ c ?_⟩
    rw [hsameCommand, registerCommand, Table.get?_insert, if_pos rfl]
  | routine key r =>
    cases hname
    -- A command of this name would hide the routine in the vocabulary.
    have hnone : earlier.commands.get? name = none := hkind.resolve_left Bool.false_ne_true
    rw [Host.serve, registerRoutine_eq] at hq
    split at hq
    · cases hq
      obtain ⟨entry, hentry, hfound⟩ := hroutines name r (hsameCommand.trans hnone)
        (by rw [hsameRoutine, Table.get?_insert, if_pos rfl])
      exact ⟨v, entry, hv, haliases, by rw [Request.registered?, hentry]; rfl, hfound⟩
    · cases hq

end Tables

/-- Whether a host makes a session, on a fresh state or on a persisted one. -/
def Makes (h : Host) (s : Session) : Prop :=
  (∃ device, h.newSession device = .ok s) ∨ ∃ d device, h.restore d device = .ok s

theorem Makes.vocabulary {h : Host} {s : Session} (hs : h.Makes s) {v : Vocabulary}
    (hv : h.vocabulary = .ok v) : s.vocabulary = v := by
  rcases hs with ⟨device, hs⟩ | ⟨d, device, hs⟩
  · rw [newSession, hv] at hs
    cases hs
    rfl
  · obtain ⟨v', hv', hs⟩ := bind_eq_ok.1 hs
    obtain ⟨state, -, hs⟩ := bind_eq_ok.1 hs
    rw [hv] at hv'
    cases hv'
    cases hs
    rfl

end Host

open Host

/-- The registration that counts is the latest one. Let requests be served by a new host, all of
them, and let one be the last under the name that `name` is resolved to. If it is for a command, or
if no command was registered under that name before it, then in every later session `name` is known
and stands for what was registered then. -/
theorem latest_registration_counts [Platform] {limit : Option Int} {shelf : Shelf}
    {earlier later : List Request} {q : Request} {name : Text} {h : Host}
    (hserved : (Host.new limit shelf).serveAll (earlier ++ q :: later) = .ok h)
    (hname : q.name? = some (Vocabulary.builtins.resolve name))
    (hlater : ∀ q' ∈ later, q'.name? ≠ q.name?)
    (hkind : q.isCommand = true ∨ ∀ q' ∈ earlier, q'.isCommand = true → q'.name? ≠ q.name?) :
    ∃ v entry, h.vocabulary = .ok v ∧ q.registered? = some entry ∧
      ∀ s, h.Makes s → s.vocabulary = v ∧
        s.vocabulary.contains name = true ∧
        s.environment.command? name = some entry.command ∧
        s.vocabulary.signature? name = entry.signature := by
  have hsound : h.Sound := (new_sound limit shelf).serveAll hserved
  obtain ⟨before, hbefore, hrest⟩ := serveAll_append.1 hserved
  obtain ⟨between, hq, hlast⟩ := bind_eq_ok.1 hrest
  rw [hname] at hlater hkind
  have hnone : q.isCommand = true ∨
      before.commands.get? (Vocabulary.builtins.resolve name) = none :=
    hkind.imp_right fun hnone => commands_serveAll_eq_none hbefore rfl hnone
  obtain ⟨v, entry, hv, haliases, hentry, hfound⟩ :=
    hsound.exists_entry hq hlast hname hlater hnone
  have hresolved : v.entry? name = some entry := by
    rw [← hfound, Vocabulary.entry?, Vocabulary.resolve, haliases]
    rfl
  refine ⟨v, entry, hv, hentry, fun s hs => ?_⟩
  obtain rfl := hs.vocabulary hv
  refine ⟨rfl, ?_, ?_, ?_⟩
  · rw [Vocabulary.contains, hresolved]
    rfl
  · show s.vocabulary.command? name = _
    rw [Vocabulary.command?, hresolved]
    rfl
  · rw [Vocabulary.signature?, hresolved]
    rfl

/-- A routine that answers a number. -/
def answering (answer : Int) : Routine where
  name := "answering"
  parameters := []
  result := some .integer
  body _ := ⟨[], .ok (.number (.int answer))⟩

section

attribute [local instance] Platform.basic

/-- A routine under the name of a built-in command, after another one and a command of another name:
it is what the alias of that name stands for. -/
theorem latest_answer_counts :
    ∃ h, (Host.new none []).serveAll
        ([.routine "add" (answering 1), .command "answer" fun s => .done s] ++
          .routine "add" (answering 2) :: [.command "other" fun s => .done s]) = .ok h ∧
      ∃ v entry, h.vocabulary = .ok v ∧
        (Request.routine "add" (answering 2)).registered? = some entry ∧
        ∀ s, h.Makes s → s.vocabulary = v ∧
          s.vocabulary.contains "+" = true ∧
          s.environment.command? "+" = some entry.command ∧
          s.vocabulary.signature? "+" = entry.signature := by
  let earlier : List Request :=
    [.routine "add" (answering 1), .command "answer" fun s => .done s]
  let later : List Request := [.command "other" fun s => .done s]
  let q : Request := .routine "add" (answering 2)
  have hserved : ∃ h, (Host.new none []).serveAll (earlier ++ q :: later) = .ok h := ⟨_, rfl⟩
  obtain ⟨h, hserved⟩ := hserved
  have hname : q.name? = some (Vocabulary.builtins.resolve "+") := rfl
  have hlater : ∀ q' ∈ later, q'.name? ≠ q.name? := by simp [later, q, Request.name?]
  have hkind : ∀ q' ∈ earlier, q'.isCommand = true → q'.name? ≠ q.name? := by
    simp [earlier, q, Request.name?, Request.isCommand]
  exact ⟨h, hserved, latest_registration_counts hserved hname hlater (.inr hkind)⟩

end

/-- A name that is an alias does not stand for what is registered under it. -/
theorem not_latest_registration_counts :
    ¬∀ (limit : Option Int) (shelf : Shelf) (earlier later : List Request) (q : Request)
      (name : Text) (h : Host),
      (Host.new limit shelf).serveAll (earlier ++ q :: later) = .ok h →
      q.name? = some name → (∀ q' ∈ later, q'.name? ≠ q.name?) →
        ∃ v entry, h.vocabulary = .ok v ∧ q.registered? = some entry ∧
          v.entry? name = some entry := by
  intro hcounts
  obtain ⟨v, entry, hv, hentry, hfound⟩ :=
    hcounts none [] [] [] (.command "+" fun s => .done s) "+" _ rfl rfl nofun
  cases hv
  cases hentry
  -- what is found has the signature of the addition
  have hsignature := congrArg (fun found => (found.bind Entry.signature).isSome) hfound
  exact absurd hsignature (by decide)

end StackShell
