import StackShell.Proofs.Registration

/-!
# Registering with imports that are kept

A process imports an extension once: the import is kept, for all hosts, also where the host that
asked for it then refuses the extension. So a refused request leaves a trace after all, but not one
that is ever seen. As long as the imports that are kept are those that the shelf offers
(`Shelf.Offers`, which every request preserves), a host with them serves each request as it does
without them, and refuses the same ones.
-/

namespace StackShell

open Host (Request)

namespace Shelf

/-- The imports are what the shelf offers under their names. -/
def Offers (shelf : Shelf) (imports : Table Extension) : Prop :=
  ∀ name found, imports.get? name = some found → shelf.find? name = some found

variable {shelf : Shelf} {imports : Table Extension}

theorem offers_empty (shelf : Shelf) : shelf.Offers .empty := nofun

theorem Offers.insert (h : shelf.Offers imports) {name : Text} {found : Extension}
    (hfound : shelf.find? name = some found) : shelf.Offers (imports.insert name found) := by
  intro other found' hother
  rw [Table.get?_insert] at hother
  split at hother
  · next hname =>
    cases hother
    rw [hname, hfound]
  · exact h other found' hother

/-- To look among the imports first makes no difference. -/
theorem Offers.find?_cons (h : shelf.Offers imports) (name : Text) :
    Shelf.find? (imports :: shelf) name = shelf.find? name := by
  cases hkept : imports.get? name with
  | none => simp only [find?, List.findSome?_cons, hkept]
  | some found =>
    have hfound := h name found hkept
    unfold find? at hfound ⊢
    rw [List.findSome?_cons, hkept]
    split
    · rfl
    · next htext =>
      rw [if_neg htext] at hfound
      exact hfound.symm

end Shelf

/-- A host in a process that keeps what it has imported. -/
structure Registrar where
  host : Host
  imports : Table Extension

namespace Registrar

variable {g g' : Registrar}

/-- The host as it works: it looks among the imports first. -/
def working (g : Registrar) : Host :=
  { g.host with shelf := g.imports :: g.host.shelf }

/-- The imports once a request was looked into. A module that fails when it is imported is not
kept. -/
def importsAfter (g : Registrar) : Request → Table Extension
  | .extension name =>
    match g.working.shelf.find? name with
    | none | some (.broken _) => g.imports
    | some found => g.imports.insert name found
  | _ => g.imports

/-- Serves a request, or says why it is refused. -/
def serve (g : Registrar) (q : Request) : Registrar × Option Failure :=
  match g.working.serve q with
  | .ok h => (⟨{ h with shelf := g.host.shelf }, g.importsAfter q⟩, none)
  | .error failure => (⟨g.host, g.importsAfter q⟩, some failure)

/-- Serves requests in order, going on after those that are refused. -/
def attend (g : Registrar) (requests : List Request) : Registrar :=
  requests.foldl (fun g q => (g.serve q).1) g

/-- The requests that are not refused when they are served in order. -/
def accepted (g : Registrar) : List Request → List Request
  | [] => []
  | q :: requests =>
    if (g.serve q).2.isNone then q :: (g.serve q).1.accepted requests
    else (g.serve q).1.accepted requests

/-- Why requests are refused when they are served in order. -/
def refusals (g : Registrar) : List Request → List Failure
  | [] => []
  | q :: requests => (g.serve q).2.toList ++ (g.serve q).1.refusals requests

/-- A vocabulary with all that is registered. -/
def vocabulary (g : Registrar) : Except Failure Vocabulary :=
  g.working.vocabulary

/-- The imports are what the host's own shelf offers. -/
def Faithful (g : Registrar) : Prop :=
  g.host.shelf.Offers g.imports

/-! ## The imports make no difference -/

/-- A registrar keeps the host that its own host makes of a request, and refuses what that
refuses. -/
theorem Faithful.serve_eq (hg : g.Faithful) (q : Request) :
    g.serve q =
      match g.host.serve q with
      | .ok h => (⟨h, g.importsAfter q⟩, none)
      | .error failure => (⟨g.host, g.importsAfter q⟩, some failure) := by
  unfold serve
  cases q with
  | routine name r =>
    rw [Host.serve, Host.serve, Host.registerRoutine_eq, Host.registerRoutine_eq]
    cases r.entry name <;> rfl
  | command name c => rfl
  | extension name =>
    -- The imports are files of the host, so the name leads to the same file.
    have hfind : g.working.shelf.find? name = g.host.shelf.find? name := hg.find?_cons name
    simp only [Host.serve, Host.loadExtension, hfind]
    cases Vocabulary.empty.load name (g.host.shelf.find? name) with
    | mk v failure? =>
      cases failure? with
      | some failure => rfl
      | none =>
        -- An extension that is loaded twice is listed once.
        by_cases hknown : name ∈ g.host.extensions
        · simp [working, hknown]
        · simp [working, hknown]

theorem Faithful.importsAfter (hg : g.Faithful) (q : Request) :
    g.host.shelf.Offers (g.importsAfter q) := by
  cases q with
  | extension name =>
    have hfind : g.working.shelf.find? name = g.host.shelf.find? name := hg.find?_cons name
    simp only [Registrar.importsAfter, hfind]
    split
    · exact hg
    · exact hg
    · next found hfound => exact hg.insert hfound
  | _ => exact hg

/-- What a registrar serves, its host does, and the imports stay faithful. -/
theorem Faithful.serve (hg : g.Faithful) (hhost : g.host.Sound) (q : Request) :
    (g.serve q).1.Faithful ∧ (g.serve q).1.host.Sound := by
  have hoffers := hg.importsAfter q
  rw [hg.serve_eq]
  cases hq : g.host.serve q with
  | error failure => exact ⟨hoffers, hhost⟩
  | ok h =>
    obtain ⟨hsound, hshelf⟩ := hhost.serve hq
    refine ⟨?_, hsound⟩
    show Shelf.Offers h.shelf _
    rw [hshelf]
    exact hoffers

/-- Two registrars with one host, one of which serves only what the other accepts, end with one
host. -/
theorem Faithful.attend_accepted (hg : g.Faithful) (hg' : g'.Faithful) (hhost : g.host.Sound)
    (hsame : g'.host = g.host) (requests : List Request) :
    (g.attend requests).Faithful ∧ (g.attend requests).host.Sound ∧
      (g'.attend (g.accepted requests)).Faithful ∧
      (g'.attend (g.accepted requests)).host = (g.attend requests).host ∧
      g'.refusals (g.accepted requests) = [] := by
  induction requests generalizing g g' with
  | nil => exact ⟨hg, hhost, hg', hsame, rfl⟩
  | cons q requests ih =>
    obtain ⟨hnext, hnextHost⟩ := hg.serve hhost q
    obtain ⟨hnext', -⟩ := hg'.serve (hsame ▸ hhost) q
    have hserved := hg.serve_eq q
    have hserved' := hg'.serve_eq q
    rw [hsame] at hserved'
    cases hq : g.host.serve q with
    | error failure =>
      -- the other does not even hear of the request
      rw [hq] at hserved
      have hskipped : g.accepted (q :: requests) = (g.serve q).1.accepted requests := by
        rw [accepted, hserved]
        rfl
      have hnextSame : g'.host = (g.serve q).1.host := by rw [hserved, hsame]
      rw [hskipped]
      exact ih hnext hg' hnextHost hnextSame
    | ok h =>
      rw [hq] at hserved hserved'
      have hkept : g.accepted (q :: requests) = q :: (g.serve q).1.accepted requests := by
        rw [accepted, hserved]
        rfl
      obtain ⟨hfaithful, hsound, hfaithful', hlast, hrefusals⟩ :=
        ih hnext hnext' hnextHost (by rw [hserved, hserved'])
      rw [hkept]
      refine ⟨hfaithful, hsound, hfaithful', hlast, ?_⟩
      rw [refusals, hrefusals, hserved']
      rfl

/-- A vocabulary is built with the imports as without them. -/
theorem Faithful.vocabulary_eq (hg : g.Faithful) : g.vocabulary = g.host.vocabulary := by
  have hload : ∀ names v, Host.loadAll g.working.shelf v names =
      Host.loadAll g.host.shelf v names := by
    intro names
    induction names with
    | nil => exact fun v => rfl
    | cons name names ih =>
      intro v
      have hfind : g.working.shelf.find? name = g.host.shelf.find? name := hg.find?_cons name
      rw [Host.loadAll, Host.loadAll, hfind]
      split
      · rfl
      · next w hw => exact ih w
  unfold Registrar.vocabulary Host.vocabulary
  rw [hload]
  rfl

end Registrar

/-- Registration is all or nothing. Let a new host, in a process that has imported what it may,
serve any requests, whichever of them it refuses. It can build its vocabulary then, and the
vocabulary is that of a new host in another process that was only asked for what the first one
accepted, which refuses nothing of it. -/
theorem registration_all_or_nothing (limit : Option Int) {shelf : Shelf}
    {imports imports' : Table Extension} (h : shelf.Offers imports) (h' : shelf.Offers imports')
    (requests : List Host.Request) :
    let first : Registrar := ⟨.new limit shelf, imports⟩
    let other : Registrar := ⟨.new limit shelf, imports'⟩
    ∃ v, (first.attend requests).vocabulary = .ok v ∧
      other.refusals (first.accepted requests) = [] ∧
      (other.attend (first.accepted requests)).vocabulary = .ok v := by
  intro first other
  have hfirst : first.Faithful := h
  have hother : other.Faithful := h'
  obtain ⟨hlast, hsound, hlast', hsame, hrefusals⟩ :=
    hfirst.attend_accepted hother (Host.new_sound limit shelf) rfl requests
  obtain ⟨v, hv, -⟩ := hsound.exists_vocabulary
  refine ⟨v, ?_, hrefusals, ?_⟩
  · rw [hlast.vocabulary_eq, hv]
  · rw [hlast'.vocabulary_eq, hsame, hv]

/-- A shelf on which each extension is refused: one after its first operator, one that lists none,
and one that fails. -/
def patchyShelf : Shelf :=
  [.ofList [
    ("half", .operators [{ answering 1 with name := "op_one" }, answering 2]),
    ("mute", .unlisted),
    ("torn", .broken "torn")]]

/-- Of these requests only the last two are accepted, and the vocabulary is theirs. The other
process had imported one of the extensions before. -/
theorem registration_on_patchyShelf :
    patchyShelf.Offers .empty ∧ patchyShelf.Offers (Table.empty.insert "mute" .unlisted) ∧
      let requests : List Host.Request :=
        [.extension "half", .extension "mute", .extension "torn", .extension "gone",
          .routine "one" { answering 1 with result := none, givesStack := nofun },
          .routine "one" (answering 1),
          .command "same" fun s => .done s]
      let first : Registrar := ⟨.new none patchyShelf, .empty⟩
      let other : Registrar := ⟨.new none patchyShelf, Table.empty.insert "mute" .unlisted⟩
      (first.accepted requests).length = 2 ∧
      ∃ v, (first.attend requests).vocabulary = .ok v ∧
        other.refusals (first.accepted requests) = [] ∧
        (other.attend (first.accepted requests)).vocabulary = .ok v := by
  have hnone : patchyShelf.Offers .empty := Shelf.offers_empty patchyShelf
  have hmute : patchyShelf.Offers (Table.empty.insert "mute" .unlisted) := hnone.insert rfl
  exact ⟨hnone, hmute, rfl, registration_all_or_nothing none hnone hmute _⟩

end StackShell
