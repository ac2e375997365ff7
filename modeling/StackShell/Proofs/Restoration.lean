import Mathlib
import StackShell.Host.Basic
import StackShell.Proofs.Documents.Failures
import StackShell.Proofs.Plain.Basic
import StackShell.Proofs.Tables

/-!
# What persisted state is restored to

Any text may be handed in to be restored. It gives a session on a plain state, or it is refused as
no persisted state; nothing else happens unless an integer in the text has too many digits, or a
place in the document has an infinite line or column (`Host.load_restores`).

The document may hold anything anywhere, so each decoder is described by what it does on every
document: what it gives is plain, and how it fails is one of three ways (`Snapshot.Decodes`). This
goes through when decoders follow each other.
-/

namespace StackShell

namespace Document

/-- A document is another one, or in it at any depth. -/
inductive Part (inner : Document) : Document → Prop where
  | whole : Part inner inner
  | item {item : Document} {items : List Document} : item ∈ items → Part inner item →
      Part inner (.list items)
  | field {f : Field} {fields : List Field} : f ∈ fields → Part inner f.value →
      Part inner (.object fields)

theorem Part.trans {inner middle outer : Document} (h : Part inner middle)
    (h' : Part middle outer) : Part inner outer := by
  induction h' with
  | whole => exact h
  | item hmem _ ih => exact .item hmem ih
  | field hmem _ ih => exact .field hmem ih

theorem Part.items {items : List Document} {whole : Document} (h : Part (.list items) whole) :
    ∀ item ∈ items, Part item whole :=
  fun _ hmem => (Part.item hmem .whole).trans h

theorem Part.fields {fields : List Field} {whole : Document} (h : Part (.object fields) whole) :
    ∀ f ∈ fields, Part f.value whole :=
  fun _ hmem => (Part.field hmem .whole).trans h

/-- Whether a document is an infinite number. -/
def isInfinite : Document → Bool
  | .float x =>
    match (Number.float x).exact with
    | .infinite _ => true
    | .finite .. | .nan => false
  | _ => false

/-- Whether some object of a document has a place with an infinite line or column. -/
def HasInfinitePlace (d : Document) : Prop :=
  ∃ fields line column, Part (.object fields) d ∧
    lookup "location" fields = some (.list [line, column]) ∧
    (line.isInfinite = true ∨ column.isInfinite = true)

end Document

namespace Snapshot

/-- How restoring a document may fail: as a problem of the format, as a fault that is reported as
one, or at an infinite place. -/
inductive Fails (whole : Document) : Failure → Prop where
  | codec (problem : CodecProblem) : Fails whole (.of (.codec problem))
  | malformed {fault : Fault} : isMalformed fault = true → Fails whole (.fault fault)
  | infinite : whole.HasInfinitePlace → Fails whole (.fault .infiniteInteger)

/-- What a decoder makes of a part of a document: something good, or a failure of the document. -/
def Decodes {α : Type} (whole : Document) (good : α → Prop) : Except Failure α → Prop
  | .ok a => good a
  | .error failure => Fails whole failure

section

variable {α β : Type} {whole : Document} {good : α → Prop} {good' : β → Prop}
  {result : Except Failure α}

theorem Decodes.bind (h : Decodes whole good result) {next : α → Except Failure β}
    (hnext : ∀ a, good a → Decodes whole good' (next a)) :
    Decodes whole good' (result >>= next) := by
  cases result with
  | ok a => exact hnext a h
  | error failure => exact h

/-- Work on each item of a row gives good results only. -/
theorem Decodes.mapM {items : List Document} {decoder : Document → Except Failure α}
    (h : ∀ item ∈ items, Decodes whole good (decoder item)) :
    Decodes whole (fun results => ∀ a ∈ results, good a) (items.mapM decoder) := by
  induction items with
  | nil => exact fun a hmem => absurd hmem List.not_mem_nil
  | cons item items ih =>
    obtain ⟨hitem, hitems⟩ := List.forall_mem_cons.1 h
    rw [List.mapM_cons]
    exact hitem.bind fun a ha => (ih hitems).bind fun results hresults =>
      List.forall_mem_cons.2 ⟨ha, hresults⟩

end

/-! ## Leaves -/

section

variable {whole d : Document} {fields : List Field}

theorem decodes_missing {α : Type} {good : α → Prop} (name : Text) :
    Decodes whole good (missing name : Except Failure α) :=
  .malformed rfl

theorem decodes_noVariant {α : Type} {good : α → Prop} (d : Document) :
    Decodes whole good (noVariant d : Except Failure α) :=
  .malformed rfl

theorem decodes_noField {α : Type} {good : α → Prop} (d : Document) :
    Decodes whole good (noField d : Except Failure α) := by
  cases d <;> exact .malformed rfl

theorem decodes_required (name : Text) (h : (Document.object fields).Part whole) :
    Decodes whole (fun d => d.Part whole) (required name fields) := by
  unfold required
  split
  · next d hd =>
    obtain ⟨f, hf, rfl⟩ := Option.map_eq_some_iff.1 hd
    exact h.fields f (List.mem_of_find?_eq_some hf)
  · exact decodes_missing name

theorem decodes_expectBool (d : Document) : Decodes whole (fun _ => True) (expectBool d) := by
  cases d <;> first
    | trivial
    | exact .codec _

theorem decodes_expectString (d : Document) : Decodes whole (fun _ => True) (expectString d) := by
  cases d <;> first
    | trivial
    | exact .codec _

theorem decodes_expectOptionalString (d : Document) :
    Decodes whole (fun _ => True) (expectOptionalString d) := by
  cases d <;> first
    | trivial
    | exact .codec _

theorem decodes_expectNumber (d : Document) : Decodes whole (fun _ => True) (expectNumber d) := by
  cases d <;> first
    | trivial
    | exact .codec _

/-! ## Places -/

/-- Only an infinite number fails to become an integer in a way that is not reported. -/
theorem decodes_toInteger (h : d.isInfinite = true → whole.HasInfinitePlace) :
    Decodes whole (fun _ => True) (toInteger d) := by
  unfold toInteger
  split
  · trivial
  · trivial
  · split
    · trivial
    · next hinfinite =>
      refine .infinite (h ?_)
      rw [Document.isInfinite, hinfinite]
    · exact .malformed rfl
  · split
    · trivial
    · exact .malformed rfl
    · exact .malformed rfl
  · exact .malformed rfl

/-- The characters of a string and the names of an object are strings. -/
theorem eq_list_of_parts? {parts : List Document} (h : parts? d = some parts) :
    d = .list parts ∨ ∀ part ∈ parts, part.isInfinite = false := by
  cases d with
  | list items =>
    cases h
    exact .inl rfl
  | string text =>
    cases h
    right
    intro part hpart
    obtain ⟨c, -, rfl⟩ := List.mem_map.1 hpart
    rfl
  | object fields =>
    cases h
    right
    intro part hpart
    obtain ⟨f, -, rfl⟩ := List.mem_map.1 hpart
    rfl
  | null | bool | int | float => cases h

theorem decodes_placeOf (h : (Document.object fields).Part whole) :
    Decodes whole (fun _ => True) (placeOf fields) := by
  unfold placeOf
  cases hplace : Document.lookup "location" fields with
  | none => trivial
  | some place =>
    rw [Option.getD_some]
    unfold decodePlace
    split
    · trivial
    · split
      · exact .malformed rfl
      · next line column hparts =>
        have hinfinite : line.isInfinite = true ∨ column.isInfinite = true →
            whole.HasInfinitePlace := by
          intro hinfinite
          -- The parts of a text are characters: only those of a list can be infinite.
          rcases eq_list_of_parts? hparts with rfl | hfinite
          · exact ⟨fields, line, column, h, hplace, hinfinite⟩
          · obtain ⟨hline, hcolumn⟩ : line.isInfinite = false ∧ column.isInfinite = false :=
              ⟨hfinite _ (by simp), hfinite _ (by simp)⟩
            simp [hline, hcolumn] at hinfinite
        exact (decodes_toInteger fun hline => hinfinite (.inl hline)).bind fun _ _ =>
          (decodes_toInteger fun hcolumn => hinfinite (.inr hcolumn)).bind fun _ _ => trivial
      · split <;> exact .malformed rfl

end

/-! ## Values and programs -/

section

variable {whole : Document}

mutual

/-- A value that is read is plain. -/
theorem decodes_value (d : Document) (h : d.Part whole) :
    Decodes whole Value.Plain (decodeValue d) := by
  cases d with
  | object fields =>
    rw [decodeValue]
    split
    · exact (decodes_required _ h).bind fun _ _ => (decodes_expectBool _).bind fun _ _ => trivial
    · exact (decodes_required _ h).bind fun _ _ => (decodes_expectNumber _).bind fun _ _ => trivial
    · exact (decodes_required _ h).bind fun _ _ => (decodes_expectString _).bind fun _ _ => trivial
    · exact (decodes_programUnder "body" fields h.fields).bind fun _ hbody => hbody
    · exact .codec _
  | null | bool | int | float | string | list => exact decodes_noVariant _
termination_by structural d

theorem decodes_statement (d : Document) (h : d.Part whole) :
    Decodes whole Statement.Plain (decodeStatement d) := by
  cases d with
  | object fields =>
    have hnamed : ∀ {build : Text → Location → Statement},
        (∀ name place, (build name place).Plain) →
          Decodes whole Statement.Plain (do
            let name ← expectString (← required "name" fields)
            return build name (← placeOf fields)) := fun hbuild =>
      (decodes_required _ h).bind fun _ _ => (decodes_expectString _).bind fun name _ =>
        (decodes_placeOf h).bind fun place _ => hbuild name place
    -- one case for each tag of a statement; `hnamed` serves the three that have a name only
    rw [decodeStatement]
    split
    · exact (decodes_valueUnder "value" fields h.fields).bind fun _ hvalue =>
        (decodes_placeOf h).bind fun _ _ => hvalue
    · exact hnamed fun _ _ => trivial
    · exact hnamed fun _ _ => trivial
    · exact hnamed fun _ _ => trivial
    · exact (decodes_required _ h).bind fun _ _ => (decodes_expectOptionalString _).bind fun _ _ =>
        (decodes_placeOf h).bind fun _ _ => trivial
    · exact (decodes_branchesUnder "branches" fields h.fields).bind fun _ hbranches =>
        (decodes_otherwiseUnder "otherwise" fields h.fields).bind fun _ hotherwise =>
          ⟨hbranches, hotherwise⟩
    · exact (decodes_programUnder "condition" fields h.fields).bind fun _ hcondition =>
        (decodes_programUnder "body" fields h.fields).bind fun _ hbody => ⟨hcondition, hbody⟩
    · exact (decodes_required _ h).bind fun _ _ => (decodes_expectOptionalString _).bind fun _ _ =>
        (decodes_programUnder "body" fields h.fields).bind fun _ hbody => hbody
    · exact .codec _
  | null | bool | int | float | string | list => exact decodes_noVariant _
termination_by structural d

theorem decodes_program (d : Document) (h : d.Part whole) :
    Decodes whole Program.Plain (decodeProgram d) := by
  cases d with
  | list items => exact decodes_statements items h.items
  | null | bool | int | float | string | object => exact .codec _
termination_by structural d

theorem decodes_statements (items : List Document) (h : ∀ item ∈ items, item.Part whole) :
    Decodes whole Program.Plain (decodeStatements items) := by
  cases items with
  | nil => trivial
  | cons d rest =>
    obtain ⟨hd, hrest⟩ := List.forall_mem_cons.1 h
    exact (decodes_statement d hd).bind fun _ hs => (decodes_statements rest hrest).bind
      fun _ hothers => ⟨hs, hothers⟩
termination_by structural items

theorem decodes_valueUnder (name : Text) (fields : List Field)
    (h : ∀ f ∈ fields, f.value.Part whole) :
    Decodes whole Value.Plain (valueUnder name fields) := by
  cases fields with
  | nil => exact decodes_missing name
  | cons f rest =>
    obtain ⟨hf, hrest⟩ := List.forall_mem_cons.1 h
    cases f with
    | mk key d =>
      rw [valueUnder]
      split
      · exact decodes_value d hf
      · exact decodes_valueUnder name rest hrest
termination_by structural fields

theorem decodes_programUnder (name : Text) (fields : List Field)
    (h : ∀ f ∈ fields, f.value.Part whole) :
    Decodes whole Program.Plain (programUnder name fields) := by
  cases fields with
  | nil => exact decodes_missing name
  | cons f rest =>
    obtain ⟨hf, hrest⟩ := List.forall_mem_cons.1 h
    cases f with
    | mk key d =>
      rw [programUnder]
      split
      · exact decodes_program d hf
      · exact decodes_programUnder name rest hrest
termination_by structural fields

theorem decodes_otherwiseUnder (name : Text) (fields : List Field)
    (h : ∀ f ∈ fields, f.value.Part whole) :
    Decodes whole Program.OptionPlain (otherwiseUnder name fields) := by
  cases fields with
  | nil => trivial
  | cons f rest =>
    obtain ⟨hf, hrest⟩ := List.forall_mem_cons.1 h
    cases f with
    | mk key d =>
      rw [otherwiseUnder]
      split
      · exact decodes_otherwise d hf
      · exact decodes_otherwiseUnder name rest hrest
termination_by structural fields

theorem decodes_otherwise (d : Document) (h : d.Part whole) :
    Decodes whole Program.OptionPlain (decodeOtherwise d) := by
  cases d with
  | null => trivial
  | list items => exact (decodes_statements items h.items).bind fun _ hbody => hbody
  | bool | int | float | string | object => exact .codec _
termination_by structural d

theorem decodes_branchesUnder (name : Text) (fields : List Field)
    (h : ∀ f ∈ fields, f.value.Part whole) :
    Decodes whole Branch.AllPlain (branchesUnder name fields) := by
  cases fields with
  | nil => exact decodes_missing name
  | cons f rest =>
    obtain ⟨hf, hrest⟩ := List.forall_mem_cons.1 h
    cases f with
    | mk key d =>
      rw [branchesUnder]
      split
      · exact decodes_branches d hf
      · exact decodes_branchesUnder name rest hrest
termination_by structural fields

theorem decodes_branches (d : Document) (h : d.Part whole) :
    Decodes whole Branch.AllPlain (decodeBranches d) := by
  cases d with
  | list items => exact decodes_eachBranch items h.items
  | null | bool | int | float => exact .malformed rfl
  | string | object =>
    rw [decodeBranches]
    · split
      · exact .malformed rfl
      · trivial
      · exact decodes_noField _
    · intro items heq
      cases heq
termination_by structural d

theorem decodes_eachBranch (items : List Document) (h : ∀ item ∈ items, item.Part whole) :
    Decodes whole Branch.AllPlain (decodeEachBranch items) := by
  cases items with
  | nil => trivial
  | cons d rest =>
    obtain ⟨hd, hrest⟩ := List.forall_mem_cons.1 h
    exact (decodes_branch d hd).bind fun _ hb => (decodes_eachBranch rest hrest).bind
      fun _ hothers => ⟨hb, hothers⟩
termination_by structural items

theorem decodes_branch (d : Document) (h : d.Part whole) :
    Decodes whole Branch.Plain (decodeBranch d) := by
  cases d with
  | object fields =>
    exact (decodes_programUnder "condition" fields h.fields).bind fun _ hcondition =>
      (decodes_programUnder "body" fields h.fields).bind fun _ hbody => ⟨hcondition, hbody⟩
  | string | list => exact .malformed rfl
  | null | bool | int | float => exact .malformed rfl
termination_by structural d

end

end

/-! ## States -/

section

variable {whole : Document}

/-- The variables that are read are plain. -/
theorem decodes_variables (fields : List Field) (h : ∀ f ∈ fields, f.value.Part whole) :
    Decodes whole (fun bindings => ∀ binding ∈ bindings, binding.2.Plain)
      (decodeVariables fields) := by
  induction fields with
  | nil => exact fun binding hmem => absurd hmem List.not_mem_nil
  | cons f rest ih =>
    obtain ⟨hf, hrest⟩ := List.forall_mem_cons.1 h
    obtain ⟨name, d⟩ := f
    exact (decodes_value d hf).bind fun _ hv => (ih hrest).bind fun _ hothers =>
      List.forall_mem_cons.2 ⟨hv, hothers⟩

/-- Beside variables that are plain, what is read of the stack is plain. -/
theorem decodes_stack {fields : List Field} (h : (Document.object fields).Part whole)
    {bindings : List (Text × Value)} (hbindings : ∀ binding ∈ bindings, binding.2.Plain) :
    Decodes whole
      (fun content => (∀ binding ∈ content.1, binding.2.Plain) ∧ Value.AllPlain content.2)
      (do
        let values ← match ← required "stack" fields with
          | .list items => items.mapM decodeValue
          | d => unexpected .list d
        return (bindings, values)) := by
  refine (decodes_required "stack" h).bind fun d hd => ?_
  cases d with
  | list items =>
    have hvalues : Decodes whole Value.AllPlain (items.mapM decodeValue) :=
      Decodes.mapM fun item hitem => decodes_value item (hd.items item hitem)
    exact hvalues.bind fun _ hvalues => ⟨hbindings, hvalues⟩
  | null | bool | int | float | string | object => exact .codec _

/-- The variables and the values that are read are plain. -/
theorem decodes_content {fields : List Field} (h : (Document.object fields).Part whole) :
    Decodes whole
      (fun content => (∀ binding ∈ content.1, binding.2.Plain) ∧ Value.AllPlain content.2)
      (decodeContent fields) := by
  refine (decodes_required "variables" h).bind fun d hd => ?_
  cases d with
  | object inner =>
    exact (decodes_variables inner hd.fields).bind fun _ hbindings => decodes_stack h hbindings
  | null | bool | int | float | string | list => exact .codec _

end

/-- Why a document is refused as a state: it is no persisted state, or it has an infinite place. -/
def Refuses (d : Document) (failure : Failure) : Prop :=
  (∃ problem, failure = .of (.codec problem)) ∨
    failure = .fault .infiniteInteger ∧ d.HasInfinitePlace

/-- Of the faults only that of an infinite place is not reported as a problem of the format. -/
theorem Fails.refuses {d : Document} {failure : Failure} (h : Fails d failure) :
    Refuses d (reportMalformed failure) := by
  cases h with
  | codec problem => exact .inl ⟨problem, rfl⟩
  | malformed hmalformed =>
    rw [reportMalformed, if_pos hmalformed]
    exact .inl ⟨_, rfl⟩
  | infinite hplace => exact .inr ⟨rfl, hplace⟩

/-- A document that is not refused gives plain variables and values. -/
theorem decode_cases (d : Document) :
    (∃ bindings values, decode d = .ok (bindings, values) ∧
        (∀ binding ∈ bindings, binding.2.Plain) ∧ Value.AllPlain values) ∨
      ∃ failure, decode d = .error failure ∧ Refuses d failure := by
  cases d with
  | object fields =>
    rw [decode]
    split
    · have hwhole : (Document.object fields).Part (.object fields) := .whole
      have hcontent := decodes_content hwhole
      cases hresult : decodeContent fields with
      | ok content =>
        rw [hresult] at hcontent
        exact .inl ⟨content.1, content.2, rfl, hcontent⟩
      | error failure =>
        rw [hresult] at hcontent
        exact .inr ⟨_, rfl, hcontent.refuses⟩
    · exact .inr ⟨_, rfl, .inl ⟨_, rfl⟩⟩
  | null | bool | int | float | string | list => exact .inr ⟨_, rfl, .inl ⟨_, rfl⟩⟩

/-- Any document gives a plain state or is refused. -/
theorem restore_cases (d : Document) (device : Device) :
    (∃ s, restore d device = .ok s ∧ s.Plain) ∨
      ∃ failure, restore d device = .error failure ∧ Refuses d failure := by
  unfold restore
  rcases decode_cases d with ⟨bindings, values, hdecode, hbindings, hvalues⟩ | ⟨failure, hdecode, h⟩
  · rw [hdecode]
    refine .inl ⟨_, rfl, ⟨hvalues.reverse, ?_, Table.nodup_keys_ofList bindings⟩⟩
    intro name v hmem
    exact hbindings (name, v) (Table.mem_of_mem_ofList _ hmem)
  · rw [hdecode]
    exact .inr ⟨failure, rfl, h⟩

theorem plain_of_restore {d : Document} {device : Device} {s : State}
    (h : restore d device = .ok s) : s.Plain := by
  rcases restore_cases d device with ⟨s', hrestore, hplain⟩ | ⟨failure, hrestore, -⟩
  · rw [h] at hrestore
    cases hrestore
    exact hplain
  · rw [h] at hrestore
    cases hrestore

end Snapshot

/-- Restoring state from any text, on a host that can make sessions. The result is a session on a
plain state, or a failure of the persisted format; unless an integer in the text has too many
digits, or the text is a document with an infinite line or column in a place. -/
theorem Host.load_restores {h : Host} {v : Vocabulary} (hv : h.vocabulary = .ok v) (text : Text)
    (device : Device) :
    (∃ state, h.load text device = .ok (.on v h.limit state) ∧ state.Plain) ∨
      (∃ problem, h.load text device = .error (.of (.codec problem))) ∨
      (h.load text device = .error (.fault .infiniteInteger) ∧
        ∃ d, Document.read text = .ok d ∧ d.HasInfinitePlace) ∨
      ∃ digits, h.load text device = .error (.fault (.textTooLong (some digits))) ∧
        Document.LongRun digits text.toList := by
  have hload : h.load text device =
      (Document.read text >>= fun d => Snapshot.restore d device >>= fun state =>
        .ok (.on v h.limit state)) := by
    unfold load restore
    rw [hv]
    rfl
  rw [hload]
  cases hread : Document.read text with
  | error failure =>
    rcases Document.read_eq_error hread with ⟨detail, rfl⟩ | ⟨digits, rfl, hrun⟩
    · exact .inr (.inl ⟨_, rfl⟩)
    · exact .inr (.inr (.inr ⟨digits, rfl, hrun⟩))
  | ok d =>
    simp only [bind, Except.bind]
    rcases Snapshot.restore_cases d device with
      ⟨state, hrestore, hplain⟩ | ⟨failure, hrestore, ⟨problem, rfl⟩ | ⟨rfl, hplace⟩⟩
    · rw [hrestore]
      exact .inl ⟨state, rfl, hplain⟩
    · rw [hrestore]
      exact .inr (.inl ⟨problem, rfl⟩)
    · rw [hrestore]
      exact .inr (.inr (.inl ⟨rfl, d, rfl, hplace⟩))

/-- A persisted function with a word on line infinity. -/
def boundlessState : Text :=
  "\x7b\"version\": 1, \"variables\": \x7b\x7d, \"stack\": [\x7b\"type\": \"function\", " ++
    "\"body\": [\x7b\"type\": \"load\", \"name\": \"x\", \"location\": [Infinity, 1]\x7d]\x7d]\x7d"

set_option maxRecDepth 20000 in
/-- That state is not restored, and the place is why. -/
theorem Host.load_restores_no_boundless_state :
    (Host.new none []).vocabulary = .ok .builtins ∧
      (Host.new none []).load boundlessState .discard = .error (.fault .infiniteInteger) ∧
      ∃ d, Document.read boundlessState = .ok d ∧ d.HasInfinitePlace := by
  have hvocabulary : (Host.new none []).vocabulary = .ok .builtins := rfl
  have hread : Document.read boundlessState = .ok (.object
      [.mk "version" (.int 1), .mk "variables" (.object []), .mk "stack" (.list [.object
        [.mk "type" (.string "function"), .mk "body" (.list [.object
          [.mk "type" (.string "load"), .mk "name" (.string "x"),
            .mk "location" (.list [.float Decimal.infinity, .int 1])]])]])]) := by
    cbv
  rcases load_restores hvocabulary boundlessState .discard with
    ⟨state, hload, -⟩ | ⟨problem, hload⟩ | hinfinite | ⟨digits, hload, -⟩
  case inr.inr.inl => exact ⟨hvocabulary, hinfinite⟩
  all_goals
    rw [load, hread] at hload
    cases hload

end StackShell
