import StackShell.Proofs.Plain.Basic
import StackShell.Proofs.Tables
import StackShell.Snapshot.Decode

/-!
# Persisted state comes back

Every plain value has a document, and reading that document gives the value back: the same numbers
of the same kind, the same bodies with the same places, and a missing last branch apart from an
empty one. The same holds of statements, programs and branches, and of whole states.
-/

namespace StackShell.Snapshot

/-! ## Values and programs -/

mutual

/-- Reading the document of a plain value gives the value back. -/
theorem decodeValue_encodeValue (v : Value) (h : v.Plain) :
    ∃ d, encodeValue v = .ok d ∧ decodeValue d = .ok v := by
  match v, h with
  | .number (.int n), _ => exact ⟨_, rfl, rfl⟩
  | .number (.float x), _ => exact ⟨_, rfl, rfl⟩
  | .boolean b, _ => exact ⟨_, rfl, rfl⟩
  | .string text, _ => exact ⟨_, rfl, rfl⟩
  | .function body, h =>
    obtain ⟨ds, hencode, hdecode⟩ := decodeStatements_encodeProgram body h
    refine ⟨tagged "function" [.mk "body" (.list ds)], ?_, ?_⟩
    · rw [encodeValue, hencode]
      rfl
    · show (do return Value.function (← decodeStatements ds)) = _
      rw [hdecode]
      rfl

/-- Reading the document of a plain statement gives the statement back. -/
theorem decodeStatement_encodeStatement (s : Statement) (h : s.Plain) :
    ∃ d, encodeStatement s = .ok d ∧ decodeStatement d = .ok s := by
  match s, h with
  | .literal v l, h =>
    obtain ⟨d, hencode, hdecode⟩ := decodeValue_encodeValue v h
    refine ⟨tagged "literal" [.mk "value" d, .mk "location" (place l)], ?_, ?_⟩
    · rw [encodeStatement, hencode]
      rfl
    · show (do let v ← decodeValue d; return Statement.literal v l) = _
      rw [hdecode]
      rfl
  | .load name l, _ => exact ⟨_, rfl, rfl⟩
  | .store name l, _ => exact ⟨_, rfl, rfl⟩
  | .invoke name l, _ => exact ⟨_, rfl, rfl⟩
  | .call none l, _ => exact ⟨_, rfl, rfl⟩
  | .call (some name) l, _ => exact ⟨_, rfl, rfl⟩
  | .conditional branches otherwise, h =>
    obtain ⟨bs, hencode, hdecode⟩ := decodeEachBranch_encodeBranches branches h.1
    obtain ⟨o, hencode', hdecode'⟩ := decodeOtherwise_encodeOtherwise otherwise h.2
    refine ⟨tagged "conditional" [.mk "branches" (.list bs), .mk "otherwise" o], ?_, ?_⟩
    · rw [encodeStatement, hencode, hencode']
      rfl
    · show (do
          let branches ← decodeEachBranch bs
          let otherwise ← decodeOtherwise o
          return Statement.conditional branches otherwise) = _
      rw [hdecode, hdecode']
      rfl
  | .whileLoop condition body, h =>
    obtain ⟨cs, hencode, hdecode⟩ := decodeStatements_encodeProgram condition h.1
    obtain ⟨bs, hencode', hdecode'⟩ := decodeStatements_encodeProgram body h.2
    refine ⟨tagged "while" [.mk "condition" (.list cs), .mk "body" (.list bs)], ?_, ?_⟩
    · rw [encodeStatement, hencode, hencode']
      rfl
    · show (do
          let condition ← decodeStatements cs
          let body ← decodeStatements bs
          return Statement.whileLoop condition body) = _
      rw [hdecode, hdecode']
      rfl
  | .define name body, h =>
    obtain ⟨bs, hencode, hdecode⟩ := decodeStatements_encodeProgram body h
    refine ⟨tagged "def" [.mk "name" (optionalName name), .mk "body" (.list bs)], ?_, ?_⟩
    · rw [encodeStatement, hencode]
      rfl
    · cases name with
      | none =>
        show (do let body ← decodeStatements bs; return Statement.define none body) = _
        rw [hdecode]
        rfl
      | some name =>
        show (do let body ← decodeStatements bs; return Statement.define (some name) body) = _
        rw [hdecode]
        rfl

/-- Reading the documents of plain statements gives the statements back. -/
theorem decodeStatements_encodeProgram (program : List Statement) (h : Program.Plain program) :
    ∃ ds, encodeProgram program = .ok ds ∧ decodeStatements ds = .ok program := by
  match program, h with
  | [], _ => exact ⟨[], rfl, rfl⟩
  | s :: rest, h =>
    obtain ⟨d, hencode, hdecode⟩ := decodeStatement_encodeStatement s h.1
    obtain ⟨ds, hencode', hdecode'⟩ := decodeStatements_encodeProgram rest h.2
    refine ⟨d :: ds, ?_, ?_⟩
    · rw [encodeProgram, hencode, hencode']
      rfl
    · rw [decodeStatements, hdecode, hdecode']
      rfl

/-- A last branch that is missing stays missing, and an empty one stays empty. -/
theorem decodeOtherwise_encodeOtherwise (otherwise : Option (List Statement))
    (h : Program.OptionPlain otherwise) :
    ∃ d, encodeOtherwise otherwise = .ok d ∧ decodeOtherwise d = .ok otherwise := by
  match otherwise, h with
  | none, _ => exact ⟨.null, rfl, rfl⟩
  | some body, h =>
    obtain ⟨ds, hencode, hdecode⟩ := decodeStatements_encodeProgram body h
    refine ⟨.list ds, ?_, ?_⟩
    · rw [encodeOtherwise, hencode]
      rfl
    · rw [decodeOtherwise, hdecode]
      rfl

/-- Reading the document of a plain branch gives the branch back. -/
theorem decodeBranch_encodeBranch (b : Branch) (h : b.Plain) :
    ∃ d, encodeBranch b = .ok d ∧ decodeBranch d = .ok b := by
  match b, h with
  | .mk condition body, h =>
    obtain ⟨cs, hencode, hdecode⟩ := decodeStatements_encodeProgram condition h.1
    obtain ⟨bs, hencode', hdecode'⟩ := decodeStatements_encodeProgram body h.2
    refine ⟨.object [.mk "condition" (.list cs), .mk "body" (.list bs)], ?_, ?_⟩
    · rw [encodeBranch, hencode, hencode']
      rfl
    · show (do
          let condition ← decodeStatements cs
          let body ← decodeStatements bs
          return Branch.mk condition body) = _
      rw [hdecode, hdecode']
      rfl

/-- Reading the documents of plain branches gives the branches back. -/
theorem decodeEachBranch_encodeBranches (branches : List Branch) (h : Branch.AllPlain branches) :
    ∃ ds, encodeBranches branches = .ok ds ∧ decodeEachBranch ds = .ok branches := by
  match branches, h with
  | [], _ => exact ⟨[], rfl, rfl⟩
  | b :: rest, h =>
    obtain ⟨d, hencode, hdecode⟩ := decodeBranch_encodeBranch b h.1
    obtain ⟨ds, hencode', hdecode'⟩ := decodeEachBranch_encodeBranches rest h.2
    refine ⟨d :: ds, ?_, ?_⟩
    · rw [encodeBranches, hencode, hencode']
      rfl
    · rw [decodeEachBranch, hdecode, hdecode']
      rfl

end

/-! ## States -/

/-- Reading the documents of plain values gives the values back. -/
theorem mapM_decodeValue_encodeValue {values : List Value} (h : Value.AllPlain values) :
    ∃ ds, values.mapM encodeValue = .ok ds ∧ ds.mapM decodeValue = .ok values := by
  induction values with
  | nil => exact ⟨[], rfl, rfl⟩
  | cons v values ih =>
    obtain ⟨hv, hvalues⟩ := List.forall_mem_cons.1 h
    obtain ⟨d, hencode, hdecode⟩ := decodeValue_encodeValue v hv
    obtain ⟨ds, hencode', hdecode'⟩ := ih hvalues
    refine ⟨d :: ds, ?_, ?_⟩
    · rw [List.mapM_cons, hencode, hencode']
      rfl
    · rw [List.mapM_cons, hdecode, hdecode']
      rfl

/-- Reading the fields of plain variables gives the variables back, in order. -/
theorem decodeVariables_encodeVariables {entries : List (Text × Value)}
    (h : ∀ name v, (name, v) ∈ entries → v.Plain) :
    ∃ fields, encodeVariables entries = .ok fields ∧ decodeVariables fields = .ok entries := by
  induction entries with
  | nil => exact ⟨[], rfl, rfl⟩
  | cons e entries ih =>
    obtain ⟨name, v⟩ := e
    obtain ⟨d, hencode, hdecode⟩ := decodeValue_encodeValue v (h name v List.mem_cons_self)
    obtain ⟨fields, hencode', hdecode'⟩ :=
      ih fun name v hmem => h name v (List.mem_cons_of_mem _ hmem)
    refine ⟨.mk name d :: fields, ?_, ?_⟩
    · rw [encodeVariables, hencode, hencode']
      rfl
    · rw [decodeVariables, hdecode, hdecode']
      rfl

/-- A plain state is persisted, and its stack and variables come back. -/
theorem restore_encode {s : State} (h : s.Plain) (device : Device) :
    ∃ d, encode s = .ok d ∧
      restore d device =
        .ok { State.initial device with stack := s.stack, bindings := s.bindings } := by
  obtain ⟨fields, hencode, hdecode⟩ := decodeVariables_encodeVariables h.bindings
  -- values are persisted from the bottom to the top, the reverse of the stack
  have hvalues : Value.AllPlain s.values := h.stack.reverse
  obtain ⟨values, hencode', hdecode'⟩ := mapM_decodeValue_encodeValue hvalues
  refine ⟨.object [.mk "version" (.int version), .mk "variables" (.object fields),
    .mk "stack" (.list values)], ?_, ?_⟩
  · rw [encode, hencode, hencode']
    rfl
  · have hcontent : decodeContent [.mk "version" (.int version), .mk "variables" (.object fields),
        .mk "stack" (.list values)] = .ok (s.bindings.entries, s.values) := by
      show (do
          let bindings ← decodeVariables fields
          let values ← values.mapM decodeValue
          return (bindings, values)) = _
      rw [hdecode, hdecode']
      rfl
    show (do
        let content ← (decodeContent [.mk "version" (.int version),
          .mk "variables" (.object fields), .mk "stack" (.list values)]).mapError reportMalformed
        return { State.initial device with
          bindings := .ofList content.1, stack := content.2.reverse }) = _
    rw [hcontent]
    -- the entries are put in again one by one, which is where distinct names are needed
    show Except.ok { State.initial device with
      bindings := .ofList s.bindings.entries, stack := s.stack.reverse.reverse } = _
    rw [Table.ofList_entries h.distinct, List.reverse_reverse]

end StackShell.Snapshot
