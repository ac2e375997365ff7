import StackShell.Proofs.Documents.Sessions

/-!
# Writing short values

A plain value in which all integers are short can be written as it stands in a source text, and so
can a stack of such values (`exists_stackLine`).
-/

namespace StackShell

theorem Number.exists_text {n : Number} (h : (Value.number n).Short) :
    ∃ text, n.text = .ok text := by
  cases n with
  | int n =>
    have hshort : n.natAbs < Decimal.digitBound := h
    exact ⟨_, by rw [Number.text, Number.text?, Decimal.integerText?, if_pos hshort]⟩
  | float x => exact ⟨_, rfl⟩

mutual

theorem Value.exists_source (v : Value) (hv : v.Plain) (h : v.Short) :
    ∃ text, v.source = .ok text := by
  match v, hv, h with
  | .number n, _, h => exact Number.exists_text h
  | .boolean _, _, _ => exact ⟨_, rfl⟩
  | .string _, _, _ => exact ⟨_, rfl⟩
  | .function [], _, _ => exact ⟨_, rfl⟩
  | .function (s :: body), hv, h =>
    obtain ⟨first, hfirst⟩ := Statement.exists_source s hv.1 h.1
    obtain ⟨rest, hrest⟩ := Program.exists_parts body hv.2 h.2
    exact ⟨_, bind_eq_ok.2 ⟨first, hfirst, bind_eq_ok.2 ⟨rest, hrest, rfl⟩⟩⟩

theorem Statement.exists_source (s : Statement) (hs : s.Plain) (h : s.Short) :
    ∃ text, s.source = .ok text := by
  match s, hs, h with
  | .literal v _, hs, h => exact Value.exists_source v hs h.1
  | .load _ _, _, _ => exact ⟨_, rfl⟩
  | .invoke _ _, _, _ => exact ⟨_, rfl⟩
  | .store _ _, _, _ => exact ⟨_, rfl⟩
  | .call none _, _, _ => exact ⟨_, rfl⟩
  | .call (some _) _, _, _ => exact ⟨_, rfl⟩
  | .conditional branches otherwise, hs, h =>
    obtain ⟨parts, hparts⟩ := Branch.exists_parts "if" branches hs.1 h.1
    obtain ⟨last, hlast⟩ := Program.exists_otherwiseParts otherwise hs.2 h.2
    exact ⟨_, bind_eq_ok.2 ⟨parts, hparts, bind_eq_ok.2 ⟨last, hlast, rfl⟩⟩⟩
  | .whileLoop condition body, hs, h =>
    obtain ⟨c, hc⟩ := Program.exists_parts condition hs.1 h.1
    obtain ⟨b, hb⟩ := Program.exists_parts body hs.2 h.2
    exact ⟨_, bind_eq_ok.2 ⟨c, hc, bind_eq_ok.2 ⟨b, hb, rfl⟩⟩⟩
  | .define _ body, hs, h =>
    obtain ⟨b, hb⟩ := Program.exists_parts body hs h
    exact ⟨_, bind_eq_ok.2 ⟨b, hb, rfl⟩⟩

theorem Program.exists_parts (program : List Statement) (hprogram : Program.Plain program)
    (h : Program.Short program) : ∃ parts, Program.parts program = .ok parts := by
  match program, hprogram, h with
  | [], _, _ => exact ⟨_, rfl⟩
  | s :: rest, hprogram, h =>
    obtain ⟨part, hpart⟩ := Statement.exists_source s hprogram.1 h.1
    obtain ⟨parts, hparts⟩ := Program.exists_parts rest hprogram.2 h.2
    exact ⟨_, bind_eq_ok.2 ⟨part, hpart, bind_eq_ok.2 ⟨parts, hparts, rfl⟩⟩⟩

theorem Program.exists_otherwiseParts (otherwise : Option (List Statement))
    (hotherwise : Program.OptionPlain otherwise) (h : Program.OptionShort otherwise) :
    ∃ parts, Program.otherwiseParts otherwise = .ok parts := by
  match otherwise, hotherwise, h with
  | none, _, _ => exact ⟨_, rfl⟩
  | some body, hbody, h =>
    obtain ⟨b, hb⟩ := Program.exists_parts body hbody h
    exact ⟨_, bind_eq_ok.2 ⟨b, hb, rfl⟩⟩

theorem Branch.exists_words (keyword : Text) (b : Branch) (hb : b.Plain) (h : b.Short) :
    ∃ words, Branch.words keyword b = .ok words := by
  match b, hb, h with
  | .mk condition body, hb, h =>
    obtain ⟨c, hc⟩ := Program.exists_parts condition hb.1 h.1
    obtain ⟨b, hb⟩ := Program.exists_parts body hb.2 h.2
    exact ⟨_, bind_eq_ok.2 ⟨c, hc, bind_eq_ok.2 ⟨b, hb, rfl⟩⟩⟩

theorem Branch.exists_parts (keyword : Text) (branches : List Branch)
    (hbranches : Branch.AllPlain branches) (h : Branch.AllShort branches) :
    ∃ parts, Branch.parts keyword branches = .ok parts := by
  match branches, hbranches, h with
  | [], _, _ => exact ⟨_, rfl⟩
  | b :: rest, hbranches, h =>
    obtain ⟨parts, hparts⟩ := Branch.exists_words keyword b hbranches.1 h.1
    obtain ⟨others, hothers⟩ := Branch.exists_parts "elif" rest hbranches.2 h.2
    exact ⟨_, bind_eq_ok.2 ⟨parts, hparts, bind_eq_ok.2 ⟨others, hothers, rfl⟩⟩⟩

end

/-- A stack of plain and short values can be shown on one line. -/
theorem exists_stackLine {s : State} (hplain : s.Plain) (hshort : s.Short) :
    ∃ line, stackLine s.stack = .ok line := by
  have hparts : ∀ values : List Value, (∀ v ∈ values, v.Plain ∧ v.Short) →
      ∃ parts, values.mapM Value.source = .ok parts := by
    intro values h
    induction values with
    | nil => exact ⟨[], rfl⟩
    | cons v values ih =>
      obtain ⟨hv, hvalues⟩ := List.forall_mem_cons.1 h
      obtain ⟨text, htext⟩ := v.exists_source hv.1 hv.2
      obtain ⟨parts, hparts⟩ := ih hvalues
      refine ⟨text :: parts, ?_⟩
      rw [List.mapM_cons, htext, hparts]
      rfl
  obtain ⟨parts, hparts⟩ := hparts s.stack.reverse fun v hv =>
    ⟨hplain.stack v (List.mem_reverse.1 hv), hshort.stack v (List.mem_reverse.1 hv)⟩
  unfold stackLine
  split
  · exact ⟨_, rfl⟩
  · exact ⟨_, bind_eq_ok.2 ⟨parts, hparts, rfl⟩⟩

end StackShell
