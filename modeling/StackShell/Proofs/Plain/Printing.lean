import StackShell.Program.Printer
import StackShell.Proofs.Plain.Basic
import StackShell.Proofs.Results

/-!
# Writing plain values

Plain values can be written as they stand in a source text, unless a number among them has too many
digits: that is the only way in which writing them fails.
-/

namespace StackShell

/-- The only fault of a number when it is written is its length. -/
theorem Number.text_eq_error {n : Number} {fault : Fault} (h : n.text = .error fault) :
    fault = .textTooLong none := by
  unfold Number.text at h
  split at h
  · cases h
  · cases h
    rfl

section

variable {fault : Fault}

mutual

theorem Value.source_eq_error (v : Value) (hv : v.Plain) (h : v.source = .error fault) :
    fault = .textTooLong none := by
  match v, hv with
  | .number n, _ => exact Number.text_eq_error h
  | .boolean _, _ => cases h
  | .string _, _ => cases h
  | .function [], _ => cases h
  | .function (s :: body), hv =>
    rcases bind_eq_error.1 h with h | ⟨first, -, h⟩
    · exact Statement.source_eq_error s hv.1 h
    · rcases bind_eq_error.1 h with h | ⟨rest, -, h⟩
      · exact Program.parts_eq_error body hv.2 h
      · cases h

theorem Statement.source_eq_error (s : Statement) (hs : s.Plain) (h : s.source = .error fault) :
    fault = .textTooLong none := by
  match s, hs with
  | .literal v _, hs => exact Value.source_eq_error v hs h
  | .load _ _, _ => cases h
  | .invoke _ _, _ => cases h
  | .store _ _, _ => cases h
  | .call none _, _ => cases h
  | .call (some _) _, _ => cases h
  | .conditional branches otherwise, hs =>
    rcases bind_eq_error.1 h with h | ⟨parts, -, h⟩
    · exact Branch.parts_eq_error "if" branches hs.1 h
    · rcases bind_eq_error.1 h with h | ⟨last, -, h⟩
      · exact Program.otherwiseParts_eq_error otherwise hs.2 h
      · cases h
  | .whileLoop condition body, hs =>
    rcases bind_eq_error.1 h with h | ⟨c, -, h⟩
    · exact Program.parts_eq_error condition hs.1 h
    · rcases bind_eq_error.1 h with h | ⟨b, -, h⟩
      · exact Program.parts_eq_error body hs.2 h
      · cases h
  | .define _ body, hs =>
    rcases bind_eq_error.1 h with h | ⟨b, -, h⟩
    · exact Program.parts_eq_error body hs h
    · cases h

theorem Program.parts_eq_error (program : List Statement) (hprogram : Program.Plain program)
    (h : Program.parts program = .error fault) : fault = .textTooLong none := by
  match program, hprogram with
  | [], _ => cases h
  | s :: rest, hprogram =>
    rcases bind_eq_error.1 h with h | ⟨part, -, h⟩
    · exact Statement.source_eq_error s hprogram.1 h
    · rcases bind_eq_error.1 h with h | ⟨parts, -, h⟩
      · exact Program.parts_eq_error rest hprogram.2 h
      · cases h

theorem Program.otherwiseParts_eq_error (otherwise : Option (List Statement))
    (hotherwise : Program.OptionPlain otherwise)
    (h : Program.otherwiseParts otherwise = .error fault) : fault = .textTooLong none := by
  match otherwise, hotherwise with
  | none, _ => cases h
  | some body, hbody =>
    rcases bind_eq_error.1 h with h | ⟨b, -, h⟩
    · exact Program.parts_eq_error body hbody h
    · cases h

theorem Branch.words_eq_error (keyword : Text) (b : Branch) (hb : b.Plain)
    (h : Branch.words keyword b = .error fault) : fault = .textTooLong none := by
  match b, hb with
  | .mk condition body, hb =>
    rcases bind_eq_error.1 h with h | ⟨c, -, h⟩
    · exact Program.parts_eq_error condition hb.1 h
    · rcases bind_eq_error.1 h with h | ⟨b, -, h⟩
      · exact Program.parts_eq_error body hb.2 h
      · cases h

theorem Branch.parts_eq_error (keyword : Text) (branches : List Branch)
    (hbranches : Branch.AllPlain branches) (h : Branch.parts keyword branches = .error fault) :
    fault = .textTooLong none := by
  match branches, hbranches with
  | [], _ => cases h
  | b :: rest, hbranches =>
    rcases bind_eq_error.1 h with h | ⟨parts, -, h⟩
    · exact Branch.words_eq_error keyword b hbranches.1 h
    · rcases bind_eq_error.1 h with h | ⟨others, -, h⟩
      · exact Branch.parts_eq_error "elif" rest hbranches.2 h
      · cases h

end

/-- The only fault of a plain value when it is printed is the length of a number in it. -/
theorem Value.printed_eq_error {v : Value} (hv : v.Plain) (h : v.printed = .error fault) :
    fault = .textTooLong none := by
  unfold Value.printed at h
  split at h
  · cases h
  · exact v.source_eq_error hv h

end

end StackShell
