import Mathlib.Data.List.Forall2
import StackShell.Command.Builtin
import StackShell.Proofs.Printing.RoundTrip

/-!
# Equality of functions

Two functions are equal to a script if their bodies are the same but for what their literals hold,
and the literals are the same in pairs. What is the same of two literals is not what is equal on the
stack: a boolean stands for the number that counts it (`functions_equal`).

A program is looked at in two parts for this: its *outline*, which is the program with nothing in
its literals, and the row of the literals in the order of the text. That bodies are alike is said of
these two parts (`Program.alike_iff`).
-/

namespace StackShell

/-! ## Outlines and literals -/

mutual

/-- A statement with nothing in its literals. -/
def Statement.outline : Statement → Statement
  | .literal _ place => .literal .absent place
  | .load name place => .load name place
  | .store name place => .store name place
  | .invoke name place => .invoke name place
  | .call name place => .call name place
  | .conditional branches otherwise =>
    .conditional (Branch.allOutlines branches) (Program.optionOutline otherwise)
  | .whileLoop condition body => .whileLoop (Program.outline condition) (Program.outline body)
  | .define name body => .define name (Program.outline body)
  | .stray => .stray
termination_by structural x => x

/-- A program with nothing in its literals. -/
def Program.outline : List Statement → List Statement
  | [] => []
  | s :: rest => Statement.outline s :: Program.outline rest
termination_by structural x => x

/-- A program that may be missing, with nothing in its literals. -/
def Program.optionOutline : Option (List Statement) → Option (List Statement)
  | none => none
  | some body => some (Program.outline body)
termination_by structural x => x

/-- A branch with nothing in its literals. -/
def Branch.outline : Branch → Branch
  | .mk condition body => .mk (Program.outline condition) (Program.outline body)
termination_by structural x => x

/-- Branches with nothing in their literals. -/
def Branch.allOutlines : List Branch → List Branch
  | [] => []
  | b :: rest => Branch.outline b :: Branch.allOutlines rest
termination_by structural x => x

end

mutual

/-- An outline has as many literals as what it is the outline of. -/
theorem Statement.length_literals_outline (s : Statement) :
    s.outline.literals.length = s.literals.length := by
  cases s with
  | conditional branches otherwise =>
    simp only [Statement.outline, Statement.literals, List.length_append,
      Branch.length_literals_outlines branches, Program.length_literals_optionOutline otherwise]
  | whileLoop condition body =>
    simp only [Statement.outline, Statement.literals, List.length_append,
      Program.length_literals_outline condition, Program.length_literals_outline body]
  | define name body => exact Program.length_literals_outline body
  | _ => rfl
termination_by structural s

theorem Program.length_literals_outline (program : List Statement) :
    (Program.literals (Program.outline program)).length = (Program.literals program).length := by
  cases program with
  | nil => rfl
  | cons s rest =>
    simp only [Program.outline, Program.literals, List.length_append,
      Statement.length_literals_outline s, Program.length_literals_outline rest]
termination_by structural program

theorem Program.length_literals_optionOutline (program : Option (List Statement)) :
    (Program.optionLiterals (Program.optionOutline program)).length =
      (Program.optionLiterals program).length := by
  cases program with
  | none => rfl
  | some body => exact Program.length_literals_outline body
termination_by structural program

theorem Branch.length_literals_outline (b : Branch) :
    b.outline.literals.length = b.literals.length := by
  obtain ⟨condition, body⟩ := b
  simp only [Branch.outline, Branch.literals, List.length_append,
    Program.length_literals_outline condition, Program.length_literals_outline body]
termination_by structural b

theorem Branch.length_literals_outlines (branches : List Branch) :
    (Branch.allLiterals (Branch.allOutlines branches)).length =
      (Branch.allLiterals branches).length := by
  cases branches with
  | nil => rfl
  | cons b rest =>
    simp only [Branch.allOutlines, Branch.allLiterals, List.length_append,
      Branch.length_literals_outline b, Branch.length_literals_outlines rest]
termination_by structural branches

end

/-! ## Alike in two parts -/

/-- Whether literals are alike in pairs. -/
def LiteralsAlike (values others : List Value) : Prop :=
  List.Forall₂ (fun v w => v.alike w = true) values others

/-- Literals are alike in two rows one after the other if they are in each, as long as the first
rows have as many. -/
theorem literalsAlike_append {first second first' second' : List Value}
    (h : first.length = first'.length) :
    LiteralsAlike (first ++ second) (first' ++ second') ↔
      LiteralsAlike first first' ∧ LiteralsAlike second second' := by
  unfold LiteralsAlike
  constructor
  · intro hall
    rw [List.forall₂_iff_zip, List.zip_append h, List.length_append, List.length_append] at hall
    obtain ⟨hlength, hall⟩ := hall
    refine ⟨List.forall₂_iff_zip.2 ⟨h, fun hmem => ?_⟩,
      List.forall₂_iff_zip.2 ⟨by omega, fun hmem => ?_⟩⟩
    · exact hall (List.mem_append_left _ hmem)
    · exact hall (List.mem_append_right _ hmem)
  · rintro ⟨hfirst, hsecond⟩
    exact List.rel_append hfirst hsecond

/-- Two parts with alike literals and the same outlines, put together. -/
theorem alike_parts {first second first' second' : List Value} {p q : Prop}
    (h : p → first.length = first'.length) :
    (p ∧ LiteralsAlike first first') ∧ (q ∧ LiteralsAlike second second') ↔
      (p ∧ q) ∧ LiteralsAlike (first ++ second) (first' ++ second') := by
  constructor
  · rintro ⟨⟨hp, hfirst⟩, hq, hsecond⟩
    exact ⟨⟨hp, hq⟩, (literalsAlike_append (h hp)).2 ⟨hfirst, hsecond⟩⟩
  · rintro ⟨⟨hp, hq⟩, hall⟩
    obtain ⟨hfirst, hsecond⟩ := (literalsAlike_append (h hp)).1 hall
    exact ⟨⟨hp, hfirst⟩, hq, hsecond⟩

theorem literalsAlike_nil : LiteralsAlike [] [] :=
  .nil

/-- Programs with one outline have the same number of literals. -/
theorem Program.length_literals_of_outline {program program' : List Statement}
    (h : Program.outline program = Program.outline program') :
    (Program.literals program).length = (Program.literals program').length := by
  rw [← Program.length_literals_outline program, h, Program.length_literals_outline]

mutual

/-- Statements are alike if they have one outline and their literals are alike. -/
theorem Statement.alike_iff (s t : Statement) :
    s.alike t = true ↔ s.outline = t.outline ∧ LiteralsAlike s.literals t.literals := by
  cases s with
  | literal v place =>
    cases t with
    | literal v' place' =>
      simp [Statement.alike, Statement.outline, Statement.literals, LiteralsAlike, and_comm]
    | _ => simp [Statement.alike, Statement.outline]
  | load name place | store name place | invoke name place | call name place =>
    cases t <;>
      simp [Statement.alike, Statement.outline, Statement.literals, LiteralsAlike]
  | conditional branches otherwise =>
    cases t with
    | conditional branches' otherwise' =>
      -- equal outlines have equally many literals, so the rows of literals split at the same point
      have hlength : Branch.allOutlines branches = Branch.allOutlines branches' →
          (Branch.allLiterals branches).length =
            (Branch.allLiterals branches').length := by
        intro h
        rw [← Branch.length_literals_outlines branches, h, Branch.length_literals_outlines]
      simp only [Statement.alike, Statement.outline, Statement.literals, Bool.and_eq_true,
        Branch.allAlike_iff branches branches', Program.optionAlike_iff otherwise otherwise',
        alike_parts hlength, Statement.conditional.injEq]
    | _ => simp [Statement.alike, Statement.outline]
  | whileLoop condition body =>
    cases t with
    | whileLoop condition' body' =>
      simp only [Statement.alike, Statement.outline, Statement.literals, Bool.and_eq_true,
        Program.alike_iff condition condition', Program.alike_iff body body',
        alike_parts Program.length_literals_of_outline, Statement.whileLoop.injEq]
    | _ => simp [Statement.alike, Statement.outline]
  | define name body =>
    cases t with
    | define name' body' =>
      simp only [Statement.alike, Statement.outline, Statement.literals, Bool.and_eq_true,
        Program.alike_iff body body', Statement.define.injEq, beq_iff_eq, and_assoc]
    | _ => simp [Statement.alike, Statement.outline]
  | stray =>
    cases t <;> simp [Statement.alike, Statement.outline, Statement.literals, literalsAlike_nil]
termination_by structural s

/-- Programs are alike if they have one outline and their literals are alike. -/
theorem Program.alike_iff (program program' : List Statement) :
    Program.alike program program' = true ↔
      Program.outline program = Program.outline program' ∧
        LiteralsAlike (Program.literals program) (Program.literals program') := by
  cases program with
  | nil =>
    cases program' <;> simp [Program.alike, Program.outline, Program.literals, literalsAlike_nil]
  | cons s rest =>
    cases program' with
    | nil => simp [Program.alike, Program.outline]
    | cons s' rest' =>
      have hlength : s.outline = s'.outline →
          s.literals.length = s'.literals.length := by
        intro h
        rw [← Statement.length_literals_outline s, h, Statement.length_literals_outline]
      simp only [Program.alike, Program.outline, Program.literals, Bool.and_eq_true,
        Statement.alike_iff s s', Program.alike_iff rest rest', alike_parts hlength,
        List.cons.injEq]
termination_by structural program

theorem Program.optionAlike_iff (program program' : Option (List Statement)) :
    Program.optionAlike program program' = true ↔
      Program.optionOutline program = Program.optionOutline program' ∧
        LiteralsAlike (Program.optionLiterals program) (Program.optionLiterals program') := by
  cases program with
  | none =>
    cases program' <;>
      simp [Program.optionAlike, Program.optionOutline, Program.optionLiterals, literalsAlike_nil]
  | some body =>
    cases program' with
    | none => simp [Program.optionAlike, Program.optionOutline]
    | some body' =>
      simp only [Program.optionAlike, Program.optionOutline, Program.optionLiterals,
        Program.alike_iff body body', Option.some.injEq]
termination_by structural program

theorem Branch.alike_iff (b b' : Branch) :
    b.alike b' = true ↔ b.outline = b'.outline ∧ LiteralsAlike b.literals b'.literals := by
  obtain ⟨condition, body⟩ := b
  obtain ⟨condition', body'⟩ := b'
  simp only [Branch.alike, Branch.outline, Branch.literals, Bool.and_eq_true,
    Program.alike_iff condition condition', Program.alike_iff body body',
    alike_parts Program.length_literals_of_outline, Branch.mk.injEq]
termination_by structural b

theorem Branch.allAlike_iff (branches branches' : List Branch) :
    Branch.allAlike branches branches' = true ↔
      Branch.allOutlines branches = Branch.allOutlines branches' ∧
        LiteralsAlike (Branch.allLiterals branches) (Branch.allLiterals branches') := by
  cases branches with
  | nil =>
    cases branches' <;>
      simp [Branch.allAlike, Branch.allOutlines, Branch.allLiterals, literalsAlike_nil]
  | cons b rest =>
    cases branches' with
    | nil => simp [Branch.allAlike, Branch.allOutlines]
    | cons b' rest' =>
      have hlength : b.outline = b'.outline →
          b.literals.length = b'.literals.length := by
        intro h
        rw [← Branch.length_literals_outline b, h, Branch.length_literals_outline]
      simp only [Branch.allAlike, Branch.allOutlines, Branch.allLiterals, Bool.and_eq_true,
        Branch.alike_iff b b', Branch.allAlike_iff rest rest', alike_parts hlength,
        List.cons.injEq]
termination_by structural branches

end

/-! ## Literals in pairs -/

/-- Whether a value is what is not a number. -/
def Value.isNaN : Value → Bool
  | .number n =>
    match n.exact with
    | .nan => true
    | _ => false
  | _ => false

/-- Whether one of two values is a boolean and the other the number that counts it. -/
def Value.countsAs : Value → Value → Bool
  | .boolean b, .number n => (countOf b).same n
  | .number n, .boolean b => n.same (countOf b)
  | _, _ => false

/-- Next to what is a number, numbers are alike if they are the same. -/
theorem Number.alike_eq_same {a : Number} (h : (Value.number a).isNaN = false) (b : Number) :
    a.alike b = a.same b := by
  unfold Number.alike
  simp only [Value.isNaN] at h
  split at h
  · cases h
  · next hnumber => cases ha : a.exact <;> simp_all

theorem isNaN_countOf (b : Bool) : (Value.number (countOf b)).isNaN = false := by
  cases b <;> rfl

/-- Values are alike if they are equal to a script, or if one counts the other. -/
theorem Value.alike_iff {v : Value} (hv : v.isNaN = false) (w : Value) :
    v.alike w = true ↔ v.equal w = true ∨ v.countsAs w = true := by
  cases v with
  | number n =>
    cases w with
    | number n' =>
      simp [Value.alike, Value.equal, Value.countsAs, Value.typeName, Number.alike_eq_same hv]
    | boolean b =>
      simp [Value.alike, Value.equal, Value.countsAs, Value.typeName, Number.alike_eq_same hv]
    | _ => simp [Value.alike, Value.equal, Value.countsAs, Value.typeName]
  | boolean b =>
    cases w with
    | number n =>
      simp [Value.alike, Value.equal, Value.countsAs, Value.typeName,
        Number.alike_eq_same (isNaN_countOf b)]
    | _ => simp [Value.alike, Value.equal, Value.countsAs, Value.typeName]
  | device d =>
    cases w with
    | device d' =>
      cases d <;> cases d' <;> decide
    | _ => simp [Value.alike, Value.equal, Value.countsAs]
  | _ => cases w <;> simp [Value.alike, Value.equal, Value.countsAs, Value.typeName]

/-- Rows are related in pairs by two relations alike if these say the same of each pair. -/
theorem forall₂_congr_zip {α β : Type} {R S : α → β → Prop} {as : List α} {bs : List β}
    (h : ∀ pair ∈ as.zip bs, R pair.1 pair.2 ↔ S pair.1 pair.2) :
    List.Forall₂ R as bs ↔ List.Forall₂ S as bs := by
  rw [List.forall₂_iff_zip, List.forall₂_iff_zip]
  exact and_congr_right fun _ => forall₂_congr fun a b => forall_congr' (h (a, b))

/-! ## The command -/

open Program

/-- The command that compares two values takes both off the stack and answers whether they are
equal. -/
theorem Vocabulary.command?_eq :
    ∃ eq, builtins.command? "eq" = some eq ∧ ∀ (s : State) (y x : Value) (rest : List Value),
      s.stack = x :: y :: rest → eq s = .done { s with stack := .boolean (y.equal x) :: rest } := by
  refine ⟨_, rfl, fun s y x rest hstack => ?_⟩
  show Routine.command _ _ _ s = _
  unfold Routine.command Signature.takeItems
  rw [hstack]
  rfl

/-- Whether two programs are the same but for what their literals hold, with the literals related in
pairs. -/
def Program.Corresponds (R : Value → Value → Prop) (p q : Program) : Prop :=
  Program.outline p = Program.outline q ∧ List.Forall₂ R (literals p) (literals q)

/-- Two functions are equal to a script if their bodies have one shape, with the same names and the
same places, and their literals in pairs are equal to a script, or one is a boolean and the other
the number that counts it. So equality is the same inside and outside of bodies, as long as no
boolean stands where the other function has the number that counts it. -/
theorem functions_equal {p q : Program} (hnan : ∀ v ∈ literals p ++ literals q, v.isNaN = false) :
    ∃ eq, Vocabulary.builtins.command? "eq" = some eq ∧
      (∀ (s : State) (y x : Value) (rest : List Value), s.stack = x :: y :: rest →
        eq s = .done { s with stack := .boolean (y.equal x) :: rest }) ∧
      ((Value.function p).equal (.function q) = true ↔
        p.Corresponds (fun v w => v.equal w = true ∨ v.countsAs w = true) q) ∧
      ((∀ pair ∈ (literals p).zip (literals q), pair.1.countsAs pair.2 = false) →
        ((Value.function p).equal (.function q) = true ↔
          p.Corresponds (fun v w => v.equal w = true) q)) := by
  obtain ⟨eq, heq, hanswers⟩ := Vocabulary.command?_eq
  have hequal : (Value.function p).equal (.function q) = true ↔
      p.Corresponds (fun v w => v.equal w = true ∨ v.countsAs w = true) q := by
    have hbodies : (Value.function p).equal (.function q) = Program.alike p q := rfl
    rw [hbodies, Program.alike_iff]
    refine and_congr_right fun _ => forall₂_congr_zip fun pair hpair => ?_
    have hleft : pair.1 ∈ literals p := (List.of_mem_zip hpair).1
    exact Value.alike_iff (hnan _ (List.mem_append_left _ hleft)) pair.2
  refine ⟨eq, heq, hanswers, hequal, fun hcounts => hequal.trans ?_⟩
  refine and_congr_right fun _ => forall₂_congr_zip fun pair hpair => ?_
  rw [hcounts pair hpair]
  simp

/-- A body with literals at several depths; `b` and `n` are what two of them hold. -/
def layered (b : Bool) (n : Int) : Program :=
  [.conditional [.mk [.literal (.boolean b) ⟨1, 4⟩] [.literal (.string "a") ⟨1, 9⟩]] (some []),
    .whileLoop [.load "x" ⟨2, 7⟩] [.define (some "f") [.literal (.int n) ⟨2, 20⟩]]]

theorem functions_equal_layered :
    (∀ v ∈ literals (layered true 1) ++ literals (layered true 0), v.isNaN = false) ∧
    (∀ pair ∈ (literals (layered true 1)).zip (literals (layered true 0)),
      pair.1.countsAs pair.2 = false) ∧
    ((Value.function (layered true 1)).equal (.function (layered true 0)) = true ↔
      (layered true 1).Corresponds (fun v w => v.equal w = true) (layered true 0)) := by
  have hnan : ∀ v ∈ literals (layered true 1) ++ literals (layered true 0), v.isNaN = false := by
    decide
  have hcounts : ∀ pair ∈ (literals (layered true 1)).zip (literals (layered true 0)),
      pair.1.countsAs pair.2 = false := by
    decide
  obtain ⟨eq, -, -, -, hequal⟩ := functions_equal hnan
  exact ⟨hnan, hcounts, hequal hcounts⟩

/-- Inside a body a boolean equals the number that counts it, which on the stack it does not. -/
example :
    (Value.function [.literal (.boolean true) ⟨1, 4⟩]).equal
        (.function [.literal (.int 1) ⟨1, 4⟩]) = true ∧
      (Value.boolean true).equal (.int 1) = false := by
  decide

end StackShell
