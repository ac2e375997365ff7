import StackShell.Proofs.Plain.Basic
import StackShell.Proofs.Syntax.Meaning

/-!
# Programs that are read are plain

A source text holds numbers, truth values and strings, and blocks around them; so every literal of
the program that it is read as is plain, at any depth. Every word in that program stands for a token
of the text, so that what holds of the statements of all tokens holds of all words in it.
-/

namespace StackShell.Syntax

variable {isCommand : Text → Bool} {good : Statement → Prop}

variable [Platform]

/-- The statement that a token stands for is a word with a plain literal, if any. -/
theorem statementOf_plainWith {token : Lexeme} (h : good (statementOf isCommand token)) :
    (statementOf isCommand token).PlainWith good := by
  revert h
  unfold statementOf
  cases token.kind with
  | integer | real | string => exact fun h => ⟨trivial, h⟩
  | store | namedCall | atSign => exact id
  | word | blank | comment =>
    dsimp only
    split <;> exact id
  | keyword k =>
    cases k with
    | trueWord | falseWord => exact fun h => ⟨trivial, h⟩
    | callWord => exact id
    | _ =>
      dsimp only
      split <;> exact id

mutual

theorem Tree.statement_plainWith (tree : Tree)
    (h : ∀ token ∈ tree.tokens, good (statementOf isCommand token)) :
    (tree.statement isCommand).PlainWith good := by
  match tree, h with
  | .atom token, h => exact statementOf_plainWith (h token.1 List.mem_cons_self)
  | .conditional _ condition _ body tail, h =>
    simp only [Tree.tokens, List.forall_mem_cons, List.forall_mem_append] at h
    obtain ⟨-, hcondition, -, hbody, htail⟩ := h
    obtain ⟨harms, hotherwise⟩ := tail.plainWith htail
    exact ⟨⟨⟨treesProgram_plainWith condition hcondition, treesProgram_plainWith body hbody⟩,
      harms⟩, hotherwise⟩
  | .loop _ condition _ body _, h =>
    simp only [Tree.tokens, List.forall_mem_cons, List.forall_mem_append] at h
    obtain ⟨-, hcondition, -, hbody, -⟩ := h
    exact ⟨treesProgram_plainWith condition hcondition, treesProgram_plainWith body hbody⟩
  | .definition _ _ body _, h =>
    simp only [Tree.tokens, List.forall_mem_cons, List.forall_mem_append] at h
    obtain ⟨-, -, hbody, -⟩ := h
    exact treesProgram_plainWith body hbody
  | .function _ body _, h =>
    simp only [Tree.tokens, List.forall_mem_cons, List.forall_mem_append] at h
    obtain ⟨-, hbody, -⟩ := h
    exact treesProgram_plainWith body hbody

theorem Tail.plainWith (tail : Tail)
    (h : ∀ token ∈ tail.tokens, good (statementOf isCommand token)) :
    Branch.AllPlainWith good (tail.arms isCommand) ∧
      Program.OptionPlainWith good (tail.otherwiseBody isCommand) := by
  match tail, h with
  | .elif _ condition _ body tail, h =>
    simp only [Tail.tokens, List.forall_mem_cons, List.forall_mem_append] at h
    obtain ⟨-, hcondition, -, hbody, htail⟩ := h
    obtain ⟨harms, hotherwise⟩ := tail.plainWith htail
    exact ⟨⟨⟨treesProgram_plainWith condition hcondition, treesProgram_plainWith body hbody⟩,
      harms⟩, hotherwise⟩
  | .otherwise _ body _, h =>
    simp only [Tail.tokens, List.forall_mem_cons, List.forall_mem_append] at h
    obtain ⟨-, hbody, -⟩ := h
    exact ⟨trivial, treesProgram_plainWith body hbody⟩
  | .close _, _ => exact ⟨trivial, trivial⟩

theorem treesProgram_plainWith (trees : List Tree)
    (h : ∀ token ∈ treesTokens trees, good (statementOf isCommand token)) :
    Program.PlainWith good (treesProgram isCommand trees) := by
  match trees, h with
  | [], _ => trivial
  | tree :: trees, h =>
    simp only [treesTokens, List.forall_mem_append] at h
    exact ⟨tree.statement_plainWith h.1, treesProgram_plainWith trees h.2⟩

end

end StackShell.Syntax

namespace StackShell.Program

open Syntax

/-- Every program that is read off a source text is plain, and its words are good if those are that
the tokens of the text stand for. -/
theorem parse_plainWith [Platform] {isCommand : Text → Bool} {good : Statement → Prop}
    {source : Text}
    {file : Option Text} {program : Program} (h : parse isCommand source file = .ok program)
    (hgood : ∀ token ∈ (Token.scan source).tokens, Converts token →
      good (statementOf isCommand token)) : Program.PlainWith good program := by
  obtain ⟨-, row, htokens, hconverts, rfl⟩ := parse_ok_iff.1 h
  refine treesProgram_plainWith row fun token htoken => ?_
  rw [htokens] at htoken
  exact hgood token htoken (hconverts token htoken)

end StackShell.Program
