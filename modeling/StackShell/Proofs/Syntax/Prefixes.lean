import StackShell.Proofs.Syntax.Meaning

/-!
# Beginnings of programs

The tokens of a program, up to some place: they are a program themselves, and then what follows is
one too (`exists_append_of_tokens`), or a block is open and the text ends too early
(`parse_of_beginning`). No beginning of a program is refused for any other reason.
-/

namespace StackShell.Syntax

namespace TreeReader

variable {r r' : TreeReader} {token : Lexeme}

theorem takeAll_append (r : TreeReader) (row rest : List Lexeme) :
    r.takeAll (row ++ rest) = (r.takeAll row).bind fun r => r.takeAll rest := by
  induction row generalizing r with
  | nil => rfl
  | cons token row ih =>
    rw [List.cons_append, takeAll, takeAll]
    cases r.take token with
    | none => rfl
    | some r => exact ih r

/-! ## Outside all blocks -/

/-- The trees outside all open blocks, in reverse. -/
def outermost (trees : List Tree) : List OpenLevel → List Tree
  | [] => trees
  | level :: levels => outermost level.before levels

/-- The trees that a reader holds outside all open blocks, in reverse. -/
def bottom : TreeReader → List Tree
  | .statements trees levels => outermost trees levels
  | .naming _ before levels => outermost before levels

theorem suffix_outermost_cons (tree : Tree) (trees : List Tree) (levels : List OpenLevel) :
    outermost trees levels <:+ outermost (tree :: trees) levels := by
  cases levels with
  | nil => exact List.suffix_cons tree trees
  | cons level levels => exact List.suffix_rfl

/-- A token that is taken undoes no tree outside all blocks. -/
theorem bottom_suffix_of_take (h : r.take token = some r') : r.bottom <:+ r'.bottom := by
  cases r with
  | naming opener before levels =>
    rw [take] at h
    split at h
    · cases h
      exact List.suffix_rfl
    · cases h
  | statements trees levels =>
    rw [take, accept] at h
    split at h
    · cases h
      exact suffix_outermost_cons _ _ _
    · split at h
      case h_5 k _ _ _ _ hkind =>
        cases levels with
        | nil => cases h
        | cons level levels =>
          -- what closes a block becomes a tree outside it, what separates its parts stays inside
          obtain ⟨part, before⟩ := level
          cases part <;> cases k <;> cases h <;> first
            | exact List.suffix_rfl
            | exact suffix_outermost_cons _ before levels
      case h_6 => cases h
      all_goals
        cases h
        exact List.suffix_rfl

theorem bottom_suffix_of_takeAll {row : List Lexeme} (h : r.takeAll row = some r') :
    r.bottom <:+ r'.bottom := by
  induction row generalizing r with
  | nil =>
    cases h
    exact List.suffix_rfl
  | cons token row ih =>
    obtain ⟨next, hnext, hrest⟩ := Option.bind_eq_some_iff.1 h
    exact (bottom_suffix_of_take hnext).trans (ih hrest)

end TreeReader

/-- What follows a row of trees in the tokens of trees is a row of trees. -/
theorem exists_append_of_tokens {row first : List Tree} {rest : List Lexeme}
    (h : treesTokens row = treesTokens first ++ rest) :
    ∃ second, row = first ++ second ∧ treesTokens second = rest := by
  have hrow := TreeReader.takeAll_tokens row
  rw [h, TreeReader.takeAll_append, TreeReader.takeAll_tokens first] at hrow
  have hsuffix : first.reverse <:+ row.reverse := TreeReader.bottom_suffix_of_takeAll hrow
  obtain ⟨second, rfl⟩ := List.reverse_suffix.1 hsuffix
  rw [treesTokens_append] at h
  exact ⟨second, rfl, List.append_cancel_left h⟩

open Program

/-- The tokens of a text that begins a program are a program, or the text ends too early. -/
theorem parse_of_beginning [Platform] (isCommand : Text → Bool) (file : Option Text) {source : Text}
    {more : List Lexeme} {row : List Tree} (hstuck : (Token.scan source).stuck = none)
    (hconverts : ∀ token ∈ (Token.scan source).tokens, Converts token)
    (hbegins : (Token.scan source).tokens ++ more = treesTokens row) :
    (∃ first, treesTokens first = (Token.scan source).tokens ∧
        Program.parse isCommand source file = .ok (treesProgram isCommand first)) ∨
      (∀ first, treesTokens first ≠ (Token.scan source).tokens) ∧
        ∃ failure, Program.parse isCommand source file = .error failure ∧
          failure.isIncomplete = true := by
  by_cases hfirst : ∃ first, treesTokens first = (Token.scan source).tokens
  · obtain ⟨first, hfirst⟩ := hfirst
    exact .inl ⟨first, hfirst, parse_ok_iff.2 ⟨hstuck, first, hfirst, hconverts, rfl⟩⟩
  · refine .inr ⟨not_exists.1 hfirst, ?_⟩
    -- the reader takes the tokens, as it takes those that follow, but holds an open block
    have hrow := TreeReader.takeAll_tokens row
    rw [← hbegins, TreeReader.takeAll_append] at hrow
    obtain ⟨t, ht, -⟩ := Option.bind_eq_some_iff.1 hrow
    have herase := TreeReader.takeAll_erase .empty (Token.scan source).tokens
    rw [ht, Option.map_some] at herase
    cases hr : Block.Reader.empty.takeAll (Token.scan source).tokens with
    | error token =>
      rw [show TreeReader.empty.erase = Block.Reader.empty from rfl, hr] at herase
      cases herase
    | ok r =>
      cases hfinish : r.finish? with
      | some nodes =>
        obtain ⟨first, hfirst', -⟩ := takeAll_eq_ok_iff.1 ⟨r, hr, hfinish⟩
        exact absurd ⟨first, hfirst'⟩ hfirst
      | none =>
        rw [Program.parse, blocks]
        dsimp only
        rw [hr, hstuck]
        dsimp only
        rw [hfinish]
        exact ⟨_, rfl, rfl⟩

end StackShell.Syntax
