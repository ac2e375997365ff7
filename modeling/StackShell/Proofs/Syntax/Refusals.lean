import StackShell.Proofs.Syntax.Meaning

/-!
# Why a source text cannot be read

A text that is read as no program is refused for one of a few reasons, all of them about a token of
the text, about the first character that starts no lexeme, or about its end (`parse_eq_error`). Once
the tokens derive trees, only a literal can be at fault, at whatever depth it stands
(`readBody_eq_error`).
-/

namespace StackShell.Syntax

open Program

/-- The token that does not fit is one of the row. -/
theorem takeAll_eq_error {r : Block.Reader} {row : List Lexeme} {token : Lexeme}
    (h : r.takeAll row = .error token) : token ∈ row := by
  induction row generalizing r with
  | nil => cases h
  | cons first row ih =>
    rw [Block.Reader.takeAll] at h
    split at h
    · exact List.mem_cons_of_mem _ (ih h)
    · cases h
      exact List.mem_cons_self

variable [Platform]

/-! ## Literals -/

section

variable {reading : Reading} {part : Text} {failure : Failure}

theorem leaves_eq_error {pending : List Pending}
    (h : reading.leaves part pending = .error failure) :
    ∃ token, .leaf token ∈ pending ∧ reading.atom part token = .error failure := by
  induction pending with
  | nil => cases h
  | cons p rest ih =>
    cases p with
    | leaf token =>
      rcases bind_eq_error.1 h with h | ⟨s, -, h⟩
      · exact ⟨token, List.mem_cons_self, h⟩
      · rcases bind_eq_error.1 h with h | ⟨others, -, h⟩
        · obtain ⟨token, hmem, hatom⟩ := ih h
          exact ⟨token, List.mem_cons_of_mem _ hmem, hatom⟩
        · cases h
    | ready s =>
      rcases bind_eq_error.1 h with h | ⟨others, -, h⟩
      · obtain ⟨token, hmem, hatom⟩ := ih h
        exact ⟨token, List.mem_cons_of_mem _ hmem, hatom⟩
      · cases h

/-- Only an atom stays a leaf. -/
theorem node_eq_leaf {tree : Tree} {token : Lexeme}
    (h : reading.node tree.node = .ok (.leaf token)) : token ∈ tree.tokens := by
  cases tree with
  | atom token' =>
    cases h
    exact List.mem_cons_self
  | conditional opener condition mark body tail =>
    obtain ⟨_, -, h⟩ := bind_eq_ok.1 h
    obtain ⟨_, -, h⟩ := bind_eq_ok.1 h
    cases h
  | loop opener condition mark body closer =>
    rw [Tree.node, Reading.node, nodes_bind] at h
    obtain ⟨_, -, h⟩ := bind_eq_ok.1 h
    rw [nodes_bind] at h
    obtain ⟨_, -, h⟩ := bind_eq_ok.1 h
    cases h
  | definition opener name body closer =>
    rw [Tree.node, Reading.node, nodes_bind] at h
    obtain ⟨_, -, h⟩ := bind_eq_ok.1 h
    cases h
  | function opener body closer =>
    rw [Tree.node, Reading.node, nodes_bind] at h
    obtain ⟨_, -, h⟩ := bind_eq_ok.1 h
    cases h

theorem mem_tokens_of_leaf {row : List Tree} {pending : List Pending} {token : Lexeme}
    (h : reading.nodes (treesNodes row) = .ok pending) (hmem : .leaf token ∈ pending) :
    token ∈ treesTokens row := by
  induction row generalizing pending with
  | nil =>
    cases h
    cases hmem
  | cons tree row ih =>
    obtain ⟨p, hp, h⟩ := bind_eq_ok.1 h
    obtain ⟨ps, hps, h⟩ := bind_eq_ok.1 h
    cases h
    rw [treesTokens, List.mem_append]
    rcases List.mem_cons.1 hmem with rfl | hmem
    · exact .inl (node_eq_leaf hp)
    · exact .inr (ih hps hmem)

/-- Whether one of the tokens is refused with the failure when it is read as a leaf. -/
def Refused (reading : Reading) (failure : Failure) (tokens : List Lexeme) : Prop :=
  ∃ token ∈ tokens, ∃ part, reading.atom part token = .error failure

theorem Refused.mono {tokens tokens' : List Lexeme} (h : Refused reading failure tokens)
    (hsubset : tokens ⊆ tokens') : Refused reading failure tokens' := by
  obtain ⟨token, hmem, hatom⟩ := h
  exact ⟨token, hsubset hmem, hatom⟩

/-- A part can be read unless a block in it cannot be or a leaf among its own is refused. -/
theorem readBody_refused {row : List Tree}
    (h : readBody reading part (treesNodes row) = .error failure)
    (hnodes : reading.nodes (treesNodes row) = .error failure →
      Refused reading failure (treesTokens row)) : Refused reading failure (treesTokens row) := by
  rcases bind_eq_error.1 h with h | ⟨pending, hpending, h⟩
  · exact hnodes h
  · obtain ⟨token, hmem, hatom⟩ := leaves_eq_error h
    exact ⟨token, mem_tokens_of_leaf hpending hmem, part, hatom⟩

/-- Two parts one after the other can be read unless one of them cannot be. -/
theorem readTwo_eq_error {α : Type} {first second : List Node} {next : Program → Program → α}
    (h : (reading.nodes first >>= fun ps => reading.leaves part ps >>= fun p =>
      reading.nodes second >>= fun ps => reading.leaves part ps >>= fun p' =>
        pure (next p p')) = .error failure) :
    readBody reading part first = .error failure ∨
      readBody reading part second = .error failure := by
  rw [nodes_bind] at h
  rcases bind_eq_error.1 h with h | ⟨_, -, h⟩
  · exact .inl h
  · rw [nodes_bind] at h
    rcases bind_eq_error.1 h with h | ⟨_, -, h⟩
    · exact .inr h
    · cases h

theorem branches_eq_error {condition body : List Node} {branches : List NodeBranch}
    (h : reading.branches (.mk condition body :: branches) = .error failure) :
    readBody reading innerPart condition = .error failure ∨
      readBody reading innerPart body = .error failure ∨
        reading.branches branches = .error failure := by
  rcases bind_eq_error.1 h with h | ⟨_, -, h⟩
  · rcases readTwo_eq_error h with h | h
    · exact .inl h
    · exact .inr (.inl h)
  · rcases bind_eq_error.1 h with h | ⟨_, -, h⟩
    · exact .inr (.inr h)
    · cases h

mutual

/-- The blocks of a tree can be read unless a token is refused. -/
theorem node_eq_error (tree : Tree) (h : reading.node tree.node = .error failure) :
    Refused reading failure tree.tokens := by
  cases tree with
  | atom token => cases h
  | conditional opener condition mark body tail =>
    -- the branches come before what is otherwise done
    have hparts : reading.branches (.mk (treesNodes condition) (treesNodes body) :: tail.branches) =
          .error failure ∨ reading.otherwise tail.last = .error failure := by
      rcases bind_eq_error.1 h with h | ⟨_, -, h⟩
      · exact .inl h
      · rcases bind_eq_error.1 h with h | ⟨_, -, h⟩
        · exact .inr h
        · cases h
    rcases hparts with h | h
    · rcases branches_eq_error h with h | h | h
      · exact (readBody_refused h (nodes_eq_error condition)).mono fun _ hmem => by
          simp [Tree.tokens, hmem]
      · exact (readBody_refused h (nodes_eq_error body)).mono fun _ hmem => by
          simp [Tree.tokens, hmem]
      · exact (tail_eq_error tail (.inl h)).mono fun _ hmem => by simp [Tree.tokens, hmem]
    · exact (tail_eq_error tail (.inr h)).mono fun _ hmem => by simp [Tree.tokens, hmem]
  | loop opener condition mark body closer =>
    rcases readTwo_eq_error h with h | h
    · exact (readBody_refused h (nodes_eq_error condition)).mono fun _ hmem => by
        simp [Tree.tokens, hmem]
    · exact (readBody_refused h (nodes_eq_error body)).mono fun _ hmem => by
        simp [Tree.tokens, hmem]
  | definition opener name body closer =>
    rw [Tree.node, Reading.node, nodes_bind] at h
    rcases bind_eq_error.1 h with h | ⟨_, -, h⟩
    · exact (readBody_refused h (nodes_eq_error body)).mono fun _ hmem => by
        simp [Tree.tokens, hmem]
    · cases h
  | function opener body closer =>
    rw [Tree.node, Reading.node, nodes_bind] at h
    rcases bind_eq_error.1 h with h | ⟨_, -, h⟩
    · exact (readBody_refused h (nodes_eq_error body)).mono fun _ hmem => by
        simp [Tree.tokens, hmem]
    · cases h
termination_by structural tree

/-- The same for what follows the first branch of a conditional. -/
theorem tail_eq_error (tail : Tail)
    (h : reading.branches tail.branches = .error failure ∨
      reading.otherwise tail.last = .error failure) :
    Refused reading failure tail.tokens := by
  cases tail with
  | elif opener condition mark body tail =>
    rcases h with h | h
    · rcases branches_eq_error h with h | h | h
      · exact (readBody_refused h (nodes_eq_error condition)).mono fun _ hmem => by
          simp [Tail.tokens, hmem]
      · exact (readBody_refused h (nodes_eq_error body)).mono fun _ hmem => by
          simp [Tail.tokens, hmem]
      · exact (tail_eq_error tail (.inl h)).mono fun _ hmem => by simp [Tail.tokens, hmem]
    · exact (tail_eq_error tail (.inr h)).mono fun _ hmem => by simp [Tail.tokens, hmem]
  | otherwise opener body closer =>
    rcases h with h | h
    · cases h
    · rw [Tail.last, Reading.otherwise, nodes_bind] at h
      rcases bind_eq_error.1 h with h | ⟨_, -, h⟩
      · exact (readBody_refused h (nodes_eq_error body)).mono fun _ hmem => by
          simp [Tail.tokens, hmem]
      · cases h
  | close closer => rcases h with h | h <;> cases h
termination_by structural tail

/-- The same for a row of trees. -/
theorem nodes_eq_error (row : List Tree) (h : reading.nodes (treesNodes row) = .error failure) :
    Refused reading failure (treesTokens row) := by
  cases row with
  | nil => cases h
  | cons tree row =>
    rcases bind_eq_error.1 h with h | ⟨_, -, h⟩
    · exact (node_eq_error tree h).mono fun _ hmem => by simp [treesTokens, hmem]
    · rcases bind_eq_error.1 h with h | ⟨_, -, h⟩
      · exact (nodes_eq_error row h).mono fun _ hmem => by simp [treesTokens, hmem]
      · cases h
termination_by structural row

end

end

/-! ## Source texts -/

/-- Why a source text of that name is refused. -/
inductive Refuses (source : Text) (file : Option Text) : Failure → Prop where
  /-- A token does not fit. -/
  | token {token : Lexeme} : token ∈ (Token.scan source).tokens →
      Refuses source file (.of (.parse ⟨.token (Text.ofList token.text), token.place, file⟩))
  /-- No lexeme starts with the character. -/
  | character {c : CodePoint} {place : Location} : (Token.scan source).stuck = some (c, place) →
      Refuses source file (.of (.parse ⟨.character c, place, file⟩))
  /-- A block is open at the end. -/
  | endOfInput (place : Location) :
      Refuses source file (.of (.parse ⟨.endOfInput, place, file⟩))
  /-- A string cannot be decoded. -/
  | string {token : Lexeme} {problem : Escape.Problem} : token ∈ (Token.scan source).tokens →
      token.kind = .string → Escape.decode (innerOf token) = .error problem →
        Refuses source file
          (.of (.parse ⟨.literal (Text.ofList token.text) problem, token.place, file⟩))
  /-- An integer has too many digits. -/
  | tooLong {token : Lexeme} (part : Text) {digits : Nat} :
      token ∈ (Token.scan source).tokens → token.kind = .integer →
        Decimal.readInteger token.text = .error (.tooLong digits) →
          Refuses source file (.fault (.literalTooLong part digits))
  /-- An integer is not written as one. -/
  | malformed {token : Lexeme} : token ∈ (Token.scan source).tokens → token.kind = .integer →
      Decimal.readInteger token.text = .error .malformed →
        Refuses source file (.fault (.notInteger (Text.ofList token.text)))

/-- A token that is refused as a leaf is a literal. -/
theorem refuses_of_atom {isCommand : Text → Bool} {source : Text} {file : Option Text}
    {part : Text} {token : Lexeme} {failure : Failure}
    (hmem : token ∈ (Token.scan source).tokens)
    (h : (Reading.mk isCommand file).atom part token = .error failure) :
    Refuses source file failure := by
  unfold Reading.atom at h
  cases hkind : token.kind with
  | integer =>
    simp only [hkind] at h
    rcases bind_eq_error.1 h with h | ⟨_, -, h⟩
    · unfold readIntegerToken at h
      split at h
      · cases h
      · next digits hdigits =>
        cases h
        exact .tooLong part hmem hkind hdigits
      · next hmalformed =>
        cases h
        exact .malformed hmem hkind hmalformed
    · cases h
  | string =>
    simp only [hkind] at h
    rcases bind_eq_error.1 h with h | ⟨_, -, h⟩
    · unfold readStringToken at h
      split at h
      · cases h
      · next problem hproblem =>
        cases h
        exact .string hmem hkind hproblem
    · cases h
  | keyword k =>
    simp only [hkind] at h
    cases k <;> cases h
  | real | store | namedCall | atSign | word | blank | comment =>
    simp only [hkind] at h
    cases h

/-- A source text that is not read as a program is refused for one of these reasons. -/
theorem parse_eq_error {isCommand : Text → Bool} {source : Text} {file : Option Text}
    {failure : Failure} (h : Program.parse isCommand source file = .error failure) :
    Refuses source file failure := by
  rcases bind_eq_error.1 h with h | ⟨nodes, hnodes, h⟩
  · unfold blocks at h
    dsimp only at h
    split at h
    · next token htoken =>
      cases h
      exact .token (takeAll_eq_error htoken)
    · split at h
      · next hstuck =>
        cases h
        exact .character hstuck
      · cases h
      · cases h
        exact .endOfInput _
  · obtain ⟨-, row, htokens, rfl⟩ := blocks_ok_iff.1 hnodes
    obtain ⟨token, hmem, part, hatom⟩ := readBody_refused h (nodes_eq_error row)
    rw [htokens] at hmem
    exact refuses_of_atom hmem hatom

end StackShell.Syntax
