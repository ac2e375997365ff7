import StackShell.Program.Printer
import StackShell.Proofs.Numerals.Written
import StackShell.Proofs.Syntax.Shapes

/-!
# Programs as words

The source text of a program that was read is one word for each of its tokens, with single blanks
between them (`source_treesProgram`). Bodies that are empty leave no word, and so no blank.
-/

namespace StackShell.Syntax

open Program

/-! ## Words with blanks between them -/

/-- Words with single blanks between them. -/
def spaced (words : List (List CodePoint)) : List CodePoint :=
  [.char ' '].intercalate words

/-- Words as the continuation of a line. -/
def continued (words : List (List CodePoint)) : List CodePoint :=
  if words.isEmpty then [] else .char ' ' :: spaced words

theorem spaced_cons (word : List CodePoint) (words : List (List CodePoint)) :
    spaced (word :: words) = word ++ continued words := by
  cases words with
  | nil => simp [spaced, continued]
  | cons word' words => simp [spaced, continued, List.intercalate_cons_cons]

theorem continued_cons (word : List CodePoint) (words : List (List CodePoint)) :
    continued (word :: words) = .char ' ' :: spaced (word :: words) :=
  rfl

theorem spaced_append {words : List (List CodePoint)} (h : words ≠ [])
    (others : List (List CodePoint)) :
    spaced (words ++ others) = spaced words ++ continued others := by
  induction words with
  | nil => exact absurd rfl h
  | cons word words ih =>
    rw [List.cons_append, spaced_cons, spaced_cons, List.append_assoc]
    congr 1
    cases words with
    | nil => rfl
    | cons word' words =>
      rw [List.cons_append, continued_cons, continued_cons, ← List.cons_append, ih (by simp)]
      rfl

/-- Groups of words joined are their words joined. -/
theorem spaced_map_spaced {groups : List (List (List CodePoint))}
    (h : ∀ group ∈ groups, group ≠ []) :
    spaced (groups.map spaced) = spaced groups.flatten := by
  induction groups with
  | nil => rfl
  | cons group groups ih =>
    obtain ⟨hgroup, hgroups⟩ := List.forall_mem_cons.1 h
    rw [List.map_cons, spaced_cons, List.flatten_cons, spaced_append hgroup]
    congr 1
    cases groups with
    | nil => rfl
    | cons group' groups =>
      have hne : (group' :: groups).flatten ≠ [] := by
        simp [(List.forall_mem_cons.1 hgroups).1]
      rw [List.map_cons, continued_cons, ← List.map_cons, ih hgroups, continued,
        if_neg (by simpa using hne)]

/-- A group of words as text. -/
def groupText (words : List (List CodePoint)) : Text :=
  Text.ofList (spaced words)

theorem intercalate_groups {groups : List (List (List CodePoint))}
    (h : ∀ group ∈ groups, group ≠ []) :
    Text.intercalate " " (groups.map groupText) = groupText groups.flatten := by
  have htexts : (groups.map groupText).map Text.toList = groups.map spaced := by
    rw [List.map_map]
    rfl
  rw [groupText, ← spaced_map_spaced h, ← Text.toList_inj, Text.toList_intercalate, htexts]
  rfl

/-- Empty groups leave nothing. -/
theorem joinWords_groups {groups : List (List (List CodePoint))}
    (h : ∀ group ∈ groups, ∀ word ∈ group, word ≠ []) :
    joinWords (groups.map groupText) = groupText groups.flatten := by
  have hempty : ∀ group ∈ groups, (groupText group).isEmpty = group.isEmpty := by
    intro group hgroup
    cases group with
    | nil => rfl
    | cons word words =>
      have hword : word ≠ [] := h _ hgroup word List.mem_cons_self
      rw [groupText, spaced_cons, List.isEmpty_cons, Bool.eq_false_iff]
      simp [Text.isEmpty, hword]
  have hfilter : (groups.map groupText).filter (!·.isEmpty) =
      (groups.filter (!·.isEmpty)).map groupText := by
    rw [List.filter_map]
    congr 1
    apply List.filter_congr
    intro group hgroup
    simp [hempty group hgroup]
  have hne : ∀ group ∈ groups.filter (!·.isEmpty), group ≠ [] := by
    intro group hgroup
    simpa using (List.mem_filter.1 hgroup).2
  rw [joinWords, hfilter, intercalate_groups hne, List.flatten_filter_not_isEmpty]

/-! ## The words of tokens -/

/-- The word that a keyword is. -/
def keywordText : Keyword → Text
  | .ifWord => "if"
  | .thenWord => "then"
  | .elifWord => "elif"
  | .elseWord => "else"
  | .endWord => "end"
  | .whileWord => "while"
  | .doWord => "do"
  | .defWord => "def"
  | .fnWord => "fn"
  | .callWord => "@"
  | .trueWord => "true"
  | .falseWord => "false"

/-- The integer of a token is never too long to be written. -/
theorem natAbs_integerOf_lt (token : Lexeme) : (integerOf token).natAbs < Decimal.digitBound := by
  unfold integerOf
  cases h : Decimal.readInteger token.text with
  | ok n => exact Decimal.natAbs_lt_of_readInteger h
  | error e => exact Decimal.pow10_pos _

theorem Tree.tokens_ne_nil (tree : Tree) : tree.tokens ≠ [] := by
  cases tree <;> simp [Tree.tokens]

theorem treesTokens_eq_flatten (row : List Tree) :
    treesTokens row = (row.map Tree.tokens).flatten := by
  induction row with
  | nil => rfl
  | cons tree row ih => rw [treesTokens, ih, List.map_cons, List.flatten_cons]

variable [Platform]

/-- The word that is written for a token. Both ways to call a function off the stack are written in
the same way. -/
def wordOf (token : Lexeme) : List CodePoint :=
  match token.kind with
  | .integer => ((Decimal.integerText? (integerOf token)).getD "").toList
  | .real => (Decimal.realText (Decimal.readReal token.text)).toList
  | .string => (sourceString (stringOf token)).toList
  | .store => .char '=' :: token.text.drop 1
  | .namedCall => .char '@' :: token.text.drop 1
  | .atSign => [.char '@']
  | .keyword k => (keywordText k).toList
  | .word | .blank | .comment => token.text

theorem source_statementOf {isCommand : Text → Bool} (token : Atom) :
    (statementOf isCommand token.1).source = .ok (groupText [wordOf token.1]) := by
  obtain ⟨token, hatom⟩ := token
  have hgroup : groupText [wordOf token] = Text.ofList (wordOf token) := by
    rw [groupText, spaced_cons]
    simp [continued]
  rw [hgroup, statementOf, wordOf]
  cases hkind : token.kind with
  | integer =>
    have htext := Decimal.integerText?_eq (natAbs_integerOf_lt token)
    rw [htext, Option.getD_some, Text.ofList_toList]
    show (Number.int (integerOf token)).text = _
    rw [Number.text, Number.text?, htext]
  | real =>
    rw [Text.ofList_toList]
    rfl
  | string =>
    rw [Text.ofList_toList]
    rfl
  | store | namedCall | atSign => rfl
  | word =>
    dsimp only
    split <;> rfl
  | keyword k =>
    rw [hkind] at hatom
    cases k <;> first
      | exact absurd hatom (by decide)
      | rfl
  | blank | comment =>
    rw [hkind] at hatom
    cases hatom

/-! ## The words of trees -/

theorem groupText_mark {k : Keyword} (mark : Mark k) :
    groupText [wordOf mark.1] = keywordText k := by
  rw [groupText, spaced_cons, wordOf, mark.2]
  simp [continued]

theorem groupText_definition (opener : Mark .defWord) (name : Name) :
    groupText [wordOf opener.1, wordOf name.1] = "def " ++ Text.ofList name.1.text := by
  have hopener : wordOf opener.1 = ("def" : Text).toList := by
    rw [wordOf, opener.2]
    rfl
  have hname : wordOf name.1 = name.1.text := by
    rw [wordOf, name.2]
  have hspaced : spaced [("def" : Text).toList, name.1.text] =
      ("def " : Text).toList ++ name.1.text := by
    rw [spaced_cons, continued_cons, spaced_cons]
    simp [continued]
  rw [groupText, hopener, hname, hspaced, Text.ofList_append, Text.ofList_toList]

/-- The texts of a row of trees joined are its words joined. -/
theorem intercalate_trees (row : List Tree) :
    Text.intercalate " " (row.map fun tree => groupText (tree.tokens.map wordOf)) =
      groupText ((treesTokens row).map wordOf) := by
  have hne : ∀ group ∈ row.map fun tree => tree.tokens.map wordOf, group ≠ [] := by
    intro group hgroup
    obtain ⟨tree, -, rfl⟩ := List.mem_map.1 hgroup
    simpa using tree.tokens_ne_nil
  have h := intercalate_groups hne
  rw [List.map_map] at h
  rw [treesTokens_eq_flatten, List.map_flatten, List.map_map]
  exact h

section

variable {isCommand : Text → Bool}

/-- The text of a branch whose parts have their texts. -/
theorem words_branch {condition body : List Tree} {keyword : Text}
    (hc : Program.parts (treesProgram isCommand condition) =
      .ok (condition.map fun tree => groupText (tree.tokens.map wordOf)))
    (hb : Program.parts (treesProgram isCommand body) =
      .ok (body.map fun tree => groupText (tree.tokens.map wordOf))) :
    Branch.words keyword (.mk (treesProgram isCommand condition) (treesProgram isCommand body)) =
      .ok [keyword, groupText ((treesTokens condition).map wordOf), "then",
        groupText ((treesTokens body).map wordOf)] := by
  rw [Branch.words, hc]
  show (Program.parts (treesProgram isCommand body) >>= _) = _
  rw [hb]
  show Except.ok _ = _
  rw [intercalate_trees, intercalate_trees]

/-- Groups that hold the words of some tokens are written as these words. -/
theorem joinWords_tokens {parts : List Text} (groups : List (List (List CodePoint)))
    {tokens : List Lexeme} (hparts : parts = groups.map groupText)
    (hgroups : groups.flatten = tokens.map wordOf) (h : ∀ token ∈ tokens, wordOf token ≠ []) :
    joinWords parts = groupText (tokens.map wordOf) := by
  have hne : ∀ group ∈ groups, ∀ word ∈ group, word ≠ [] := by
    intro group hgroup word hword
    have hmem : word ∈ groups.flatten := List.mem_flatten.2 ⟨group, hgroup, hword⟩
    rw [hgroups] at hmem
    obtain ⟨token, htoken, rfl⟩ := List.mem_map.1 hmem
    exact h token htoken
  rw [hparts, joinWords_groups hne, hgroups]

mutual

/-- A statement is written as the words of its tokens. -/
theorem source_tree (tree : Tree) (h : ∀ token ∈ tree.tokens, wordOf token ≠ []) :
    (tree.statement isCommand).source = .ok (groupText (tree.tokens.map wordOf)) := by
  cases tree with
  | atom token => exact source_statementOf token
  | conditional opener condition mark body tail =>
    have hc := parts_trees condition fun token ht => h token (by simp [Tree.tokens, ht])
    have hb := parts_trees body fun token ht => h token (by simp [Tree.tokens, ht])
    obtain ⟨arms, last, groups, harms, hlast, hgroups, hflatten⟩ :=
      parts_tail tail fun token ht => h token (by simp [Tree.tokens, ht])
    have hparts : Branch.parts "if" (.mk (treesProgram isCommand condition)
        (treesProgram isCommand body) :: tail.arms isCommand) =
        .ok ([("if" : Text), groupText ((treesTokens condition).map wordOf), "then",
          groupText ((treesTokens body).map wordOf)] ++ arms) := by
      rw [Branch.parts, words_branch hc hb]
      show (Branch.parts "elif" (tail.arms isCommand) >>= _) = _
      rw [harms]
      rfl
    rw [Tree.statement, Statement.source, hparts]
    show (Program.otherwiseParts (tail.otherwiseBody isCommand) >>= _) = _
    rw [hlast]
    show Except.ok _ = _
    congr 1
    -- What is left is that the groups of words flatten to those of the tokens.
    refine joinWords_tokens ([wordOf opener.1] :: (treesTokens condition).map wordOf ::
      [wordOf mark.1] :: (treesTokens body).map wordOf :: groups) ?_ ?_ h
    · simp only [List.map_cons, groupText_mark, ← hgroups]
      simp [keywordText]
    · simp [Tree.tokens, hflatten]
  | loop opener condition mark body closer =>
    have hc := parts_trees condition fun token ht => h token (by simp [Tree.tokens, ht])
    have hb := parts_trees body fun token ht => h token (by simp [Tree.tokens, ht])
    rw [Tree.statement, Statement.source, hc]
    show (Program.parts (treesProgram isCommand body) >>= _) = _
    rw [hb]
    show Except.ok _ = _
    rw [intercalate_trees, intercalate_trees]
    congr 1
    refine joinWords_tokens [[wordOf opener.1], (treesTokens condition).map wordOf,
      [wordOf mark.1], (treesTokens body).map wordOf, [wordOf closer.1]] ?_ ?_ h
    · simp only [List.map_cons, groupText_mark]
      rfl
    · simp [Tree.tokens]
  | definition opener name body closer =>
    have hb := parts_trees body fun token ht => h token (by simp [Tree.tokens, ht])
    rw [Tree.statement, Statement.source, hb]
    show Except.ok _ = _
    rw [intercalate_trees]
    congr 1
    refine joinWords_tokens [[wordOf opener.1, wordOf name.1],
      (treesTokens body).map wordOf, [wordOf closer.1]] ?_ ?_ h
    · simp only [List.map_cons, groupText_mark, groupText_definition]
      rfl
    · simp [Tree.tokens]
  | function opener body closer =>
    have hb := parts_trees body fun token ht => h token (by simp [Tree.tokens, ht])
    rw [Tree.statement, Statement.source, hb]
    show Except.ok _ = _
    rw [intercalate_trees]
    congr 1
    refine joinWords_tokens [[wordOf opener.1], (treesTokens body).map wordOf,
      [wordOf closer.1]] ?_ ?_ h
    · simp only [List.map_cons, groupText_mark]
      rfl
    · simp [Tree.tokens]
termination_by structural tree

/-- The branches after the first one are written as the words of their tokens. -/
theorem parts_tail (tail : Tail) (h : ∀ token ∈ tail.tokens, wordOf token ≠ []) :
    ∃ (arms last : List Text) (groups : List (List (List CodePoint))),
      Branch.parts "elif" (tail.arms isCommand) = .ok arms ∧
      Program.otherwiseParts (tail.otherwiseBody isCommand) = .ok last ∧
      arms ++ last ++ [("end" : Text)] = groups.map groupText ∧
      groups.flatten = tail.tokens.map wordOf := by
  cases tail with
  | elif opener condition mark body tail =>
    have hc := parts_trees condition fun token ht => h token (by simp [Tail.tokens, ht])
    have hb := parts_trees body fun token ht => h token (by simp [Tail.tokens, ht])
    obtain ⟨arms, last, groups, harms, hlast, hgroups, hflatten⟩ :=
      parts_tail tail fun token ht => h token (by simp [Tail.tokens, ht])
    refine ⟨[("elif" : Text), groupText ((treesTokens condition).map wordOf), "then",
      groupText ((treesTokens body).map wordOf)] ++ arms, last,
      [wordOf opener.1] :: (treesTokens condition).map wordOf :: [wordOf mark.1] ::
        (treesTokens body).map wordOf :: groups, ?_, hlast, ?_, ?_⟩
    · rw [Tail.arms, Branch.parts, words_branch hc hb]
      show (Branch.parts "elif" (tail.arms isCommand) >>= _) = _
      rw [harms]
      rfl
    · simp only [List.map_cons, groupText_mark, ← hgroups]
      simp [keywordText]
    · simp [Tail.tokens, hflatten]
  | otherwise opener body closer =>
    have hb := parts_trees body fun token ht => h token (by simp [Tail.tokens, ht])
    refine ⟨[], ["else", groupText ((treesTokens body).map wordOf)],
      [[wordOf opener.1], (treesTokens body).map wordOf, [wordOf closer.1]], rfl, ?_, ?_, ?_⟩
    · rw [Tail.otherwiseBody, Program.otherwiseParts, hb]
      show Except.ok _ = _
      rw [intercalate_trees]
    · simp only [List.map_cons, groupText_mark]
      rfl
    · simp [Tail.tokens]
  | close closer =>
    refine ⟨[], [], [[wordOf closer.1]], rfl, rfl, ?_, ?_⟩
    · simp only [List.map_cons, groupText_mark]
      rfl
    · simp [Tail.tokens]
termination_by structural tail

/-- Each statement is written as the words of its tokens. -/
theorem parts_trees (row : List Tree) (h : ∀ token ∈ treesTokens row, wordOf token ≠ []) :
    Program.parts (treesProgram isCommand row) =
      .ok (row.map fun tree => groupText (tree.tokens.map wordOf)) := by
  cases row with
  | nil => rfl
  | cons tree row =>
    have htree := source_tree tree fun token ht => h token (by simp [treesTokens, ht])
    have hrow := parts_trees row fun token ht => h token (by simp [treesTokens, ht])
    rw [treesProgram, Program.parts, htree]
    show (Program.parts (treesProgram isCommand row) >>= _) = _
    rw [hrow]
    rfl
termination_by structural row

end

/-- The source text of a program that was read is the words of its tokens, with single blanks
between them. -/
theorem source_treesProgram (row : List Tree) (h : ∀ token ∈ treesTokens row, wordOf token ≠ []) :
    Program.source (treesProgram isCommand row) =
      .ok (groupText ((treesTokens row).map wordOf)) := by
  rw [Program.source, parts_trees row h]
  show Except.ok _ = _
  rw [intercalate_trees]

end

end StackShell.Syntax
