import StackShell.Proofs.Places.Basic
import StackShell.Proofs.Syntax.Cuts
import StackShell.Proofs.Syntax.Meaning

/-!
# Tokens up to their places

What a token contributes to a program, apart from where it stands: a mark its kind, an atom its
statement without its place. Two rows of trees stand for the same program without places exactly if
their tokens contribute the same (`shapes_of_unplaced`, `exists_trees_of_shapes`).
-/

namespace StackShell.Syntax

open Program

variable [Platform]

section

variable (isCommand : Text → Bool)

/-- What a token contributes to a program. -/
inductive Shape where
  | mark (kind : LexemeKind)
  | atom (s : Statement)

/-- What the token contributes. -/
def shape (token : Lexeme) : Shape :=
  if isAtom token.kind then .atom (statementOf isCommand token).unplaced else .mark token.kind

end

variable {isCommand : Text → Bool}

theorem shape_mark {k : Keyword} (hk : isAtom (.keyword k) = false) (mark : Mark k) :
    shape isCommand mark.1 = .mark (.keyword k) := by
  rw [shape, mark.2, hk]
  rfl

theorem shape_atom (token : Atom) :
    shape isCommand token.1 = .atom (statementOf isCommand token.1).unplaced := by
  rw [shape, if_pos token.2]

/-- Only a mark contributes what a mark does. -/
theorem kind_of_shape_mark {token : Lexeme} {kind : LexemeKind}
    (h : shape isCommand token = .mark kind) : token.kind = kind := by
  unfold shape at h
  split at h
  · cases h
  · exact Shape.mark.inj h

/-- Only an atom contributes what an atom does. -/
theorem isAtom_of_shape_atom {token : Lexeme} {s : Statement}
    (h : shape isCommand token = .atom s) :
    isAtom token.kind = true ∧ (statementOf isCommand token).unplaced = s := by
  unfold shape at h
  split at h
  · next hatom => exact ⟨hatom, Shape.atom.inj h⟩
  · cases h

theorem place?_statementOf (token : Lexeme) :
    (statementOf isCommand token).place? = some token.place := by
  unfold statementOf
  split <;> try rfl
  dsimp only
  split <;> rfl

/-- The word that a statement is. -/
def wordOf? : Statement → Option Text
  | .load name _ | .invoke name _ => some name
  | _ => none

/-- Only the statement of a word is one. -/
theorem wordOf?_statementOf {token : Lexeme} (hatom : isAtom token.kind = true) :
    wordOf? (statementOf isCommand token).unplaced =
      if token.kind = .word then some (Text.ofList token.text) else none := by
  rw [statementOf]
  cases hkind : token.kind with
  | word =>
    dsimp only
    split <;> rfl
  | keyword k =>
    rw [hkind] at hatom
    cases k <;> first
      | exact absurd hatom (by decide)
      | rfl
  | blank | comment =>
    rw [hkind] at hatom
    cases hatom
  | integer | real | string | store | namedCall | atSign => rfl

/-- Only a word contributes what a word does, and only the same word. -/
theorem word_of_shape {token token' : Lexeme} (hkind : token.kind = .word)
    (h : shape isCommand token' = shape isCommand token) :
    token'.kind = .word ∧ token'.text = token.text := by
  have hatom : isAtom token.kind = true := by
    rw [hkind]
    rfl
  obtain ⟨hatom', h⟩ := isAtom_of_shape_atom (h.trans (shape_atom ⟨token, hatom⟩))
  have hword := congrArg wordOf? h
  rw [wordOf?_statementOf hatom, wordOf?_statementOf hatom', if_pos hkind] at hword
  split at hword
  · next hkind' => exact ⟨hkind', Text.ofList_injective (Option.some.inj hword)⟩
  · cases hword

/-! ## Tokens by kind and text -/

/-- What a token contributes does not depend on its place. -/
theorem shape_bare {token token' : Lexeme} (h : Token.bare token' = Token.bare token) :
    shape isCommand token' = shape isCommand token := by
  obtain ⟨kind, text, place⟩ := token
  obtain ⟨kind', text', place'⟩ := token'
  obtain ⟨rfl, rfl⟩ := Prod.mk.inj h
  unfold shape
  by_cases hatom : isAtom kind' = true
  · rw [if_pos hatom, if_pos hatom]
    congr 1
    cases kind' with
    | integer | real | string | store | namedCall | atSign => rfl
    | word | blank | comment =>
      simp only [statementOf]
      split <;> rfl
    | keyword k =>
      cases k <;> first
        | rfl
        | exact absurd hatom Bool.false_ne_true
  · rw [if_neg hatom, if_neg hatom]

theorem shapes_of_bare {row row' : List Lexeme} (h : row'.map Token.bare = row.map Token.bare) :
    row'.map (shape isCommand) = row.map (shape isCommand) := by
  induction row generalizing row' with
  | nil => rw [List.map_eq_nil_iff.1 h]
  | cons token row ih =>
    obtain ⟨token', rest, rfl, htoken, hrest⟩ := List.map_eq_cons_iff.1 h
    rw [List.map_cons, List.map_cons, shape_bare htoken, ih hrest]

theorem converts_bare {token token' : Lexeme} (h : Token.bare token' = Token.bare token)
    (hconverts : Converts token) : Converts token' := by
  obtain ⟨hkind, htext⟩ := Prod.mk.inj h
  constructor
  · rw [hkind, innerOf, htext]
    exact hconverts.string
  · rw [hkind, htext]
    exact hconverts.integer

theorem forall_converts_bare {row row' : List Lexeme}
    (h : row'.map Token.bare = row.map Token.bare) (hconverts : ∀ token ∈ row, Converts token) :
    ∀ token' ∈ row', Converts token' := by
  intro token' htoken'
  have hmem : Token.bare token' ∈ row.map Token.bare := by
    rw [← h]
    exact List.mem_map_of_mem htoken'
  obtain ⟨token, htoken, hbare⟩ := List.mem_map.1 hmem
  exact converts_bare hbare.symm (hconverts token htoken)

/-! ## From tokens to programs -/

section

variable {k : Keyword} {row rest : List Lexeme}

/-- A token that contributes what a mark does is one. -/
theorem exists_mark (hk : isAtom (.keyword k) = false) (mark : Mark k)
    (h : row.map (shape isCommand) = (mark.1 :: rest).map (shape isCommand)) :
    ∃ (mark' : Mark k) (rest' : List Lexeme), row = mark'.1 :: rest' ∧
      rest'.map (shape isCommand) = rest.map (shape isCommand) := by
  obtain ⟨token, rest', rfl, htoken, hrest⟩ := List.map_eq_cons_iff.1 h
  exact ⟨⟨token, kind_of_shape_mark (htoken.trans (shape_mark hk mark))⟩, rest', rfl, hrest⟩

theorem exists_parts {first : List Lexeme}
    (h : row.map (shape isCommand) = (first ++ rest).map (shape isCommand)) :
    ∃ first' rest', row = first' ++ rest' ∧
      first'.map (shape isCommand) = first.map (shape isCommand) ∧
      rest'.map (shape isCommand) = rest.map (shape isCommand) := by
  rw [List.map_append] at h
  exact List.map_eq_append_iff.1 h

end

mutual

/-- Tokens that contribute the same as those of a tree derive a tree for the same statement. -/
theorem exists_tree_of_shapes (tree : Tree) {row : List Lexeme}
    (h : row.map (shape isCommand) = tree.tokens.map (shape isCommand)) :
    ∃ tree' : Tree, tree'.tokens = row ∧
      (tree'.statement isCommand).unplaced = (tree.statement isCommand).unplaced := by
  cases tree with
  | atom token =>
    obtain ⟨token', rest, rfl, hshape, hrest⟩ := List.map_eq_cons_iff.1 h
    obtain rfl := List.map_eq_nil_iff.1 hrest
    obtain ⟨hatom, hstatement⟩ := isAtom_of_shape_atom (hshape.trans (shape_atom token))
    exact ⟨.atom ⟨token', hatom⟩, rfl, hstatement⟩
  | conditional opener condition mark body tail =>
    -- The tokens are split where those of the tree are, keyword by keyword.
    obtain ⟨opener', _, rfl, h₁⟩ := exists_mark rfl opener h
    obtain ⟨_, _, rfl, hcondition, h₂⟩ := exists_parts h₁
    obtain ⟨mark', _, rfl, h₃⟩ := exists_mark rfl mark h₂
    obtain ⟨_, _, rfl, hbody, htail⟩ := exists_parts h₃
    obtain ⟨condition', rfl, hc⟩ := exists_trees_of_shapes condition hcondition
    obtain ⟨body', rfl, hb⟩ := exists_trees_of_shapes body hbody
    obtain ⟨tail', rfl, harms, hotherwise⟩ := exists_tail_of_shapes tail htail
    refine ⟨.conditional opener' condition' mark' body' tail', rfl, ?_⟩
    simp only [Tree.statement, Statement.unplaced, Branch.allUnplaced, Branch.unplaced, hc, hb,
      harms, hotherwise]
  | loop opener condition mark body closer =>
    obtain ⟨opener', _, rfl, h₁⟩ := exists_mark rfl opener h
    obtain ⟨_, _, rfl, hcondition, h₂⟩ := exists_parts h₁
    obtain ⟨mark', _, rfl, h₃⟩ := exists_mark rfl mark h₂
    obtain ⟨_, _, rfl, hbody, h₄⟩ := exists_parts h₃
    obtain ⟨closer', rest, rfl, h₅⟩ := exists_mark rfl closer h₄
    obtain rfl := List.map_eq_nil_iff.1 h₅
    obtain ⟨condition', rfl, hc⟩ := exists_trees_of_shapes condition hcondition
    obtain ⟨body', rfl, hb⟩ := exists_trees_of_shapes body hbody
    refine ⟨.loop opener' condition' mark' body' closer', rfl, ?_⟩
    simp only [Tree.statement, Statement.unplaced, hc, hb]
  | definition opener name body closer =>
    obtain ⟨opener', _, rfl, h₁⟩ := exists_mark rfl opener h
    obtain ⟨name', _, rfl, hname, h₂⟩ := List.map_eq_cons_iff.1 h₁
    obtain ⟨hkind, htext⟩ := word_of_shape name.2 hname
    obtain ⟨_, _, rfl, hbody, h₃⟩ := exists_parts h₂
    obtain ⟨closer', rest, rfl, h₄⟩ := exists_mark rfl closer h₃
    obtain rfl := List.map_eq_nil_iff.1 h₄
    obtain ⟨body', rfl, hb⟩ := exists_trees_of_shapes body hbody
    refine ⟨.definition opener' ⟨name', hkind⟩ body' closer', rfl, ?_⟩
    simp only [Tree.statement, Statement.unplaced, hb, htext]
  | function opener body closer =>
    obtain ⟨opener', _, rfl, h₁⟩ := exists_mark rfl opener h
    obtain ⟨_, _, rfl, hbody, h₂⟩ := exists_parts h₁
    obtain ⟨closer', rest, rfl, h₃⟩ := exists_mark rfl closer h₂
    obtain rfl := List.map_eq_nil_iff.1 h₃
    obtain ⟨body', rfl, hb⟩ := exists_trees_of_shapes body hbody
    refine ⟨.function opener' body' closer', rfl, ?_⟩
    simp only [Tree.statement, Statement.unplaced, hb]
termination_by structural tree

/-- Tokens that contribute the same as those behind a branch derive the same branches. -/
theorem exists_tail_of_shapes (tail : Tail) {row : List Lexeme}
    (h : row.map (shape isCommand) = tail.tokens.map (shape isCommand)) :
    ∃ tail' : Tail, tail'.tokens = row ∧
      Branch.allUnplaced (tail'.arms isCommand) = Branch.allUnplaced (tail.arms isCommand) ∧
      Program.optionUnplaced (tail'.otherwiseBody isCommand) =
        Program.optionUnplaced (tail.otherwiseBody isCommand) := by
  cases tail with
  | elif opener condition mark body tail =>
    obtain ⟨opener', _, rfl, h₁⟩ := exists_mark rfl opener h
    obtain ⟨_, _, rfl, hcondition, h₂⟩ := exists_parts h₁
    obtain ⟨mark', _, rfl, h₃⟩ := exists_mark rfl mark h₂
    obtain ⟨_, _, rfl, hbody, htail⟩ := exists_parts h₃
    obtain ⟨condition', rfl, hc⟩ := exists_trees_of_shapes condition hcondition
    obtain ⟨body', rfl, hb⟩ := exists_trees_of_shapes body hbody
    obtain ⟨tail', rfl, harms, hotherwise⟩ := exists_tail_of_shapes tail htail
    refine ⟨.elif opener' condition' mark' body' tail', rfl, ?_, hotherwise⟩
    simp only [Tail.arms, Branch.allUnplaced, Branch.unplaced, hc, hb, harms]
  | otherwise opener body closer =>
    obtain ⟨opener', _, rfl, h₁⟩ := exists_mark rfl opener h
    obtain ⟨_, _, rfl, hbody, h₂⟩ := exists_parts h₁
    obtain ⟨closer', rest, rfl, h₃⟩ := exists_mark rfl closer h₂
    obtain rfl := List.map_eq_nil_iff.1 h₃
    obtain ⟨body', rfl, hb⟩ := exists_trees_of_shapes body hbody
    refine ⟨.otherwise opener' body' closer', rfl, rfl, ?_⟩
    simp only [Tail.otherwiseBody, Program.optionUnplaced, hb]
  | close closer =>
    obtain ⟨closer', rest, rfl, h₁⟩ := exists_mark rfl closer h
    obtain rfl := List.map_eq_nil_iff.1 h₁
    exact ⟨.close closer', rfl, rfl, rfl⟩
termination_by structural tail

/-- Tokens that contribute the same as those of a row of trees derive trees for the same program. -/
theorem exists_trees_of_shapes (trees : List Tree) {row : List Lexeme}
    (h : row.map (shape isCommand) = (treesTokens trees).map (shape isCommand)) :
    ∃ trees', treesTokens trees' = row ∧
      Program.unplaced (treesProgram isCommand trees') =
        Program.unplaced (treesProgram isCommand trees) := by
  cases trees with
  | nil =>
    obtain rfl := List.map_eq_nil_iff.1 h
    exact ⟨[], rfl, rfl⟩
  | cons tree trees =>
    obtain ⟨_, _, rfl, hfirst, hrest⟩ := exists_parts h
    obtain ⟨tree', rfl, htree⟩ := exists_tree_of_shapes tree hfirst
    obtain ⟨trees', rfl, htrees⟩ := exists_trees_of_shapes trees hrest
    refine ⟨tree' :: trees', rfl, ?_⟩
    simp only [treesProgram, Program.unplaced, htree, htrees]
termination_by structural trees

end

/-! ## From programs to tokens -/

/-- Two marks of one keyword contribute the same. -/
theorem shape_same {k : Keyword} (hk : isAtom (.keyword k) = false) (mark mark' : Mark k) :
    shape isCommand mark.1 = shape isCommand mark'.1 :=
  (shape_mark hk mark).trans (shape_mark hk mark').symm

/-- The same word contributes the same. -/
theorem shape_name {name name' : Name} (h : name.1.text = name'.1.text) :
    shape isCommand name.1 = shape isCommand name'.1 := by
  simp only [shape, statementOf, name.2, name'.2, h]
  split
  · split <;> rfl
  · rfl

/-- Exactly the statement of an atom has a place. -/
theorem Tree.place?_statement (tree : Tree) :
    (tree.statement isCommand).unplaced.place?.isSome =
      match tree with
      | .atom _ => true
      | _ => false := by
  rw [Statement.place?_unplaced_isSome]
  cases tree with
  | atom token =>
    rw [Tree.statement, place?_statementOf]
    rfl
  | conditional | loop | definition | function => rfl

mutual

/-- The tokens of trees for the same statement contribute the same. -/
theorem shapes_of_statement (tree tree' : Tree)
    (h : (tree.statement isCommand).unplaced = (tree'.statement isCommand).unplaced) :
    tree.tokens.map (shape isCommand) = tree'.tokens.map (shape isCommand) := by
  have hplace := congrArg (fun s => s.place?.isSome) h
  simp only [Tree.place?_statement] at hplace
  cases tree with
  | atom token =>
    cases tree' with
    | atom token' =>
      rw [Tree.tokens, Tree.tokens, List.map_singleton, List.map_singleton, shape_atom, shape_atom]
      exact congrArg (fun s => [Shape.atom s]) h
    | conditional | loop | definition | function => cases hplace
  | conditional opener condition mark body tail =>
    cases tree' with
    | conditional opener' condition' mark' body' tail' =>
      injection h with hbranches hotherwise
      injection hbranches with hbranch harms
      injection hbranch with hcondition hbody
      have hc := shapes_of_unplaced condition condition' hcondition
      have hb := shapes_of_unplaced body body' hbody
      have ht := shapes_of_tail tail tail' harms hotherwise
      simp [Tree.tokens, shape_same rfl opener opener', shape_same rfl mark mark', hc,
        hb, ht]
    | atom => cases hplace
    | loop | definition | function => cases h
  | loop opener condition mark body closer =>
    cases tree' with
    | loop opener' condition' mark' body' closer' =>
      injection h with hcondition hbody
      have hc := shapes_of_unplaced condition condition' hcondition
      have hb := shapes_of_unplaced body body' hbody
      simp [Tree.tokens, shape_same rfl opener opener', shape_same rfl mark mark',
        shape_same rfl closer closer', hc, hb]
    | atom => cases hplace
    | conditional | definition | function => cases h
  | definition opener name body closer =>
    cases tree' with
    | definition opener' name' body' closer' =>
      injection h with hname hbody
      have hb := shapes_of_unplaced body body' hbody
      have htext : name.1.text = name'.1.text := Text.ofList_injective (Option.some.inj hname)
      have hshape : shape isCommand name.1 = shape isCommand name'.1 := shape_name htext
      simp [Tree.tokens, shape_same rfl opener opener', shape_same rfl closer closer',
        hshape, hb]
    | atom => cases hplace
    | conditional | loop | function => cases h
  | function opener body closer =>
    cases tree' with
    | function opener' body' closer' =>
      injection h with _ hbody
      have hb := shapes_of_unplaced body body' hbody
      simp [Tree.tokens, shape_same rfl opener opener', shape_same rfl closer closer', hb]
    | atom => cases hplace
    | conditional | loop | definition => cases h
termination_by structural tree

/-- The tokens behind a branch of trees for the same branches contribute the same. -/
theorem shapes_of_tail (tail tail' : Tail)
    (harms : Branch.allUnplaced (tail.arms isCommand) = Branch.allUnplaced (tail'.arms isCommand))
    (hotherwise : Program.optionUnplaced (tail.otherwiseBody isCommand) =
      Program.optionUnplaced (tail'.otherwiseBody isCommand)) :
    tail.tokens.map (shape isCommand) = tail'.tokens.map (shape isCommand) := by
  cases tail with
  | elif opener condition mark body tail =>
    cases tail' with
    | elif opener' condition' mark' body' tail' =>
      injection harms with hbranch harms
      injection hbranch with hcondition hbody
      have hc := shapes_of_unplaced condition condition' hcondition
      have hb := shapes_of_unplaced body body' hbody
      have ht := shapes_of_tail tail tail' harms hotherwise
      simp [Tail.tokens, shape_same rfl opener opener', shape_same rfl mark mark', hc,
        hb, ht]
    | otherwise | close => cases harms
  | otherwise opener body closer =>
    cases tail' with
    | otherwise opener' body' closer' =>
      have hb := shapes_of_unplaced body body' (Option.some.inj hotherwise)
      simp [Tail.tokens, shape_same rfl opener opener', shape_same rfl closer closer', hb]
    | elif => cases harms
    | close => cases hotherwise
  | close closer =>
    cases tail' with
    | close closer' => simp [Tail.tokens, shape_same rfl closer closer']
    | elif => cases harms
    | otherwise => cases hotherwise
termination_by structural tail

/-- The tokens of trees for the same program contribute the same. -/
theorem shapes_of_unplaced (trees trees' : List Tree)
    (h : Program.unplaced (treesProgram isCommand trees) =
      Program.unplaced (treesProgram isCommand trees')) :
    (treesTokens trees).map (shape isCommand) = (treesTokens trees').map (shape isCommand) := by
  cases trees with
  | nil =>
    cases trees' with
    | nil => rfl
    | cons => cases h
  | cons tree trees =>
    cases trees' with
    | nil => cases h
    | cons tree' trees' =>
      injection h with htree htrees
      have ht := shapes_of_statement tree tree' htree
      have hts := shapes_of_unplaced trees trees' htrees
      simp only [treesTokens, List.map_append, ht, hts]
termination_by structural trees

end

end StackShell.Syntax
