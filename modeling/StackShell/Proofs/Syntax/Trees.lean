import StackShell.Program.Block

/-!
# Derivations

The grammar of programs, as the type of its derivation trees. A tree keeps every token of the
sequence that it derives, the words that open, separate and close blocks included, so that its
tokens can be read off again; forgetting those words leaves a node.

Trees are built by a reader of their own, which is the reader of nodes with the marks kept. The main
facts are that the two readers go together (`take_erase`), that what the reader of trees has taken
are the tokens of what it holds (`tokens_of_take`), and that it takes the tokens of every tree
(`takeAll_trees`). From these, tokens derive at most one row of trees (`tokens_injective`) and are
read exactly if they derive one (`takeAll_eq_ok_iff`).
-/

namespace StackShell.Syntax

/-- A token that is a keyword. -/
abbrev Mark (k : Keyword) := {token : Lexeme // token.kind = .keyword k}

/-- A token that is a plain word. -/
abbrev Name := {token : Lexeme // token.kind = .word}

/-- The kinds of tokens that are a statement each. -/
def isAtom : LexemeKind → Bool
  | .real | .integer | .string | .store | .namedCall | .atSign | .word => true
  | .keyword .callWord | .keyword .trueWord | .keyword .falseWord => true
  | .keyword _ | .blank | .comment => false

/-- A token that is a statement. -/
abbrev Atom := {token : Lexeme // isAtom token.kind = true}

mutual

/-- A statement, derived from its tokens. -/
inductive Tree where
  | atom (token : Atom)
  | conditional (opener : Mark .ifWord) (condition : List Tree) (mark : Mark .thenWord)
      (body : List Tree) (tail : Tail)
  | loop (opener : Mark .whileWord) (condition : List Tree) (mark : Mark .doWord)
      (body : List Tree) (closer : Mark .endWord)
  | definition (opener : Mark .defWord) (name : Name) (body : List Tree) (closer : Mark .endWord)
  | function (opener : Mark .fnWord) (body : List Tree) (closer : Mark .endWord)

/-- What follows the first branch of a conditional: other branches, one without a condition or not,
and the end. -/
inductive Tail where
  | elif (opener : Mark .elifWord) (condition : List Tree) (mark : Mark .thenWord)
      (body : List Tree) (tail : Tail)
  | otherwise (opener : Mark .elseWord) (body : List Tree) (closer : Mark .endWord)
  | close (closer : Mark .endWord)

end

mutual

/-- The tokens that a tree derives. -/
def Tree.tokens : Tree → List Lexeme
  | .atom token => [token.1]
  | .conditional opener condition mark body tail =>
    opener.1 :: (treesTokens condition ++ mark.1 :: (treesTokens body ++ tail.tokens))
  | .loop opener condition mark body closer =>
    opener.1 :: (treesTokens condition ++ mark.1 :: (treesTokens body ++ [closer.1]))
  | .definition opener name body closer =>
    opener.1 :: name.1 :: (treesTokens body ++ [closer.1])
  | .function opener body closer => opener.1 :: (treesTokens body ++ [closer.1])
termination_by structural x => x

/-- The tokens that follow the first branch of a conditional. -/
def Tail.tokens : Tail → List Lexeme
  | .elif opener condition mark body tail =>
    opener.1 :: (treesTokens condition ++ mark.1 :: (treesTokens body ++ tail.tokens))
  | .otherwise opener body closer => opener.1 :: (treesTokens body ++ [closer.1])
  | .close closer => [closer.1]
termination_by structural x => x

/-- The tokens that a row of trees derives. -/
def treesTokens : List Tree → List Lexeme
  | [] => []
  | tree :: trees => tree.tokens ++ treesTokens trees
termination_by structural x => x

end

mutual

/-- The node that a tree becomes. -/
def Tree.node : Tree → Node
  | .atom token => .atom token.1
  | .conditional _ condition _ body tail =>
    .conditional (.mk (treesNodes condition) (treesNodes body) :: tail.branches) tail.last
  | .loop _ condition _ body _ => .whileLoop (treesNodes condition) (treesNodes body)
  | .definition _ name body _ => .define (some name.1) (treesNodes body)
  | .function _ body _ => .define none (treesNodes body)
termination_by structural x => x

/-- The branches after the first one. -/
def Tail.branches : Tail → List NodeBranch
  | .elif _ condition _ body tail =>
    .mk (treesNodes condition) (treesNodes body) :: tail.branches
  | .otherwise .. | .close _ => []
termination_by structural x => x

/-- The last branch without a condition. -/
def Tail.last : Tail → Option (List Node)
  | .elif _ _ _ _ tail => tail.last
  | .otherwise _ body _ => some (treesNodes body)
  | .close _ => none
termination_by structural x => x

/-- The nodes that a row of trees becomes. -/
def treesNodes : List Tree → List Node
  | [] => []
  | tree :: trees => tree.node :: treesNodes trees
termination_by structural x => x

end

theorem treesTokens_append (trees trees' : List Tree) :
    treesTokens (trees ++ trees') = treesTokens trees ++ treesTokens trees' := by
  induction trees with
  | nil => rfl
  | cons tree trees ih => rw [List.cons_append, treesTokens, treesTokens, ih, List.append_assoc]

theorem treesNodes_eq_map (trees : List Tree) : treesNodes trees = trees.map Tree.node := by
  induction trees with
  | nil => rfl
  | cons tree trees ih => rw [treesNodes, ih, List.map_cons]

/-! ## The reader of trees -/

/-- What a conditional has before the branch that is being read: a mark, and branches before. -/
inductive Opening where
  | first (opener : Mark .ifWord)
  | next (before : Opening) (condition : List Tree) (mark : Mark .thenWord) (body : List Tree)
      (opener : Mark .elifWord)

namespace Opening

/-- The conditional with its last read branch and what follows it. -/
def close : Opening → List Tree → Mark .thenWord → List Tree → Tail → Tree
  | .first opener, condition, mark, body, tail => .conditional opener condition mark body tail
  | .next before condition' mark' body' opener, condition, mark, body, tail =>
    before.close condition' mark' body' (.elif opener condition mark body tail)

/-- The tokens before the branch. -/
def tokens : Opening → List Lexeme
  | .first opener => [opener.1]
  | .next before condition mark body opener =>
    before.tokens ++ treesTokens condition ++ mark.1 :: treesTokens body ++ [opener.1]

/-- The branches before the branch, the latest first. -/
def done : Opening → List NodeBranch
  | .first _ => []
  | .next before condition _ body _ =>
    .mk (treesNodes condition) (treesNodes body) :: before.done

theorem tokens_close (opening : Opening) (condition : List Tree) (mark : Mark .thenWord)
    (body : List Tree) (tail : Tail) :
    (opening.close condition mark body tail).tokens =
      opening.tokens ++ treesTokens condition ++ mark.1 :: treesTokens body ++ tail.tokens := by
  induction opening generalizing condition mark body tail with
  | first opener => simp [close, tokens, Tree.tokens]
  | next before condition' mark' body' opener ih => simp [close, tokens, ih, Tail.tokens]

theorem node_close (opening : Opening) (condition : List Tree) (mark : Mark .thenWord)
    (body : List Tree) (tail : Tail) :
    (opening.close condition mark body tail).node =
      .conditional (opening.done.reverse ++
        .mk (treesNodes condition) (treesNodes body) :: tail.branches) tail.last := by
  induction opening generalizing condition mark body tail with
  | first opener => rfl
  | next before condition' mark' body' opener ih =>
    rw [close, ih, done, List.reverse_cons, List.append_assoc, Tail.branches, Tail.last]
    rfl

end Opening

/-- The part of a block that is being read, with what the block has before it. -/
inductive OpenPart where
  | ifCondition (opening : Opening)
  | ifBody (opening : Opening) (condition : List Tree) (mark : Mark .thenWord)
  | elseBody (opening : Opening) (condition : List Tree) (mark : Mark .thenWord) (body : List Tree)
      (opener : Mark .elseWord)
  | whileCondition (opener : Mark .whileWord)
  | whileBody (opener : Mark .whileWord) (condition : List Tree) (mark : Mark .doWord)
  | defBody (opener : Mark .defWord) (name : Name)
  | fnBody (opener : Mark .fnWord)

namespace OpenPart

/-- The tokens of a block before the part that is being read. -/
def tokens : OpenPart → List Lexeme
  | .ifCondition opening => opening.tokens
  | .ifBody opening condition mark => opening.tokens ++ treesTokens condition ++ [mark.1]
  | .elseBody opening condition mark body opener =>
    opening.tokens ++ treesTokens condition ++ mark.1 :: treesTokens body ++ [opener.1]
  | .whileCondition opener => [opener.1]
  | .whileBody opener condition mark => opener.1 :: treesTokens condition ++ [mark.1]
  | .defBody opener name => [opener.1, name.1]
  | .fnBody opener => [opener.1]

/-- The part without its marks. -/
def erase : OpenPart → Block.Part
  | .ifCondition opening => .ifCondition opening.done
  | .ifBody opening condition _ => .ifBody opening.done (treesNodes condition)
  | .elseBody opening condition _ body _ =>
    .elseBody (.mk (treesNodes condition) (treesNodes body) :: opening.done)
  | .whileCondition _ => .whileCondition
  | .whileBody _ condition _ => .whileBody (treesNodes condition)
  | .defBody _ name => .defBody name.1
  | .fnBody _ => .fnBody

end OpenPart

/-- An open block: the part that is being read, and the trees before the block in reverse. -/
structure OpenLevel where
  part : OpenPart
  before : List Tree

/-- A level without its marks. -/
def OpenLevel.erase (level : OpenLevel) : Block.Level :=
  ⟨level.part.erase, treesNodes level.before⟩

/-- The tokens of open blocks up to the parts that are being read. -/
def levelsTokens : List OpenLevel → List Lexeme
  | [] => []
  | level :: levels =>
    levelsTokens levels ++ treesTokens level.before.reverse ++ level.part.tokens

/-- What has been read. -/
inductive TreeReader where
  /-- The trees of the innermost part, in reverse, and the open blocks around them, the innermost
  first. -/
  | statements (trees : List Tree) (levels : List OpenLevel)
  /-- A definition before its name, the trees before it, and the open blocks around them. -/
  | naming (opener : Mark .defWord) (before : List Tree) (levels : List OpenLevel)

namespace TreeReader

/-- Before the first token. -/
def empty : TreeReader := .statements [] []

/-- The reader of nodes that has read the same. -/
def erase : TreeReader → Block.Reader
  | .statements trees levels => ⟨treesNodes trees, levels.map OpenLevel.erase⟩
  | .naming _ before levels => ⟨[], ⟨.defName, treesNodes before⟩ :: levels.map OpenLevel.erase⟩

/-- All tokens that have been taken. -/
def tokens : TreeReader → List Lexeme
  | .statements trees levels => levelsTokens levels ++ treesTokens trees.reverse
  | .naming opener before levels => levelsTokens levels ++ treesTokens before.reverse ++ [opener.1]

/-- Takes a keyword that separates or closes the parts of the innermost block. -/
def delimit (trees : List Tree) (levels : List OpenLevel) (token : Lexeme) (k : Keyword)
    (h : token.kind = .keyword k) : Option TreeReader :=
  match levels with
  | [] => none
  | ⟨part, before⟩ :: levels =>
    let read := trees.reverse
    let proceed (part : OpenPart) : TreeReader := .statements [] (⟨part, before⟩ :: levels)
    let close (tree : Tree) : TreeReader := .statements (tree :: before) levels
    match part, k, h with
    | .ifCondition opening, .thenWord, h => some (proceed (.ifBody opening read ⟨token, h⟩))
    | .ifBody opening condition mark, .elifWord, h =>
      some (proceed (.ifCondition (.next opening condition mark read ⟨token, h⟩)))
    | .ifBody opening condition mark, .elseWord, h =>
      some (proceed (.elseBody opening condition mark read ⟨token, h⟩))
    | .ifBody opening condition mark, .endWord, h =>
      some (close (opening.close condition mark read (.close ⟨token, h⟩)))
    | .elseBody opening condition mark body opener, .endWord, h =>
      some (close (opening.close condition mark body (.otherwise opener read ⟨token, h⟩)))
    | .whileCondition opener, .doWord, h => some (proceed (.whileBody opener read ⟨token, h⟩))
    | .whileBody opener condition mark, .endWord, h =>
      some (close (.loop opener condition mark read ⟨token, h⟩))
    | .defBody opener name, .endWord, h =>
      some (close (.definition opener name read ⟨token, h⟩))
    | .fnBody opener, .endWord, h => some (close (.function opener read ⟨token, h⟩))
    | _, _, _ => none

/-- Takes one token where statements may stand. -/
def accept (trees : List Tree) (levels : List OpenLevel) (token : Lexeme) : Option TreeReader :=
  if hatom : isAtom token.kind = true then some (.statements (.atom ⟨token, hatom⟩ :: trees) levels)
  else
    let enter (part : OpenPart) : TreeReader := .statements [] (⟨part, trees⟩ :: levels)
    match h : token.kind with
    | .keyword .ifWord => some (enter (.ifCondition (.first ⟨token, h⟩)))
    | .keyword .whileWord => some (enter (.whileCondition ⟨token, h⟩))
    | .keyword .defWord => some (.naming ⟨token, h⟩ trees levels)
    | .keyword .fnWord => some (enter (.fnBody ⟨token, h⟩))
    | .keyword k => delimit trees levels token k h
    | _ => none

/-- Takes one token. -/
def take (token : Lexeme) : TreeReader → Option TreeReader
  | .statements trees levels => accept trees levels token
  | .naming opener before levels =>
    if h : token.kind = .word then
      some (.statements [] (⟨.defBody opener ⟨token, h⟩, before⟩ :: levels))
    else none

/-- Takes tokens in order, if they all fit. -/
def takeAll (r : TreeReader) : List Lexeme → Option TreeReader
  | [] => some r
  | token :: rest => (r.take token).bind fun r => r.takeAll rest

/-! ## The two readers -/

variable {trees : List Tree} {levels : List OpenLevel} {r r' : TreeReader} {token : Lexeme}

theorem delimit_erase {k : Keyword} (h : token.kind = .keyword k) :
    (statements trees levels).erase.delimit k = (delimit trees levels token k h).map erase := by
  cases levels with
  | nil => rfl
  | cons level levels =>
    obtain ⟨part, before⟩ := level
    have hread : (treesNodes trees).reverse = treesNodes trees.reverse := by
      rw [treesNodes_eq_map, treesNodes_eq_map, List.map_reverse]
    -- most pairs of a part and a keyword do not fit, and then neither reader goes on
    cases part <;> cases k <;> first
      | rfl
      | simp [Block.Reader.delimit, delimit, erase, OpenLevel.erase, OpenPart.erase,
          Block.Level.proceed, Block.Level.close, hread, treesNodes, Tree.node, Tail.branches,
          Tail.last, Opening.done, Opening.node_close]

theorem accept_erase :
    (statements trees levels).erase.accept token = (accept trees levels token).map erase := by
  obtain ⟨kind, text, place⟩ := token
  cases kind with
  | keyword k =>
    cases k with
    | thenWord | elifWord | elseWord | endWord | doWord => exact delimit_erase rfl
    | ifWord | whileWord | defWord | fnWord | callWord | trueWord | falseWord => rfl
  | real | integer | string | store | namedCall | atSign | word | blank | comment => rfl

/-- The reader of trees takes a token exactly if the reader of nodes does, and they go together. -/
theorem take_erase (r : TreeReader) (token : Lexeme) :
    r.erase.take token = (r.take token).map erase := by
  cases r with
  | statements trees levels =>
    cases levels with
    | nil => exact accept_erase
    | cons level levels =>
      obtain ⟨part, before⟩ := level
      cases part <;> exact accept_erase
  | naming opener before levels =>
    obtain ⟨kind, text, place⟩ := token
    cases kind <;> rfl

theorem takeAll_erase (r : TreeReader) (row : List Lexeme) :
    (r.erase.takeAll row).toOption = (r.takeAll row).map erase := by
  induction row generalizing r with
  | nil => rfl
  | cons token rest ih =>
    rw [Block.Reader.takeAll, takeAll, take_erase]
    cases r.take token with
    | none => rfl
    | some r => exact ih r

/-! ## The tokens that have been taken -/

theorem tokens_of_delimit {k : Keyword} {h : token.kind = .keyword k}
    (hr : delimit trees levels token k h = some r) :
    r.tokens = (statements trees levels).tokens ++ [token] := by
  cases levels with
  | nil => cases hr
  | cons level levels =>
    obtain ⟨part, before⟩ := level
    -- what is left are the pairs that fit
    cases part <;> cases k <;> cases hr
    all_goals
      simp [tokens, levelsTokens, OpenPart.tokens, treesTokens_append, treesTokens, Tree.tokens,
        Tail.tokens, Opening.tokens, Opening.tokens_close]

theorem tokens_of_accept (hr : accept trees levels token = some r) :
    r.tokens = (statements trees levels).tokens ++ [token] := by
  unfold accept at hr
  split at hr
  · cases hr
    simp [tokens, treesTokens_append, treesTokens, Tree.tokens]
  · split at hr
    case h_5 => exact tokens_of_delimit hr
    case h_6 => cases hr
    all_goals
      cases hr
      simp [tokens, levelsTokens, OpenPart.tokens, Opening.tokens, treesTokens]

/-- A token that is taken is the next one of the tokens that have been taken. -/
theorem tokens_of_take (hr : r.take token = some r') : r'.tokens = r.tokens ++ [token] := by
  cases r with
  | statements trees levels => exact tokens_of_accept hr
  | naming opener before levels =>
    rw [take] at hr
    split at hr
    · cases hr
      simp [tokens, levelsTokens, OpenPart.tokens, treesTokens]
    · cases hr

theorem tokens_of_takeAll {row : List Lexeme} (hr : r.takeAll row = some r') :
    r'.tokens = r.tokens ++ row := by
  induction row generalizing r with
  | nil =>
    cases hr
    rw [List.append_nil]
  | cons token rest ih =>
    obtain ⟨next, hnext, hrest⟩ := Option.bind_eq_some_iff.1 hr
    rw [ih hrest, tokens_of_take hnext, List.append_assoc]
    rfl

/-! ## Taking trees -/

theorem accept_atom (token : Atom) :
    accept trees levels token.1 = some (.statements (.atom token :: trees) levels) := by
  rw [accept, dif_pos token.2]

theorem accept_mark {k : Keyword} (mark : Mark k) :
    accept trees levels mark.1 = match k, mark with
      | .ifWord, mark => some (.statements [] (⟨.ifCondition (.first mark), trees⟩ :: levels))
      | .whileWord, mark => some (.statements [] (⟨.whileCondition mark, trees⟩ :: levels))
      | .defWord, mark => some (.naming mark trees levels)
      | .fnWord, mark => some (.statements [] (⟨.fnBody mark, trees⟩ :: levels))
      | .callWord, mark | .trueWord, mark | .falseWord, mark =>
        some (.statements (.atom ⟨mark.1, by rw [mark.2]; rfl⟩ :: trees) levels)
      | k, mark => delimit trees levels mark.1 k mark.2 := by
  obtain ⟨⟨kind, text, place⟩, h⟩ := mark
  cases h
  cases k <;> rfl

theorem takeAll_cons (hr : accept trees levels token = some r) (rest : List Lexeme) :
    (statements trees levels).takeAll (token :: rest) = r.takeAll rest := by
  rw [takeAll, take, hr]
  rfl

theorem takeAll_name (opener : Mark .defWord) (name : Name) (rest : List Lexeme) :
    (naming opener trees levels).takeAll (name.1 :: rest) =
      (statements [] (⟨.defBody opener name, trees⟩ :: levels)).takeAll rest := by
  rw [takeAll, take, dif_pos name.2]
  rfl

mutual

/-- The reader takes the tokens of a tree, and then holds the tree. -/
theorem takeAll_tree (tree : Tree) (trees : List Tree) (levels : List OpenLevel)
    (rest : List Lexeme) :
    (statements trees levels).takeAll (tree.tokens ++ rest) =
      (statements (tree :: trees) levels).takeAll rest := by
  cases tree with
  | atom token => exact takeAll_cons (accept_atom token) rest
  | conditional opener condition mark body tail =>
    rw [Tree.tokens, List.cons_append, takeAll_cons (accept_mark opener)]
    rw [List.append_assoc, takeAll_trees condition, List.cons_append]
    rw [takeAll_cons (accept_mark mark), List.append_assoc, takeAll_trees body, takeAll_tail tail]
    simp [Opening.close]
  | loop opener condition mark body closer =>
    rw [Tree.tokens, List.cons_append, takeAll_cons (accept_mark opener)]
    rw [List.append_assoc, takeAll_trees condition, List.cons_append]
    rw [takeAll_cons (accept_mark mark), List.append_assoc, takeAll_trees body]
    rw [List.cons_append, takeAll_cons (accept_mark closer)]
    simp
  | definition opener name body closer =>
    rw [Tree.tokens, List.cons_append, takeAll_cons (accept_mark opener), List.cons_append]
    rw [takeAll_name, List.append_assoc, takeAll_trees body, List.cons_append]
    rw [takeAll_cons (accept_mark closer)]
    simp
  | function opener body closer =>
    rw [Tree.tokens, List.cons_append, takeAll_cons (accept_mark opener)]
    rw [List.append_assoc, takeAll_trees body, List.cons_append]
    rw [takeAll_cons (accept_mark closer)]
    simp
termination_by structural tree

/-- The reader takes the tokens behind the first branch of a conditional, and then holds it. -/
theorem takeAll_tail (tail : Tail) (opening : Opening) (condition : List Tree)
    (mark : Mark .thenWord) (body before : List Tree) (levels : List OpenLevel)
    (rest : List Lexeme) :
    (statements body (⟨.ifBody opening condition mark, before⟩ :: levels)).takeAll
        (tail.tokens ++ rest) =
      (statements (opening.close condition mark body.reverse tail :: before) levels).takeAll
        rest := by
  -- the branch that ends here becomes a part of what opens the next one
  cases tail with
  | elif opener condition' mark' body' tail =>
    rw [Tail.tokens, List.cons_append, takeAll_cons (accept_mark opener)]
    rw [List.append_assoc, takeAll_trees condition', List.cons_append]
    rw [takeAll_cons (accept_mark mark'), List.append_assoc, takeAll_trees body', takeAll_tail tail]
    simp [Opening.close]
  | otherwise opener body' closer =>
    rw [Tail.tokens, List.cons_append, takeAll_cons (accept_mark opener)]
    rw [List.append_assoc, takeAll_trees body', List.cons_append, takeAll_cons (accept_mark closer)]
    simp
  | close closer => exact takeAll_cons (accept_mark closer) rest
termination_by structural tail

/-- The reader takes the tokens of a row of trees, and then holds them. -/
theorem takeAll_trees (row trees : List Tree) (levels : List OpenLevel) (rest : List Lexeme) :
    (statements trees levels).takeAll (treesTokens row ++ rest) =
      (statements (row.reverse ++ trees) levels).takeAll rest := by
  cases row with
  | nil => rfl
  | cons tree row =>
    rw [treesTokens, List.append_assoc, takeAll_tree tree, takeAll_trees row]
    rw [List.reverse_cons, List.append_assoc]
    rfl
termination_by structural row

end

theorem takeAll_tokens (row : List Tree) :
    empty.takeAll (treesTokens row) = some (.statements row.reverse []) := by
  have h := takeAll_trees row [] [] []
  rw [List.append_nil, List.append_nil] at h
  exact h

end TreeReader

/-! ## Reading tokens -/

/-- Tokens derive at most one row of trees. -/
theorem treesTokens_injective {row row' : List Tree} (h : treesTokens row = treesTokens row') :
    row = row' := by
  -- the reader holds both rows after the same tokens
  have hrow := TreeReader.takeAll_tokens row
  rw [h, TreeReader.takeAll_tokens row'] at hrow
  injection hrow with hrow
  injection hrow with hrow
  exact (List.reverse_inj.1 hrow).symm

namespace TreeReader

variable {tokens : List Lexeme} {r : Block.Reader}

/-- Whatever the reader of nodes holds after some tokens, the reader of trees holds too. -/
theorem exists_of_takeAll_ok (h : Block.Reader.empty.takeAll tokens = .ok r) :
    ∃ t : TreeReader, empty.takeAll tokens = some t ∧ t.erase = r ∧ t.tokens = tokens := by
  have herase := takeAll_erase empty tokens
  rw [show empty.erase = Block.Reader.empty from rfl, h] at herase
  obtain ⟨t, ht, hr⟩ := Option.map_eq_some_iff.1 herase.symm
  exact ⟨t, ht, hr, tokens_of_takeAll ht⟩

/-- A reader that holds nodes and no open block holds the nodes of trees. -/
theorem finish?_erase {t : TreeReader} {nodes : List Node} (h : t.erase.finish? = some nodes) :
    ∃ trees, t = .statements trees [] ∧ treesNodes trees.reverse = nodes := by
  cases t with
  | naming opener before levels => cases h
  | statements trees levels =>
    cases levels with
    | cons level levels => cases h
    | nil =>
      refine ⟨trees, rfl, ?_⟩
      have hnodes : (treesNodes trees).reverse = nodes := Option.some.inj h
      rw [← hnodes, treesNodes_eq_map, treesNodes_eq_map, List.map_reverse]

end TreeReader

/-- Tokens are read to nodes exactly if they derive trees that become these nodes. -/
theorem takeAll_eq_ok_iff {tokens : List Lexeme} {nodes : List Node} :
    (∃ r, Block.Reader.empty.takeAll tokens = .ok r ∧ r.finish? = some nodes) ↔
      ∃ row, treesTokens row = tokens ∧ treesNodes row = nodes := by
  constructor
  · rintro ⟨r, hr, hfinish⟩
    obtain ⟨t, -, rfl, htokens⟩ := TreeReader.exists_of_takeAll_ok hr
    obtain ⟨trees, rfl, hnodes⟩ := TreeReader.finish?_erase hfinish
    exact ⟨trees.reverse, htokens, hnodes⟩
  · rintro ⟨row, rfl, rfl⟩
    have herase := TreeReader.takeAll_erase .empty (treesTokens row)
    rw [TreeReader.takeAll_tokens, Option.map_some] at herase
    cases hr : Block.Reader.empty.takeAll (treesTokens row) with
    | error token =>
      rw [show TreeReader.empty.erase = Block.Reader.empty from rfl, hr] at herase
      cases herase
    | ok r =>
      rw [show TreeReader.empty.erase = Block.Reader.empty from rfl, hr] at herase
      have heq : r = (TreeReader.statements row.reverse []).erase := Option.some.inj herase
      refine ⟨r, rfl, ?_⟩
      rw [heq]
      show some (treesNodes row.reverse).reverse = some (treesNodes row)
      rw [treesNodes_eq_map, treesNodes_eq_map, List.map_reverse, List.reverse_reverse]

end StackShell.Syntax
