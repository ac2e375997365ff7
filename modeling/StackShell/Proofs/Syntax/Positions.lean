import StackShell.Proofs.Places.Tokens
import StackShell.Proofs.Syntax.Lines

/-!
# Where statements stand

Every statement of a program that stands for one word of the source knows where that word is. The
statements of a program that was read, taken in the order of the text, stand one after the other;
and where a statement stands, the source reads just what the statement is written as
(`parse_places_exact`).

Three facts are put together. The lexemes of a text are the text, and each of them stands where the
characters before it lead (`stands_of_mem_scanFrom`). That place, as a line and a column, is where
the line reads the lexeme (`readsAt_placeAfter`). And the statements with a place are those of some
of the tokens, in the order of the tokens (`stands_trees`).
-/

namespace StackShell

open Token

/-! ## The statements that have a place -/

mutual

/-- The statements in a statement that have a place, in the order of the text. -/
def Statement.located : Statement → List Statement
  | .conditional branches otherwise =>
    Branch.allLocated branches ++ Program.optionLocated otherwise
  | .whileLoop condition body => Program.located condition ++ Program.located body
  | .define _ body => Program.located body
  | .stray => []
  | .literal v place => [.literal v place]
  | .load name place => [.load name place]
  | .store name place => [.store name place]
  | .invoke name place => [.invoke name place]
  | .call name place => [.call name place]
termination_by structural x => x

/-- The statements in a program that have a place. -/
def Program.located : List Statement → List Statement
  | [] => []
  | s :: rest => Statement.located s ++ Program.located rest
termination_by structural x => x

/-- The statements that have a place in a program that may be missing. -/
def Program.optionLocated : Option (List Statement) → List Statement
  | none => []
  | some body => Program.located body
termination_by structural x => x

/-- The statements in a branch that have a place: those of the condition come first. -/
def Branch.located : Branch → List Statement
  | .mk condition body => Program.located condition ++ Program.located body
termination_by structural x => x

/-- The statements in branches that have a place. -/
def Branch.allLocated : List Branch → List Statement
  | [] => []
  | b :: rest => Branch.located b ++ Branch.allLocated rest
termination_by structural x => x

end

/-! ## What statements are written as -/

/-- Whether a text is a literal for a value. -/
def Value.SpelledAs [Platform] : Value → List CodePoint → Prop
  | .number (.int n), text => integerPattern.Leaves text [] ∧ Decimal.readInteger text = .ok n
  | .number (.float x), text => realPattern.Leaves text [] ∧ Decimal.readReal text = x
  | .boolean b, text => text = (if b then "true" else "false" : Text).toList
  | .string value, text =>
    stringPattern.Leaves text [] ∧
      ∃ inner, text = .char '"' :: inner ++ [.char '"'] ∧ Escape.decode inner = .ok value
  | _, _ => False

/-- Whether a text is what a statement is written as. -/
def Statement.SpelledAs [Platform] : Statement → List CodePoint → Prop
  | .literal v _, text => v.SpelledAs text
  | .load name _, text | .invoke name _, text => text = name.toList
  | .store name _, text => text = .char '=' :: name.toList
  | .call (some name) _, text => text = .char '@' :: name.toList
  | .call none _, text => text = [.char '@'] ∨ text = ("call" : Text).toList
  | .conditional .., _ | .whileLoop .., _ | .define .., _ | .stray, _ => False

/-! ## Lines and columns -/

/-- Whether a text has the characters at a place. Only line feeds separate lines, and lines and
columns are counted from one. -/
def Text.ReadsAt (text : List CodePoint) (place : Location) (chars : List CodePoint) : Prop :=
  ∃ (i : Nat) (before after : List CodePoint),
    (split '\n' text)[i]? = some (before ++ chars ++ after) ∧
    place = ⟨i + 1, before.length + 1⟩

namespace Token

/-- Characters without a line feed are on the first line of a text that they start. -/
theorem exists_split_append {chars : List CodePoint} (h : .char '\n' ∉ chars)
    (rest : List CodePoint) :
    ∃ after lines, Text.split '\n' (chars ++ rest) = (chars ++ after) :: lines := by
  induction chars with
  | nil =>
    obtain ⟨line, lines, hsplit⟩ := List.exists_cons_of_ne_nil (Text.split_ne_nil '\n' rest)
    exact ⟨line, lines, hsplit⟩
  | cons c chars ih =>
    rw [List.mem_cons, not_or] at h
    obtain ⟨after, lines, hsplit⟩ := ih h.2
    refine ⟨after, lines, ?_⟩
    have hc : (c == '\n') = false := beq_eq_false_iff_ne.2 (Ne.symm h.1)
    rw [List.cons_append, Text.split, hc, hsplit]
    rfl

/-- What follows a line feed is one line further down. -/
theorem placeAfter_lineFeed (place : Location) (text : List CodePoint) :
    placeAfter place (.char '\n' :: text) = placeAfter ⟨place.line + 1, 1⟩ text :=
  rfl

/-- What follows any other character is one column further right. -/
theorem placeAfter_of_ne {c : CodePoint} (h : c ≠ '\n') (place : Location) (text : List CodePoint) :
    placeAfter place (c :: text) = placeAfter ⟨place.line, place.column + 1⟩ text := by
  show placeAfter (nextPlace place c) text = _
  rw [nextPlace, if_neg (by simpa using h)]

/-- What follows a text stands, seen from the place where the text starts, on the same line if there
is no line feed in the text, and else as many lines below as there are. -/
theorem exists_line_placeAfter (line column : Int) (before : List CodePoint)
    {chars : List CodePoint} (h : .char '\n' ∉ chars) (after : List CodePoint) :
    ∃ (i : Nat) (left right : List CodePoint),
      (Text.split '\n' (before ++ (chars ++ after)))[i]? = some (left ++ chars ++ right) ∧
      placeAfter ⟨line, column⟩ before =
        if i = 0 then ⟨line, column + left.length⟩ else ⟨line + i, left.length + 1⟩ := by
  induction before generalizing line column with
  | nil =>
    obtain ⟨right, lines, hsplit⟩ := exists_split_append h after
    refine ⟨0, [], right, ?_, ?_⟩
    · rw [List.nil_append, hsplit]
      rfl
    · simp [placeAfter]
  | cons c before ih =>
    by_cases hc : c = '\n'
    · -- all that follows is one line further down
      subst hc
      obtain ⟨i, left, right, hline, hplace⟩ := ih (line + 1) 1
      refine ⟨i + 1, left, right, ?_, ?_⟩
      · rw [List.cons_append, Text.split]
        exact hline
      · rw [placeAfter_lineFeed, hplace, if_neg (Nat.succ_ne_zero i)]
        split
        · next hi =>
          subst hi
          congr 1
          omega
        · congr 1
          push_cast
          omega
    · -- the first line becomes one character longer
      obtain ⟨i, left, right, hline, hplace⟩ := ih line (column + 1)
      have hsplit : ∀ first lines, Text.split '\n' (before ++ (chars ++ after)) = first :: lines →
          Text.split '\n' (c :: before ++ (chars ++ after)) = (c :: first) :: lines := by
        intro first lines hfirst
        rw [List.cons_append, Text.split, beq_eq_false_iff_ne.2 hc, hfirst]
        rfl
      obtain ⟨first, lines, hlines⟩ :=
        List.exists_cons_of_ne_nil (Text.split_ne_nil '\n' (before ++ (chars ++ after)))
      rw [hlines] at hline
      rw [hsplit first lines hlines, placeAfter_of_ne hc, hplace]
      cases i with
      | zero =>
        obtain rfl : first = left ++ chars ++ right := Option.some.inj hline
        refine ⟨0, c :: left, right, rfl, ?_⟩
        simp only [if_true, List.length_cons]
        congr 1
        push_cast
        omega
      | succ i => exact ⟨i + 1, left, right, hline, rfl⟩

/-- A text reads what follows some of its characters at the place to which they lead. -/
theorem readsAt_placeAfter (before : List CodePoint) {chars : List CodePoint}
    (h : .char '\n' ∉ chars) (after : List CodePoint) :
    Text.ReadsAt (before ++ (chars ++ after)) (placeAfter start before) chars := by
  obtain ⟨i, left, right, hline, hplace⟩ := exists_line_placeAfter 1 1 before h after
  refine ⟨i, left, right, hline, hplace.trans ?_⟩
  split
  · next hi =>
    subst hi
    congr 1
    omega
  · congr 1
    omega

/-! ## The lexemes of a text -/

/-- The lexemes of a text are the text. -/
theorem Splits.flatten {place : Location} {text : List CodePoint} {lexemes : List Lexeme}
    (h : Splits place text lexemes) : (lexemes.map (·.text)).flatten = text := by
  induction h with
  | done => rfl
  | next htext _ _ ih =>
    rw [List.map_cons, List.flatten_cons, ih, htext]

/-- Whether characters of a text stand at a place to which those before them lead. -/
def Stands (origin : Location) (text chars : List CodePoint) (place : Location) : Prop :=
  ∃ before after, text = before ++ (chars ++ after) ∧ place = placeAfter origin before

/-- What stands in the remainder of a text stands in the text. -/
theorem Stands.behind {origin place : Location} {first rest chars : List CodePoint}
    (h : Stands (placeAfter origin first) rest chars place) :
    Stands origin (first ++ rest) chars place := by
  obtain ⟨before, after, rfl, rfl⟩ := h
  exact ⟨first ++ before, after, (List.append_assoc ..).symm, List.foldl_append.symm⟩

/-- Each lexeme of a scan, whether it goes through or not, stands where it says. -/
theorem stands_of_mem_scanFrom {place : Location} {text : List CodePoint} {lexeme : Lexeme}
    (h : lexeme ∈ (scanFrom place text).lexemes) : Stands place text lexeme.text lexeme.place := by
  fun_induction scanFrom place text with
  | case1 => cases h
  | case2 => cases h
  | case3 place c rest kind size hlexeme chars tail =>
    rename_i ih
    obtain ⟨n, rfl⟩ := Nat.exists_eq_add_of_le' (pos_of_lexeme? hlexeme)
    have htext : chars ++ rest.drop n = c :: rest := List.take_append_drop (n + 1) (c :: rest)
    rw [← htext]
    rcases List.mem_cons.1 h with rfl | h
    · exact ⟨[], rest.drop n, rfl, rfl⟩
    · exact (ih h).behind

/-- The character at which a scan is stuck stands where the scan says. -/
theorem stands_of_stuck {place place' : Location} {text : List CodePoint} {c : CodePoint}
    (h : (scanFrom place text).stuck = some (c, place')) : Stands place text [c] place' := by
  fun_induction scanFrom place text with
  | case1 => cases h
  | case2 place d rest hlexeme =>
    cases h
    exact ⟨[], rest, rfl, rfl⟩
  | case3 place d rest kind size hlexeme chars tail =>
    rename_i ih
    obtain ⟨n, rfl⟩ := Nat.exists_eq_add_of_le' (pos_of_lexeme? hlexeme)
    have htext : chars ++ rest.drop n = d :: rest := List.take_append_drop (n + 1) (d :: rest)
    rw [← htext]
    exact (ih h).behind

/-- A text reads each of its tokens where it stands. -/
theorem readsAt_token {source : Text} {token : Lexeme} (hmem : token ∈ (scan source).tokens) :
    Text.ReadsAt source.toList token.place token.text := by
  obtain ⟨before, after, htext, hplace⟩ := stands_of_mem_scanFrom (List.mem_of_mem_filter hmem)
  rw [htext, hplace]
  exact readsAt_placeAfter before (lineFeed_not_mem_token hmem) after

/-- What is passed over between tokens are blanks and comments. -/
theorem blank_or_comment_of_skipped {source : Text} {lexeme : Lexeme}
    (hmem : lexeme ∈ (scan source).lexemes) (h : lexeme.kind.isToken = false) :
    (∀ c ∈ lexeme.text, isSeparator c = true) ∨ commentPattern.Leaves lexeme.text [] := by
  obtain ⟨t, rest, hchosen, hkind⟩ := chosen_of_mem_scanFrom hmem
  have hleaves := hchosen.fits.1.alone
  rw [hkind] at h
  cases t with
  | blank =>
    left
    obtain ⟨run, htext, -, hrun⟩ := Pattern.leaves_some1.1 hleaves
    rw [List.append_nil] at htext
    rw [htext]
    exact hrun
  | comment => exact .inr hleaves
  | word =>
    rw [Token.Terminal.kind.eq_7] at h
    split at h <;> cases h
  | _ => cases h

end Token

namespace Syntax

open Program

variable {isCommand : Text → Bool}

/-! ## The statements of tokens -/

/-- A keyword is written as its word. -/
theorem text_of_keyword {source : Text} {token : Lexeme} (hmem : token ∈ (scan source).tokens)
    {k : Keyword} (hkind : token.kind = .keyword k) :
    Keyword.ofWord? (Text.ofList token.text) = some k := by
  obtain ⟨t, rest, -, hchosen⟩ := chosen_of_mem_scanFrom (List.mem_of_mem_filter hmem)
  rw [hkind] at hchosen
  cases t with
  | word =>
    rw [Token.Terminal.kind.eq_7] at hchosen
    split at hchosen
    · next found hfound =>
      cases hchosen
      exact hfound
    · cases hchosen
  | _ => cases hchosen

/-- A word that is a keyword is one of the words. -/
theorem eq_of_ofWord? {word : Text} {k : Keyword} (h : Keyword.ofWord? word = some k) :
    match k with
    | .callWord => word = "call"
    | .trueWord => word = "true"
    | .falseWord => word = "false"
    | _ => True := by
  unfold Keyword.ofWord? at h
  have hword : k.word = word := by simpa using List.find?_some h
  cases k <;> first
    | exact hword.symm
    | trivial

/-- A token that is no word or keyword matches its pattern as a whole. -/
theorem leaves_token {source : Text} {token : Lexeme} (hmem : token ∈ (scan source).tokens)
    {t : Token.Terminal} (ht : t ≠ .word) (hkind : token.kind = t.kind []) :
    t.pattern.Leaves token.text [] := by
  obtain ⟨t', rest, hchosen, hkind'⟩ := chosen_of_mem_scanFrom (List.mem_of_mem_filter hmem)
  -- a word may be of several kinds, but every other terminal is told by its kind
  obtain rfl := Token.Terminal.eq_of_kind ht (hkind'.symm.trans hkind)
  exact hchosen.fits.1.alone

/-- A mark and a name are written as the mark and the name. -/
theorem text_of_marked {mark : CodePoint} {token : Lexeme}
    (h : (markedPattern mark).Leaves token.text []) :
    token.text = mark :: (nameOf token).toList := by
  obtain ⟨middle, hmark, -⟩ := Pattern.leaves_seq.1 h
  have htext := Pattern.leaves_char.1 hmark
  rw [nameOf, Text.toList_ofList, htext]
  rfl

/-- A string is written in quotes. -/
theorem text_of_string {token : Lexeme} (h : stringPattern.Leaves token.text []) :
    token.text = .char '"' :: innerOf token ++ [.char '"'] := by
  obtain ⟨middle, hopen, hrest⟩ := Pattern.leaves_seq.1 h
  obtain ⟨close, hunits, hclose⟩ := Pattern.leaves_seq.1 hrest
  obtain ⟨inner, hinner, -⟩ := hunits.exists_chars
  have htext : token.text = .char '"' :: (inner ++ [.char '"']) := by
    rw [Pattern.leaves_char.1 hopen, hinner, Pattern.leaves_char.1 hclose]
  rw [innerOf, htext, List.drop_one, List.tail_cons, List.dropLast_concat, List.cons_append]

section

variable [Platform]

/-- An atom is written as the statement that it stands for. -/
theorem spelledAs_statementOf {source : Text} {token : Lexeme}
    (hmem : token ∈ (scan source).tokens) (hconverts : Converts token)
    (hatom : isAtom token.kind = true) : (statementOf isCommand token).SpelledAs token.text := by
  unfold statementOf
  cases hkind : token.kind with
  | integer =>
    obtain ⟨n, hn⟩ := hconverts.integer hkind
    have hvalue : integerOf token = n := by rw [integerOf, hn]
    rw [hvalue]
    exact ⟨leaves_token (t := .integer) hmem (by decide) hkind, hn⟩
  | real => exact ⟨leaves_token (t := .real) hmem (by decide) hkind, rfl⟩
  | string =>
    obtain ⟨value, hvalue⟩ := hconverts.string hkind
    have hleaves := leaves_token (t := .string) hmem (by decide) hkind
    have hstring : stringOf token = value := by rw [stringOf, hvalue]
    rw [hstring]
    exact ⟨hleaves, innerOf token, text_of_string hleaves, hvalue⟩
  | store => exact text_of_marked (leaves_token (t := .store) hmem (by decide) hkind)
  | namedCall => exact text_of_marked (leaves_token (t := .namedCall) hmem (by decide) hkind)
  | atSign =>
    have hleaves := leaves_token (t := .atSign) hmem (by decide) hkind
    exact .inl (Pattern.leaves_char.1 hleaves)
  | word =>
    dsimp only
    split <;> rfl
  | keyword k =>
    have hword := eq_of_ofWord? (text_of_keyword hmem hkind)
    have htext : ∀ word, Text.ofList token.text = word → token.text = word.toList := by
      rintro word rfl
      rfl
    rw [hkind] at hatom
    cases k with
    | callWord => exact .inr (htext _ hword)
    | trueWord => exact htext _ hword
    | falseWord => exact htext _ hword
    | _ => cases hatom
  | blank | comment =>
    rw [hkind] at hatom
    cases hatom

/-! ## The tokens of statements -/

/-- Statements that are those of some of the tokens, in the order of the tokens. -/
def StandFor (isCommand : Text → Bool) (statements : List Statement) (tokens : List Lexeme) :
    Prop :=
  ∃ atoms : List Lexeme, atoms.Sublist tokens ∧ (∀ token ∈ atoms, isAtom token.kind = true) ∧
    statements = atoms.map (statementOf isCommand)

namespace StandFor

variable {statements others : List Statement} {tokens further : List Lexeme}

theorem nil (tokens : List Lexeme) : StandFor isCommand [] tokens :=
  ⟨[], List.nil_sublist tokens, by simp, rfl⟩

theorem single (token : Atom) : StandFor isCommand [statementOf isCommand token.1] [token.1] :=
  ⟨[token.1], List.Sublist.refl _, by simp [token.2], rfl⟩

theorem skip (token : Lexeme) (h : StandFor isCommand statements tokens) :
    StandFor isCommand statements (token :: tokens) := by
  obtain ⟨atoms, hsublist, hatoms, hstatements⟩ := h
  exact ⟨atoms, hsublist.cons token, hatoms, hstatements⟩

theorem append (h : StandFor isCommand statements tokens)
    (h' : StandFor isCommand others further) :
    StandFor isCommand (statements ++ others) (tokens ++ further) := by
  obtain ⟨atoms, hsublist, hatoms, rfl⟩ := h
  obtain ⟨atoms', hsublist', hatoms', rfl⟩ := h'
  refine ⟨atoms ++ atoms', hsublist.append hsublist', ?_, List.map_append.symm⟩
  exact List.forall_mem_append.2 ⟨hatoms, hatoms'⟩

/-- The last word of a block stands for no statement. -/
theorem close (h : StandFor isCommand statements tokens) (token : Lexeme) :
    StandFor isCommand statements (tokens ++ [token]) := by
  have happend := h.append (nil [token])
  rwa [List.append_nil] at happend

end StandFor

theorem located_statementOf (token : Lexeme) :
    (statementOf isCommand token).located = [statementOf isCommand token] := by
  unfold statementOf
  split <;> try rfl
  dsimp only
  split <;> rfl

mutual

/-- The statements with a place in the statement of a tree are those of some of its tokens. -/
theorem stands_tree (tree : Tree) :
    StandFor isCommand (tree.statement isCommand).located tree.tokens := by
  cases tree with
  | atom token =>
    rw [Tree.statement, located_statementOf, Tree.tokens]
    exact .single token
  | conditional opener condition mark body tail =>
    rw [Tree.statement, Statement.located, Branch.allLocated, Branch.located, Tree.tokens,
      List.append_assoc, List.append_assoc]
    exact ((stands_trees condition).append
      (((stands_trees body).append (stands_tail tail)).skip mark.1)).skip opener.1
  | loop opener condition mark body closer =>
    rw [Tree.statement, Statement.located, Tree.tokens]
    exact ((stands_trees condition).append (((stands_trees body).close closer.1).skip mark.1)).skip
      opener.1
  | definition opener name body closer =>
    rw [Tree.statement, Statement.located, Tree.tokens]
    exact (((stands_trees body).close closer.1).skip name.1).skip opener.1
  | function opener body closer =>
    rw [Tree.statement, Statement.located, Tree.tokens]
    exact ((stands_trees body).close closer.1).skip opener.1
termination_by structural tree

/-- The same of what follows the first branch of a conditional. -/
theorem stands_tail (tail : Tail) :
    StandFor isCommand
      (Branch.allLocated (tail.arms isCommand) ++ optionLocated (tail.otherwiseBody isCommand))
      tail.tokens := by
  cases tail with
  | elif opener condition mark body tail =>
    rw [Tail.arms, Tail.otherwiseBody, Branch.allLocated, Branch.located, Tail.tokens,
      List.append_assoc, List.append_assoc]
    exact ((stands_trees condition).append
      (((stands_trees body).append (stands_tail tail)).skip mark.1)).skip opener.1
  | otherwise opener body closer =>
    rw [Tail.arms, Tail.otherwiseBody, Branch.allLocated, optionLocated, Tail.tokens,
      List.nil_append]
    exact ((stands_trees body).close closer.1).skip opener.1
  | close closer =>
    rw [Tail.arms, Tail.otherwiseBody, Branch.allLocated, optionLocated]
    exact .nil _
termination_by structural tail

/-- The statements with a place in the program of a row of trees are those of some of its tokens. -/
theorem stands_trees (row : List Tree) :
    StandFor isCommand (located (treesProgram isCommand row)) (treesTokens row) := by
  cases row with
  | nil => exact .nil _
  | cons tree row =>
    rw [treesProgram, located, treesTokens]
    exact (stands_tree tree).append (stands_trees row)
termination_by structural row

end

/-- The places of a program are exact. Of a program that was read, the statements that have a place,
taken in the order of the text, stand one after the other; each of them stands where the source has
a token, reads just that token there, and is written as it. And all lexemes of the source together
are the source: besides the tokens there are only blanks and comments. -/
theorem parse_places_exact {source : Text} {file : Option Text} {program : Program}
    (h : Program.parse isCommand source file = .ok program) :
    ((located program).filterMap Statement.place?).Pairwise Location.Before ∧
    (∀ s ∈ located program, ∃ token ∈ (scan source).tokens,
      s.place? = some token.place ∧ Text.ReadsAt source.toList token.place token.text ∧
        s.SpelledAs token.text) ∧
    ((scan source).lexemes.map (·.text)).flatten = source.toList ∧
    ∀ lexeme ∈ (scan source).lexemes, lexeme ∈ (scan source).tokens ∨
      (∀ c ∈ lexeme.text, isSeparator c = true) ∨ commentPattern.Leaves lexeme.text [] := by
  obtain ⟨hstuck, row, hrow, hconverts, rfl⟩ := parse_ok_iff.1 h
  obtain ⟨atoms, hsublist, hatoms, hlocated⟩ := @stands_trees isCommand _ row
  rw [hrow] at hsublist
  rw [hlocated]
  refine ⟨?_, ?_, ?_, ?_⟩
  · -- the places of the statements are among those of the lexemes, in their order
    have hplaces : (atoms.map (statementOf isCommand)).filterMap Statement.place? =
        atoms.map (·.place) := by
      rw [List.filterMap_map, ← List.filterMap_eq_map]
      exact List.filterMap_congr fun token _ => place?_statementOf token
    have hordered : ((scan source).lexemes.map (·.place)).Pairwise Location.Before :=
      (places_scanFrom start source.toList).1.sublist (List.sublist_append_left _ _)
    rw [hplaces]
    exact hordered.sublist ((hsublist.trans List.filter_sublist).map _)
  · intro s hs
    obtain ⟨token, htoken, rfl⟩ := List.mem_map.1 hs
    have hmem := hsublist.subset htoken
    exact ⟨token, hmem, place?_statementOf token, readsAt_token hmem,
      spelledAs_statementOf hmem (hconverts token hmem) (hatoms token htoken)⟩
  · have hsplits : Splits start source.toList (scan source).lexemes := by
      rw [← scanFrom_eq_iff, ← hstuck]
      rfl
    exact hsplits.flatten
  · intro lexeme hmem
    cases htoken : lexeme.kind.isToken with
    | true => exact .inl (List.mem_filter.2 ⟨hmem, htoken⟩)
    | false => exact .inr (blank_or_comment_of_skipped hmem htoken)

end

section

attribute [local instance] Platform.basic

/-- The places of a program on three lines, with a comment, a tab, a carriage return and tokens that
touch each other. -/
theorem parse_places_exact_on_lines :
    let source : Text := "fn 1a # =b\r\n\t\"c\"@d\n@ end"
    let program : Program := [.define none [.literal (.int 1) ⟨1, 4⟩, .load "a" ⟨1, 5⟩,
      .literal (.string "c") ⟨2, 2⟩, .call (some "d") ⟨2, 5⟩, .call none ⟨3, 1⟩]]
    Program.parse (fun _ => false) source none = .ok program ∧
    ((located program).filterMap Statement.place?).Pairwise Location.Before ∧
    (∀ s ∈ located program, ∃ token ∈ (scan source).tokens,
      s.place? = some token.place ∧ Text.ReadsAt source.toList token.place token.text ∧
        s.SpelledAs token.text) ∧
    ((scan source).lexemes.map (·.text)).flatten = source.toList ∧
    ∀ lexeme ∈ (scan source).lexemes, lexeme ∈ (scan source).tokens ∨
      (∀ c ∈ lexeme.text, isSeparator c = true) ∨ commentPattern.Leaves lexeme.text [] := by
  intro source program
  have hparse : Program.parse (fun _ => false) source none = .ok program := by cbv
  exact ⟨hparse, parse_places_exact hparse⟩

end

end Syntax

end StackShell
