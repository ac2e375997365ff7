import StackShell.Proofs.Syntax.Lines

/-!
# Completable texts

A source text that is refused because a block is open can be completed by more lines, as long as its
literals can be read; a text that is refused for any other reason cannot be mended by anything that
follows (`parse_completable_iff`).

A text is completed by the words that close its open blocks, the innermost first. Conversely the
tokens of a text are the first tokens of every text that goes on after a line end, and the first
tokens of a program are refused only because more is needed (`parse_of_first`).
-/

namespace StackShell.Syntax

open Program

/-! ## Closing what is open -/

/-- The words that close a block, from the part on that is being read. -/
def OpenPart.closing : OpenPart → List Text
  | .ifCondition _ => ["then", "end"]
  | .whileCondition _ => ["do", "end"]
  | .ifBody .. | .elseBody .. | .whileBody .. | .defBody .. | .fnBody _ => ["end"]

/-- The words that close blocks, the innermost first. -/
def closingAll (levels : List OpenLevel) : List Text :=
  levels.flatMap (·.part.closing)

/-- The words that complete what has been read. A definition before its name gets one. -/
def TreeReader.closing : TreeReader → List Text
  | .statements _ levels => closingAll levels
  | .naming _ _ levels => "x" :: "end" :: closingAll levels

/-- The token of a word. -/
def wordToken (word : Text) : Lexeme :=
  ⟨match Keyword.ofWord? word with
    | some k => .keyword k
    | none => .word,
    word.toList, Token.start⟩

namespace TreeReader

/-- The closing words of a block are taken, and it becomes a tree. -/
theorem takeAll_closing (trees : List Tree) (level : OpenLevel) (levels : List OpenLevel)
    (rest : List Lexeme) :
    ∃ tree, (statements trees (level :: levels)).takeAll
        (level.part.closing.map wordToken ++ rest) =
      (statements (tree :: level.before) levels).takeAll rest := by
  obtain ⟨part, before⟩ := level
  let thenMark : Mark .thenWord := ⟨wordToken "then", rfl⟩
  let doMark : Mark .doWord := ⟨wordToken "do", rfl⟩
  let endMark : Mark .endWord := ⟨wordToken "end", rfl⟩
  cases part with
  | ifCondition opening =>
    exact ⟨_, (takeAll_cons (accept_mark thenMark) _).trans (takeAll_cons (accept_mark endMark) _)⟩
  | whileCondition opener =>
    exact ⟨_, (takeAll_cons (accept_mark doMark) _).trans (takeAll_cons (accept_mark endMark) _)⟩
  | ifBody | elseBody | whileBody | defBody | fnBody =>
    exact ⟨_, takeAll_cons (accept_mark endMark) _⟩

theorem takeAll_closingAll (trees : List Tree) (levels : List OpenLevel) :
    ∃ row, (statements trees levels).takeAll ((closingAll levels).map wordToken) =
      some (.statements row []) := by
  induction levels generalizing trees with
  | nil => exact ⟨trees, rfl⟩
  | cons level levels ih =>
    rw [closingAll, List.flatMap_cons, List.map_append]
    obtain ⟨tree, htree⟩ := takeAll_closing trees level levels ((closingAll levels).map wordToken)
    obtain ⟨row, hrow⟩ := ih (tree :: level.before)
    exact ⟨row, htree.trans hrow⟩

/-- Whatever has been read, its closing words complete it. -/
theorem exists_takeAll_closing (t : TreeReader) :
    ∃ row, t.takeAll (t.closing.map wordToken) = some (.statements row []) := by
  cases t with
  | statements trees levels => exact takeAll_closingAll trees levels
  | naming opener before levels =>
    let name : Name := ⟨wordToken "x", rfl⟩
    let endMark : Mark .endWord := ⟨wordToken "end", rfl⟩
    obtain ⟨row, hrow⟩ := takeAll_closingAll (.definition opener name [] endMark :: before) levels
    exact ⟨row, (takeAll_name opener name _).trans
      ((takeAll_cons (accept_mark endMark) _).trans hrow)⟩

/-- Tokens that are taken begin the tokens of a row of trees. -/
theorem exists_trees_of_takeAll {tokens : List Lexeme} {t : TreeReader}
    (h : empty.takeAll tokens = some t) :
    ∃ row, treesTokens row = tokens ++ t.closing.map wordToken := by
  obtain ⟨row, hrow⟩ := t.exists_takeAll_closing
  have hall : empty.takeAll (tokens ++ t.closing.map wordToken) = some (.statements row []) := by
    rw [takeAll_append, h, Option.bind_some, hrow]
  exact ⟨row.reverse, (tokens_of_takeAll hall).trans rfl⟩

end TreeReader

/-! ## The text of closing words -/

/-- The words that complete a text. -/
def closingWords : List Text :=
  ["then", "do", "end", "x"]

theorem mem_closingAll {word : Text} {levels : List OpenLevel} (h : word ∈ closingAll levels) :
    word ∈ closingWords := by
  obtain ⟨level, -, hword⟩ := List.mem_flatMap.1 h
  have hparts : level.part.closing ⊆ closingWords := by
    unfold OpenPart.closing
    split <;> decide
  exact hparts hword

theorem TreeReader.mem_closing {word : Text} {t : TreeReader} (h : word ∈ t.closing) :
    word ∈ closingWords := by
  cases t with
  | statements trees levels => exact mem_closingAll h
  | naming opener before levels =>
    rcases List.mem_cons.1 h with rfl | h
    · decide
    · rcases List.mem_cons.1 h with rfl | h
      · decide
      · exact mem_closingAll h

/-- Words, each with a blank behind it. -/
def wordsText (words : List Text) : List CodePoint :=
  words.flatMap fun word => word.toList ++ [.char ' ']

theorem lexeme?_closingWord {word : Text} (h : word ∈ closingWords) (rest : List CodePoint) :
    Token.lexeme? (word.toList ++ .char ' ' :: rest) =
      some ((wordToken word).kind, word.toList.length) := by
  have halone : ∀ word ∈ closingWords,
      Token.lexeme? word.toList = some ((wordToken word).kind, word.toList.length) ∧
        ∃ d text, word.toList = d :: text ∧ Token.isSeparator d = false ∧ d ≠ '"' ∧ d ≠ '#' := by
    intro word hword
    simp only [closingWords, List.mem_cons, List.not_mem_nil, or_false] at hword
    rcases hword with rfl | rfl | rfl | rfl <;>
      exact ⟨by decide +kernel, _, _, rfl, by decide, by decide, by decide⟩
  obtain ⟨hlexeme, d, text, htext, hd, hopen⟩ := halone word h
  rw [← hlexeme, htext]
  exact Token.lexeme?_append rfl hd (.inr hopen) text rest

theorem isToken_wordToken (word : Text) : (wordToken word).kind.isToken = true := by
  unfold wordToken
  dsimp only
  split <;> rfl

theorem cuts_wordsText {words : List Text} (h : ∀ word ∈ words, word ∈ closingWords) :
    Token.Cuts (wordsText words) ((words.map wordToken).map Token.bare) := by
  induction words with
  | nil => exact .done
  | cons word words ih =>
    obtain ⟨hword, hwords⟩ := List.forall_mem_cons.1 h
    rw [wordsText, List.flatMap_cons, List.append_assoc, List.singleton_append]
    exact (Token.cuts_word (lexeme?_closingWord hword _) (isToken_wordToken word)).2
      ⟨_, rfl, ih hwords⟩

theorem converts_wordToken [Platform] (word : Text) : Converts (wordToken word) := by
  apply converts_of_ne <;> unfold wordToken <;> dsimp only <;> split <;> simp

/-! ## Literals of a source text -/

theorem ofDigits_ok_iff {negative : Bool} {row : List CodePoint} :
    (∃ n, Decimal.ofDigits negative row = .ok n) ↔ row.length ≤ Decimal.digitLimit := by
  unfold Decimal.ofDigits
  split
  · next hlong => simp [hlong]
  · next hshort => simp [Nat.le_of_not_lt hshort]

/-- An integer that the scan has found is read exactly if it has few enough digits. -/
theorem readInteger_ok_iff {source : Text} {token : Lexeme}
    (hmem : token ∈ (Token.scan source).tokens) (hkind : token.kind = .integer) :
    (∃ n, Decimal.readInteger token.text = .ok n) ↔
      token.text.countP Text.isDigit ≤ Decimal.digitLimit := by
  obtain ⟨t, rest, hchosen, hterminal⟩ :=
    Token.chosen_of_mem_scanFrom (List.mem_of_mem_filter hmem)
  have hinteger : t.kind token.text = Token.Terminal.kind .integer [] :=
    hterminal.symm.trans hkind
  obtain rfl : t = .integer := Token.Terminal.eq_of_kind (by decide) hinteger
  -- the token is a sign or none, and then digits only
  obtain ⟨start, hsign, hdigits⟩ := Token.Pattern.leaves_seq.1 hchosen.fits.1.alone
  obtain ⟨run, hstart, hne, hrun⟩ := Token.Pattern.leaves_some1.1 hdigits
  rw [List.append_nil] at hstart
  subst hstart
  have hcount : start.countP Text.isDigit = start.length := List.countP_eq_length.2 hrun
  rcases Token.Pattern.leaves_perhaps.1 hsign with htext | hminus
  · -- no digit is a minus
    obtain ⟨c, tail, rfl⟩ := List.exists_cons_of_ne_nil hne
    have hc : c ≠ '-' := by
      rintro rfl
      have hminus := hrun '-' List.mem_cons_self
      rw [Token.minus_not_digit] at hminus
      cases hminus
    have hread : Decimal.readInteger token.text = Decimal.ofDigits false (c :: tail) := by
      rw [htext, Decimal.readInteger]
      intro row hrow
      exact hc (List.cons.inj hrow).1
    rw [hread, ofDigits_ok_iff, htext, hcount]
  · have htext := Token.Pattern.leaves_char.1 hminus
    rw [htext, Decimal.readInteger, ofDigits_ok_iff,
      List.countP_cons_of_neg (by simp [Token.minus_not_digit]), hcount]

/-! ## Incomplete texts -/

/-- All tokens of a text that ends too early are taken. -/
theorem exists_takeAll_of_incomplete [Platform] {isCommand : Text → Bool} {source : Text}
    {file : Option Text} {failure : Failure}
    (h : Program.parse isCommand source file = .error failure)
    (hincomplete : failure.isIncomplete = true) :
    (Token.scan source).stuck = none ∧
      ∃ t, TreeReader.empty.takeAll (Token.scan source).tokens = some t := by
  -- the blocks were not finished, or they were and a literal in them could not be read
  rcases bind_eq_error.1 h with h | ⟨nodes, hnodes, -⟩
  · unfold blocks at h
    dsimp only at h
    split at h
    · cases h
      cases hincomplete
    · next reader hreader =>
      obtain ⟨t, ht, -⟩ := TreeReader.exists_of_takeAll_ok hreader
      split at h
      · cases h
        cases hincomplete
      · cases h
      · next hstuck _ => exact ⟨hstuck, t, ht⟩
  · obtain ⟨hstuck, row, htokens, -⟩ := blocks_ok_iff.1 hnodes
    rw [← htokens]
    exact ⟨hstuck, _, TreeReader.takeAll_tokens row⟩

/-- A text whose tokens are taken and convert is completed by the words that close its blocks. -/
theorem exists_completion [Platform] (isCommand : Text → Bool) (file : Option Text) {source : Text}
    {t : TreeReader} (hstuck : (Token.scan source).stuck = none)
    (ht : TreeReader.empty.takeAll (Token.scan source).tokens = some t)
    (hconverts : ∀ token ∈ (Token.scan source).tokens, Converts token) :
    ∃ more program, Program.parse isCommand (source ++ "\n" ++ more) file = .ok program := by
  let closers := t.closing.map wordToken
  obtain ⟨row, hrow⟩ := TreeReader.exists_trees_of_takeAll ht
  let whole := source ++ "\n" ++ Text.ofList (wordsText t.closing)
  have hwhole : whole.toList = source.toList ++ .char '\n' :: wordsText t.closing := by
    simp [whole]
  have hcuts : Token.Cuts whole.toList
      (((Token.scan source).tokens ++ closers).map Token.bare) := by
    rw [hwhole, List.map_append]
    exact Token.cuts_line.2 ⟨_, _, rfl, Token.cuts_scan.2 ⟨hstuck, rfl⟩,
      cuts_wordsText fun word hword => TreeReader.mem_closing hword⟩
  obtain ⟨hstuck', hbare⟩ := Token.cuts_scan.1 hcuts
  -- the trees are moved to where the whole text has their tokens
  have hshapes : (Token.scan whole).tokens.map (shape isCommand) =
      (treesTokens row).map (shape isCommand) := by
    rw [hrow]
    exact shapes_of_bare hbare
  obtain ⟨moved, hmoved, -⟩ := exists_trees_of_shapes row hshapes
  have hall : ∀ token ∈ (Token.scan source).tokens ++ closers, Converts token := by
    intro token htoken
    rcases List.mem_append.1 htoken with htoken | htoken
    · exact hconverts token htoken
    · obtain ⟨word, -, rfl⟩ := List.mem_map.1 htoken
      exact converts_wordToken word
  exact ⟨_, _, parse_ok_iff.2 ⟨hstuck', moved, hmoved, forall_converts_bare hbare hall, rfl⟩⟩

/-- If a text can be completed, its tokens convert, and if it is refused at all, it is because more
is needed. -/
theorem incomplete_of_completion [Platform] {isCommand : Text → Bool} {source more : Text}
    {file : Option Text} {program : Program}
    (h : Program.parse isCommand (source ++ "\n" ++ more) file = .ok program) :
    (∀ token ∈ (Token.scan source).tokens, Converts token) ∧
      ∀ failure, Program.parse isCommand source file = .error failure →
        failure.isIncomplete = true := by
  obtain ⟨hstuck, row, htokens, hconverts, -⟩ := parse_ok_iff.1 h
  have hcuts := Token.cuts_scan.2 ⟨hstuck, rfl⟩
  have hwhole : (source ++ "\n" ++ more).toList = source.toList ++ .char '\n' :: more.toList := by
    simp
  rw [hwhole, Token.cuts_line] at hcuts
  obtain ⟨first, second, hrow, hfirst, -⟩ := hcuts
  obtain ⟨hstuck', hbare⟩ := Token.cuts_scan.1 hfirst
  -- the whole text begins with the tokens of the source, each at its place in the whole text
  obtain ⟨own, others, hsplit, hown, -⟩ := List.map_eq_append_iff.1 hrow
  have hbare' : (Token.scan source).tokens.map Token.bare = own.map Token.bare :=
    hbare.trans hown.symm
  rw [← htokens] at hconverts hsplit
  refine ⟨forall_converts_bare hbare' fun token htoken => hconverts token ?_, ?_⟩
  · rw [hsplit]
    exact List.mem_append_left others htoken
  · intro failure hfailure
    rcases parse_of_first isCommand file hstuck' hbare' hsplit hconverts with
      ⟨program, -, hparse, -⟩ | ⟨-, failure', hparse, hincomplete⟩
    · rw [hfailure] at hparse
      cases hparse
    · rw [hfailure] at hparse
      cases hparse
      exact hincomplete

/-- A refused text can be completed by further lines exactly if it ends too early, each of its
strings decodes and each of its integers has few enough digits. -/
theorem parse_completable_iff [Platform] {isCommand : Text → Bool} {source : Text}
    {file : Option Text}
    {failure : Failure} (h : Program.parse isCommand source file = .error failure) :
    (∃ more program, Program.parse isCommand (source ++ "\n" ++ more) file = .ok program) ↔
      failure.isIncomplete = true ∧ ∀ token ∈ (Token.scan source).tokens,
        (token.kind = .string → ∃ text, Escape.decode (innerOf token) = .ok text) ∧
          (token.kind = .integer → token.text.countP Text.isDigit ≤ Decimal.digitLimit) := by
  constructor
  · rintro ⟨more, program, hparse⟩
    obtain ⟨hconverts, hincomplete⟩ := incomplete_of_completion hparse
    refine ⟨hincomplete failure h, fun token htoken => ?_⟩
    have hconverts := hconverts token htoken
    exact ⟨hconverts.string, fun hkind => (readInteger_ok_iff htoken hkind).1
      (hconverts.integer hkind)⟩
  · rintro ⟨hincomplete, hreadable⟩
    obtain ⟨hstuck, t, ht⟩ := exists_takeAll_of_incomplete h hincomplete
    refine exists_completion isCommand file hstuck ht fun token htoken => ?_
    obtain ⟨hstring, hinteger⟩ := hreadable token htoken
    exact ⟨hstring, fun hkind => (readInteger_ok_iff htoken hkind).2 (hinteger hkind)⟩

section

attribute [local instance] Platform.basic

/-- An open conditional with a string and an integer in it can be completed; a text that closes a
block too many cannot be mended. -/
theorem parse_completable_conditional :
    (∃ failure, Program.parse (fun _ => false) "if x then \"a\" 12" none = .error failure ∧
      ∃ more program,
        Program.parse (fun _ => false) ("if x then \"a\" 12" ++ "\n" ++ more) none = .ok program) ∧
    ∃ failure, Program.parse (fun _ => false) "x end" none = .error failure ∧
      ¬∃ more program,
        Program.parse (fun _ => false) ("x end" ++ "\n" ++ more) none = .ok program := by
  have hopen : Program.parse (fun _ => false) "if x then \"a\" 12" none =
      .error (.of (.parse ⟨.endOfInput, ⟨1, 15⟩, none⟩)) := by cbv
  have hclosed : Program.parse (fun _ => false) "x end" none =
      .error (.of (.parse ⟨.token "end", ⟨1, 3⟩, none⟩)) := by cbv
  have htokens : (Token.scan "if x then \"a\" 12").tokens =
      [⟨.keyword .ifWord, [.char 'i', .char 'f'], ⟨1, 1⟩⟩, ⟨.word, [.char 'x'], ⟨1, 4⟩⟩,
        ⟨.keyword .thenWord, [.char 't', .char 'h', .char 'e', .char 'n'], ⟨1, 6⟩⟩,
        ⟨.string, [.char '"', .char 'a', .char '"'], ⟨1, 11⟩⟩,
        ⟨.integer, [.char '1', .char '2'], ⟨1, 15⟩⟩] := by cbv
  refine ⟨⟨_, hopen, (parse_completable_iff hopen).2 ⟨rfl, ?_⟩⟩, _, hclosed, ?_⟩
  · rw [htokens]
    simp only [List.forall_mem_cons, List.not_mem_nil, false_implies, implies_true, and_true]
    refine ⟨by simp, by simp, by simp, ⟨fun _ => ⟨"a", by cbv⟩, by simp⟩, by simp, fun _ => ?_⟩
    decide
  · rw [parse_completable_iff hclosed]
    rintro ⟨hincomplete, -⟩
    cases hincomplete

end

end StackShell.Syntax
