import StackShell.Proofs.Printing.Literals

/-!
# Programs read back

A program that was read, written as a source text and read again. It comes back, apart from its
places, exactly if every literal in it is legible: no string holds a line end, a null character or a
surrogate that stands alone, and every real is written as a text that the scanner takes for one real
(`parse_source_iff`).

The argument goes token by token. A token whose literal is legible is scanned again from its word
as a token that contributes the same (`lexeme?_wordOf`, `shape_rewritten`); from the word of any
other one the scanner gets no token, or one that contributes something else or does not convert
(`not_converts_of_cuts`).
-/

namespace StackShell

open Token

/-- A literal that a source text can hold the way it is written. -/
structure Value.Legible (v : Value) : Prop where
  string : ∀ text, v = .string text →
    .char '\n' ∉ text.toList ∧ .char '\r' ∉ text.toList ∧ .char '\x00' ∉ text.toList ∧
      text.Encodable
  real : ∀ x, v = .number (.float x) →
    ∃ text, v.source = .ok text ∧ realPattern.Leaves text.toList []

mutual

/-- The literals in a statement. -/
def Statement.literals : Statement → List Value
  | .literal value _ => [value]
  | .conditional branches otherwise =>
    Branch.allLiterals branches ++ Program.optionLiterals otherwise
  | .whileLoop condition body => Program.literals condition ++ Program.literals body
  | .define _ body => Program.literals body
  | .load .. | .store .. | .invoke .. | .call .. | .stray => []
termination_by structural x => x

/-- The literals in a program. -/
def Program.literals : List Statement → List Value
  | [] => []
  | s :: rest => Statement.literals s ++ Program.literals rest
termination_by structural x => x

/-- The literals in a program that may be missing. -/
def Program.optionLiterals : Option (List Statement) → List Value
  | none => []
  | some body => Program.literals body
termination_by structural x => x

/-- The literals in a branch. -/
def Branch.literals : Branch → List Value
  | .mk condition body => Program.literals condition ++ Program.literals body
termination_by structural x => x

/-- The literals in branches. -/
def Branch.allLiterals : List Branch → List Value
  | [] => []
  | b :: rest => Branch.literals b ++ Branch.allLiterals rest
termination_by structural x => x

end

namespace Syntax

open Program

variable {isCommand : Text → Bool}

/-! ## The literals of tokens -/

/-- The value that a token writes, if it is a literal. -/
def literalOf? [Platform] (token : Lexeme) : Option Value :=
  match token.kind with
  | .integer => some (.int (integerOf token))
  | .real => some (.number (.float (Decimal.readReal token.text)))
  | .string => some (.string (stringOf token))
  | .keyword .trueWord => some (.boolean true)
  | .keyword .falseWord => some (.boolean false)
  | _ => none

theorem literals_statementOf [Platform] (token : Lexeme) :
    (statementOf isCommand token).literals = (literalOf? token).toList := by
  rw [statementOf, literalOf?]
  cases hkind : token.kind with
  | integer | real | string | store | namedCall | atSign => rfl
  | word | blank | comment =>
    dsimp only
    split <;> rfl
  | keyword k =>
    cases k <;> first
      | rfl
      | dsimp only
        split <;> rfl

theorem literalOf?_mark [Platform] {k : Keyword} (hk : isAtom (.keyword k) = false)
    (mark : Mark k) :
    literalOf? mark.1 = none := by
  rw [literalOf?, mark.2]
  cases k <;> first
    | rfl
    | cases hk

theorem literalOf?_name [Platform] (name : Name) : literalOf? name.1 = none := by
  rw [literalOf?, name.2]

mutual

/-- The literals in a statement are those of its tokens. -/
theorem literals_tree [Platform] (tree : Tree) :
    (tree.statement isCommand).literals = tree.tokens.filterMap literalOf? := by
  cases tree with
  | atom token =>
    rw [Tree.statement, Tree.tokens, literals_statementOf]
    cases h : literalOf? token.1 <;> simp [h]
  | conditional opener condition mark body tail =>
    have hc := literals_trees condition
    have hb := literals_trees body
    have ht := literals_tail tail
    simp [Tree.statement, Statement.literals, Branch.allLiterals, Branch.literals, Tree.tokens,
      literalOf?_mark rfl opener, literalOf?_mark rfl mark, hc, hb, ht]
  | loop opener condition mark body closer =>
    have hc := literals_trees condition
    have hb := literals_trees body
    simp [Tree.statement, Statement.literals, Tree.tokens, literalOf?_mark rfl opener,
      literalOf?_mark rfl mark, literalOf?_mark rfl closer, hc, hb]
  | definition opener name body closer =>
    have hb := literals_trees body
    simp [Tree.statement, Statement.literals, Tree.tokens, literalOf?_mark rfl opener,
      literalOf?_name name, literalOf?_mark rfl closer, hb]
  | function opener body closer =>
    have hb := literals_trees body
    simp [Tree.statement, Statement.literals, Tree.tokens, literalOf?_mark rfl opener,
      literalOf?_mark rfl closer, hb]
termination_by structural tree

/-- The literals behind a branch are those of its tokens. -/
theorem literals_tail [Platform] (tail : Tail) :
    Branch.allLiterals (tail.arms isCommand) ++ optionLiterals (tail.otherwiseBody isCommand) =
      tail.tokens.filterMap literalOf? := by
  cases tail with
  | elif opener condition mark body tail =>
    have hc := literals_trees condition
    have hb := literals_trees body
    have ht := literals_tail tail
    simp [Tail.arms, Tail.otherwiseBody, Branch.allLiterals, Branch.literals, Tail.tokens,
      literalOf?_mark rfl opener, literalOf?_mark rfl mark, hc, hb, ht]
  | otherwise opener body closer =>
    have hb := literals_trees body
    simp [Tail.arms, Tail.otherwiseBody, Branch.allLiterals, optionLiterals, Tail.tokens,
      literalOf?_mark rfl opener, literalOf?_mark rfl closer, hb]
  | close closer =>
    simp [Tail.arms, Tail.otherwiseBody, Branch.allLiterals, optionLiterals, Tail.tokens,
      literalOf?_mark rfl closer]
termination_by structural tail

/-- The literals in a program are those of its tokens. -/
theorem literals_trees [Platform] (row : List Tree) :
    literals (treesProgram isCommand row) = (treesTokens row).filterMap literalOf? := by
  cases row with
  | nil => rfl
  | cons tree row =>
    have htree := literals_tree tree
    have hrow := literals_trees row
    simp [treesProgram, literals, treesTokens, htree, hrow]
termination_by structural row

end

/-! ## Tokens read back -/

/-- The kind of token that the word of a token is. -/
def rewrittenKind : LexemeKind → LexemeKind
  | .keyword .callWord => .atSign
  | kind => kind

/-- The token that the word of a token is scanned as. -/
def rewritten [Platform] (token : Lexeme) : Lexeme :=
  ⟨rewrittenKind token.kind, wordOf token, token.place⟩

theorem eq_of_rewrittenKind {kind kind' : LexemeKind} (hkind : kind ≠ .atSign)
    (h : rewrittenKind kind' = kind) : kind' = kind := by
  unfold rewrittenKind at h
  split at h
  · exact absurd h.symm hkind
  · exact h

/-- A token that stands for itself: the whole of its text, and seen by the parser. -/
structure Scanned (token : Lexeme) : Prop where
  alone : lexeme? token.text = some (token.kind, token.text.length)
  seen : token.kind.isToken = true

/-- The mark of a store or a named call is its first character. -/
theorem Scanned.mark {token : Lexeme} (h : Scanned token) {t : Terminal} {mark : CodePoint}
    (hpattern : t.pattern = markedPattern mark) (ht : t ≠ .word) (hkind : token.kind = t.kind []) :
    mark :: token.text.drop 1 = token.text := by
  obtain ⟨-, t', hchosen, hkind'⟩ := lexeme?_eq_some_iff.1 h.alone
  obtain rfl := Terminal.eq_of_kind ht (hkind'.symm.trans hkind)
  have hleaves := hchosen.fits.1
  rw [hpattern] at hleaves
  obtain ⟨middle, hmark, -⟩ := Pattern.leaves_seq.1 hleaves
  rw [Pattern.leaves_char.1 hmark]
  rfl

/-- Names are written as they stand. -/
theorem wordOf_name [Platform] {token : Lexeme} (h : Scanned token)
    (hkind : token.kind = .store ∨ token.kind = .namedCall ∨ token.kind = .word) :
    wordOf token = token.text := by
  unfold wordOf
  obtain hkind | hkind | hkind := hkind <;> rw [hkind]
  · exact h.mark (t := .store) rfl (by decide) hkind
  · exact h.mark (t := .namedCall) rfl (by decide) hkind

/-- The characters of the word of an integer. -/
theorem wordOf_integer [Platform] {token : Lexeme} (hkind : token.kind = .integer) :
    wordOf token = (Decimal.Numeral.ofNat (decide (integerOf token < 0))
      (integerOf token).natAbs).chars := by
  rw [wordOf, hkind]
  dsimp only
  rw [Decimal.integerText?_eq (natAbs_integerOf_lt token), Option.getD_some, Text.toList_ofList]

theorem wordOf_string [Platform] {token : Lexeme} (hkind : token.kind = .string) :
    wordOf token = .char '"' :: ((stringOf token).toList.flatMap sourceChar ++ [.char '"']) := by
  rw [wordOf, hkind]
  simp [sourceString]

/-- The text of a real that matches the pattern of reals is scanned as a real, and read back. -/
theorem lexeme?_realText {x : Float}
    (h : realPattern.Leaves (Decimal.realText x).toList []) :
    lexeme? (Decimal.realText x).toList = some (.real, (Decimal.realText x).toList.length) ∧
      Decimal.readReal (Decimal.realText x).toList = x := by
  have hword : ∀ {text : Text}, realLength? text.toList = none →
      ¬realPattern.Leaves text.toList [] := by
    intro text hnone hleaves
    obtain ⟨n, hn, -⟩ := measures_real.longest hleaves
    rw [hnone] at hn
    cases hn
  cases hx : Decimal.Binary.ofFloat x with
  | finite negative mantissa exponent =>
    obtain ⟨n, -, htext, hread⟩ := Decimal.exists_numeral_realText hx
    rw [htext, Text.toList_ofList] at h ⊢
    have hfraction := (leaves_numeral n).1 h
    rw [lexeme?_numeral, if_neg hfraction]
    exact ⟨rfl, hread⟩
  | infinite negative =>
    rw [Decimal.realText, hx] at h
    cases negative
    · exact absurd h (hword (by decide +kernel))
    · exact absurd h (hword (by decide +kernel))
  | nan =>
    rw [Decimal.realText, hx] at h
    exact absurd h (hword (by decide +kernel))

/-- The text of any other real starts with a token that is no real. -/
theorem exists_lexeme?_realText {x : Float}
    (h : ¬realPattern.Leaves (Decimal.realText x).toList []) :
    ∃ kind n, lexeme? (Decimal.realText x).toList = some (kind, n) ∧ kind.isToken = true ∧
      kind ≠ .real ∧ kind ≠ .string := by
  cases hx : Decimal.Binary.ofFloat x with
  | finite negative mantissa exponent =>
    obtain ⟨n, -, htext, -⟩ := Decimal.exists_numeral_realText hx
    rw [htext, Text.toList_ofList] at h ⊢
    have hfraction := not_not.1 fun hne => h ((leaves_numeral n).2 hne)
    rw [lexeme?_numeral, if_pos hfraction]
    exact ⟨_, _, rfl, rfl, by decide, by decide⟩
  | infinite negative =>
    rw [Decimal.realText, hx]
    refine ⟨.word, if negative then 4 else 3, ?_, rfl, by decide, by decide⟩
    cases negative <;> decide +kernel
  | nan =>
    rw [Decimal.realText, hx]
    exact ⟨.word, 3, by decide +kernel, rfl, by decide, by decide⟩

theorem source_real (x : Float) :
    (Value.number (.float x)).source = .ok (Decimal.realText x) :=
  rfl

/-- A real is legible exactly if its text matches the pattern of reals. -/
theorem legible_real [Platform] {token : Lexeme} (hkind : token.kind = .real) :
    (∀ v ∈ literalOf? token, v.Legible) ↔ realPattern.Leaves (wordOf token) [] := by
  rw [literalOf?, wordOf, hkind]
  constructor
  · intro h
    obtain ⟨text, htext, hleaves⟩ := (h _ rfl).real _ rfl
    rw [source_real] at htext
    cases htext
    exact hleaves
  · rintro hleaves v ⟨⟩
    refine ⟨fun _ h => (by cases h), ?_⟩
    rintro x ⟨⟩
    exact ⟨_, source_real _, hleaves⟩

theorem legible_string [Platform] {token : Lexeme} (hkind : token.kind = .string) :
    (∀ v ∈ literalOf? token, v.Legible) ↔ .char '\n' ∉ (stringOf token).toList ∧
      .char '\r' ∉ (stringOf token).toList ∧ .char '\x00' ∉ (stringOf token).toList ∧
      (stringOf token).Encodable := by
  rw [literalOf?, hkind]
  constructor
  · intro h
    exact (h _ rfl).string _ rfl
  · rintro hchars v ⟨⟩
    refine ⟨?_, fun _ h => (by cases h)⟩
    rintro text ⟨⟩
    exact hchars

/-- A keyword is scanned as itself, apart from the one that is written as a sign. -/
theorem lexeme?_keywordText (k : Keyword) :
    lexeme? (keywordText k).toList =
      some (rewrittenKind (.keyword k), (keywordText k).toList.length) := by
  cases k <;> decide +kernel

theorem lexeme?_atSign : lexeme? [.char '@'] = some (.atSign, 1) := by
  decide +kernel

theorem lexeme?_wordOf_alone [Platform] {token : Lexeme} (h : Scanned token)
    (hstring : token.kind ≠ .string) (hlegible : ∀ v ∈ literalOf? token, v.Legible) :
    lexeme? (wordOf token) = some (rewrittenKind token.kind, (wordOf token).length) := by
  cases hkind : token.kind with
  | string => exact absurd hkind hstring
  | integer =>
    rw [wordOf_integer hkind, lexeme?_numeral, if_pos (by rfl)]
    simp [rewrittenKind, Decimal.Numeral.chars, Decimal.Numeral.fractionChars,
      Decimal.Numeral.powerChars, Decimal.Numeral.ofNat]
  | real =>
    have hleaves := (legible_real hkind).1 hlegible
    rw [wordOf, hkind] at hleaves ⊢
    exact (lexeme?_realText hleaves).1
  | store | namedCall | word =>
    rw [wordOf_name h (by simp [hkind]), h.alone, hkind]
    rfl
  | atSign =>
    rw [wordOf, hkind]
    exact lexeme?_atSign
  | keyword k =>
    rw [wordOf, hkind]
    exact lexeme?_keywordText k
  | blank | comment =>
    have hseen := h.seen
    rw [hkind] at hseen
    cases hseen

theorem isToken_rewrittenKind {kind : LexemeKind} (h : kind.isToken = true) :
    (rewrittenKind kind).isToken = true := by
  unfold rewrittenKind
  split
  · rfl
  · exact h

/-- The word of a string is scanned as one token, unless the string holds a line end. -/
theorem lexeme?_wordOf_string [Platform] {token : Lexeme} (hkind : token.kind = .string)
    (rest : List CodePoint) :
    lexeme? (wordOf token ++ rest) =
      if .char '\n' ∈ (stringOf token).toList ∨ .char '\r' ∈ (stringOf token).toList then none
      else some (.string, (wordOf token).length) := by
  rw [wordOf_string hkind, List.cons_append, List.append_assoc, List.singleton_append,
    lexeme?_quote, closeLength?_sourceChars]
  split
  · rfl
  · simp

/-- The word of a token with a legible literal is scanned as one token. -/
theorem lexeme?_wordOf [Platform] {token : Lexeme} (h : Scanned token)
    (hlegible : ∀ v ∈ literalOf? token, v.Legible) {rest : List CodePoint}
    (hrest : ∀ c ∈ rest.head?, c = ' ') :
    lexeme? (wordOf token ++ rest) = some (rewrittenKind token.kind, (wordOf token).length) := by
  by_cases hkind : token.kind = .string
  · obtain ⟨hfeed, hreturn, -, -⟩ := (legible_string hkind).1 hlegible
    rw [lexeme?_wordOf_string hkind, if_neg (by simp [hfeed, hreturn]), hkind]
    rfl
  · refine lexeme?_continued (lexeme?_wordOf_alone h hkind hlegible) ?_
      (isToken_rewrittenKind h.seen) hrest
    intro hstring
    exact hkind (eq_of_rewrittenKind (by decide) hstring)

/-- The integer of a token is read back from its word. -/
theorem readInteger_wordOf [Platform] {token : Lexeme} (hkind : token.kind = .integer) :
    Decimal.readInteger (wordOf token) = .ok (integerOf token) := by
  rw [wordOf_integer hkind]
  exact Decimal.readInteger_ofNat (natAbs_integerOf_lt token)

/-- Between the quotes of the word of a string stands what the string is written as. -/
theorem innerOf_wordOf [Platform] {token token' : Lexeme} (hkind : token.kind = .string)
    (htext : token'.text = wordOf token) :
    innerOf token' = (stringOf token).toList.flatMap sourceChar := by
  rw [innerOf, htext, wordOf_string hkind, List.drop_one, List.tail_cons, List.dropLast_concat]

/-- The string of a token is read back from its word, if it holds neither a null character nor a
surrogate that stands alone. -/
theorem decode_wordOf [Platform] {token token' : Lexeme} (hkind : token.kind = .string)
    (htext : token'.text = wordOf token) (hnull : .char '\x00' ∉ (stringOf token).toList)
    (hchars : (stringOf token).Encodable) :
    Escape.decode (innerOf token') = .ok (stringOf token) := by
  rw [innerOf_wordOf hkind htext]
  exact Escape.decode_sourceChars hnull hchars

/-- The word of a token with a legible literal contributes what the token does. -/
theorem shape_rewritten [Platform] {token : Lexeme} (h : Scanned token)
    (hlegible : ∀ v ∈ literalOf? token, v.Legible) :
    shape isCommand (rewritten token) = shape isCommand token := by
  unfold shape statementOf
  cases hkind : token.kind with
  | integer =>
    have hread : integerOf (rewritten token) = integerOf token := by
      rw [integerOf, rewritten]
      dsimp only
      rw [readInteger_wordOf hkind]
    simp only [rewritten, rewrittenKind, hkind] at hread ⊢
    rw [hread]
  | string =>
    obtain ⟨-, -, hnull, hchars⟩ := (legible_string hkind).1 hlegible
    have hread : stringOf (rewritten token) = stringOf token := by
      rw [stringOf, decode_wordOf hkind rfl hnull hchars]
    simp only [rewritten, rewrittenKind, hkind] at hread ⊢
    rw [hread]
  | real =>
    have hleaves := (legible_real hkind).1 hlegible
    have hread : Decimal.readReal (wordOf token) = Decimal.readReal token.text := by
      rw [wordOf, hkind] at hleaves ⊢
      exact (lexeme?_realText hleaves).2
    simp only [rewritten, rewrittenKind, hkind]
    rw [hread]
  | store | namedCall | word =>
    -- a name is written as it stands
    simp only [rewritten, rewrittenKind, hkind, nameOf, wordOf_name h (by simp [hkind])]
  | atSign => simp only [rewritten, rewrittenKind, hkind]
  | keyword k => cases k <;> simp only [rewritten, rewrittenKind, hkind] <;> rfl
  | blank | comment =>
    simp only [rewritten, rewrittenKind, hkind]
    rfl

theorem converts_rewritten [Platform] {token : Lexeme}
    (hlegible : ∀ v ∈ literalOf? token, v.Legible) :
    Converts (rewritten token) := by
  constructor
  · intro hstring
    replace hstring := eq_of_rewrittenKind (by decide) hstring
    obtain ⟨-, -, hnull, hchars⟩ := (legible_string hstring).1 hlegible
    exact ⟨_, decode_wordOf hstring rfl hnull hchars⟩
  · intro hinteger
    exact ⟨_, readInteger_wordOf (eq_of_rewrittenKind (by decide) hinteger)⟩

/-- Only a real contributes what a real does. -/
theorem kind_of_shape_real [Platform] {token token' : Lexeme} (hkind : token.kind = .real)
    (h : shape isCommand token' = shape isCommand token) : token'.kind = .real := by
  have hatom : isAtom token.kind = true := by
    rw [hkind]
    rfl
  obtain ⟨hatom', h⟩ := isAtom_of_shape_atom (h.trans (shape_atom ⟨token, hatom⟩))
  unfold statementOf at h
  rw [hkind] at h
  cases hkind' : token'.kind with
  | real => rfl
  | word =>
    rw [hkind'] at h
    dsimp only at h
    split at h <;> cases h
  | integer | string | store | namedCall | atSign =>
    rw [hkind'] at h
    cases h
  | keyword k =>
    rw [hkind'] at h hatom'
    cases k <;> first
      | exact absurd hatom' Bool.false_ne_true
      | cases h
  | blank | comment =>
    rw [hkind'] at hatom'
    cases hatom'

/-- A literal that is neither a string nor a real is legible. -/
theorem legible_of_kind [Platform] {token : Lexeme} (hstring : token.kind ≠ .string)
    (hreal : token.kind ≠ .real) : ∀ v ∈ literalOf? token, v.Legible := by
  intro v hv
  rw [literalOf?] at hv
  cases hkind : token.kind with
  | string => exact absurd hkind hstring
  | real => exact absurd hkind hreal
  | integer =>
    rw [hkind] at hv
    cases hv
    exact ⟨fun _ h => (by cases h), fun _ h => (by cases h)⟩
  | keyword k =>
    rw [hkind] at hv
    cases k <;> cases hv <;> exact ⟨fun _ h => (by cases h), fun _ h => (by cases h)⟩
  | store | namedCall | atSign | word | blank | comment =>
    rw [hkind] at hv
    cases hv

section Cuts

variable [Platform] {token token' : Lexeme} {rest : List CodePoint}
    {others : List (LexemeKind × List CodePoint)}
  (hcuts : Cuts (wordOf token ++ rest) (bare token' :: others))
include hcuts

/-- The word of an illegible string is not read back: with a line end in it, it is no token. -/
theorem not_converts_of_cuts_string (hkind : token.kind = .string)
    (hlegible : ¬∀ v ∈ literalOf? token, v.Legible) : ¬Converts token' := by
  rw [legible_string hkind, ← and_assoc, ← not_or] at hlegible
  have hlexeme := lexeme?_wordOf_string hkind rest
  by_cases hline : .char '\n' ∈ (stringOf token).toList ∨ .char '\r' ∈ (stringOf token).toList
  · rw [if_pos hline] at hlexeme
    rw [wordOf_string hkind, List.cons_append] at hlexeme hcuts
    exact absurd hcuts (not_cuts_of_lexeme?_none hlexeme)
  · rw [if_neg hline] at hlexeme
    obtain ⟨row, hrow, -⟩ := (cuts_of_token hlexeme rfl).1 hcuts
    rw [List.take_left] at hrow
    obtain ⟨hkind', htext⟩ := Prod.mk.inj (List.cons.inj hrow).1
    -- without one it holds a null character or a surrogate, with which no string converts
    intro hconverts
    obtain ⟨text, hdecode⟩ := hconverts.string hkind'
    rw [innerOf_wordOf hkind htext] at hdecode
    exact hlegible ⟨hline, Escape.of_decode_sourceChars hdecode⟩

/-- The word of a real that is illegible is scanned as something else. -/
theorem kind_ne_real_of_cuts (hkind : token.kind = .real)
    (hlegible : ¬∀ v ∈ literalOf? token, v.Legible) (hrest : ∀ c ∈ rest.head?, c = ' ') :
    token'.kind ≠ .real := by
  rw [legible_real hkind] at hlegible
  have hword : wordOf token = (Decimal.realText (Decimal.readReal token.text)).toList := by
    rw [wordOf, hkind]
  rw [hword] at hlegible hcuts
  obtain ⟨kind, n, hlexeme, htoken, hreal, hstring⟩ := exists_lexeme?_realText hlegible
  have hlexeme' := lexeme?_continued hlexeme hstring htoken hrest
  obtain ⟨row, hrow, -⟩ := (cuts_of_token hlexeme' htoken).1 hcuts
  obtain ⟨hkind', -⟩ := Prod.mk.inj (List.cons.inj hrow).1
  exact fun h => hreal (hkind'.symm.trans h)

/-- The word of any other token is not read back: what it is scanned as first, if anything, does
not contribute the same or does not convert. -/
theorem not_converts_of_cuts (hlegible : ¬∀ v ∈ literalOf? token, v.Legible)
    (hrest : ∀ c ∈ rest.head?, c = ' ')
    (hshape : shape isCommand token' = shape isCommand token) : ¬Converts token' := by
  by_cases hstring : token.kind = .string
  · exact not_converts_of_cuts_string hcuts hstring hlegible
  · by_cases hreal : token.kind = .real
    · exact absurd (kind_of_shape_real hreal hshape)
        (kind_ne_real_of_cuts hcuts hreal hlegible hrest)
    · exact absurd (legible_of_kind hstring hreal) hlegible

end Cuts

/-! ## Programs read back -/

theorem head_continued (words : List (List CodePoint)) :
    ∀ c ∈ (continued words).head?, c = ' ' := by
  unfold continued
  split
  · simp
  · simp

/-- A line goes on behind its first word. -/
theorem cuts_spaced {word : List CodePoint} {words : List (List CodePoint)} {kind : LexemeKind}
    {row : List (LexemeKind × List CodePoint)}
    (h : lexeme? (word ++ continued words) = some (kind, word.length))
    (hkind : kind.isToken = true) :
    Cuts (spaced (word :: words)) row ↔
      ∃ others, row = (kind, word) :: others ∧ Cuts (spaced words) others := by
  rw [spaced_cons]
  cases words with
  | nil =>
    rw [cuts_of_token h hkind, List.take_left, List.drop_left]
    rfl
  | cons word' words => exact cuts_word h hkind

/-- The words of tokens with legible literals are cut into what these tokens are written as. -/
theorem cuts_words [Platform] {tokens : List Lexeme} (h : ∀ token ∈ tokens, Scanned token)
    (hlegible : ∀ v ∈ tokens.filterMap literalOf?, v.Legible) :
    Cuts (spaced (tokens.map wordOf)) ((tokens.map rewritten).map bare) := by
  induction tokens with
  | nil => exact .done
  | cons token tokens ih =>
    obtain ⟨htoken, htokens⟩ := List.forall_mem_cons.1 h
    simp only [List.mem_filterMap, List.mem_cons] at hlegible
    have hfirst : ∀ v ∈ literalOf? token, v.Legible := fun v hv => hlegible v ⟨token, .inl rfl, hv⟩
    have hrest : ∀ v ∈ tokens.filterMap literalOf?, v.Legible := by
      intro v hv
      obtain ⟨other, hother, hv⟩ := List.mem_filterMap.1 hv
      exact hlegible v ⟨other, .inr hother, hv⟩
    refine (cuts_spaced (lexeme?_wordOf htoken hfirst (head_continued _))
      (isToken_rewrittenKind htoken.seen)).2 ⟨_, rfl, ih htokens hrest⟩

/-- Only the words of tokens with legible literals are cut into tokens that contribute the same and
convert. -/
theorem legible_of_cuts [Platform] {tokens tokens' : List Lexeme}
    (h : ∀ token ∈ tokens, Scanned token)
    (hcuts : Cuts (spaced (tokens.map wordOf)) (tokens'.map bare))
    (hshapes : tokens'.map (shape isCommand) = tokens.map (shape isCommand))
    (hconverts : ∀ token ∈ tokens', Converts token) :
    ∀ v ∈ tokens.filterMap literalOf?, v.Legible := by
  -- The induction is along the words; the first one that is not read back stops it.
  induction tokens generalizing tokens' with
  | nil => simp
  | cons token tokens ih =>
    obtain ⟨htoken, htokens⟩ := List.forall_mem_cons.1 h
    obtain ⟨token', others, rfl, hshape, hothers⟩ := List.map_eq_cons_iff.1 hshapes
    obtain ⟨hfirst, hrest⟩ := List.forall_mem_cons.1 hconverts
    have hhead := head_continued (tokens.map wordOf)
    have hlegible : ∀ v ∈ literalOf? token, v.Legible := by
      by_contra hnot
      rw [List.map_cons, spaced_cons] at hcuts
      exact not_converts_of_cuts hcuts hnot hhead hshape hfirst
    obtain ⟨row, hrow, hcuts'⟩ := (cuts_spaced (lexeme?_wordOf htoken hlegible hhead)
      (isToken_rewrittenKind htoken.seen)).1 hcuts
    rw [← (List.cons.inj hrow).2] at hcuts'
    intro v hv
    obtain ⟨other, hother, hvalue⟩ := List.mem_filterMap.1 hv
    obtain rfl | hother := List.mem_cons.1 hother
    · exact hlegible v hvalue
    · exact ih htokens hcuts' hothers hrest v (List.mem_filterMap.2 ⟨other, hother, hvalue⟩)

theorem scanned_of_scan {source : Text} (h : (scan source).stuck = none) :
    ∀ token ∈ (scan source).tokens, Scanned token := by
  have hsplits : Splits start source.toList (scan source).lexemes := by
    rw [← scanFrom_eq_iff, ← h]
    rfl
  intro token htoken
  obtain ⟨hmem, hseen⟩ := List.mem_filter.1 htoken
  exact ⟨hsplits.alone token hmem, hseen⟩

theorem wordOf_ne_nil [Platform] {token : Lexeme} (h : Scanned token) : wordOf token ≠ [] := by
  have htext : token.text ≠ [] := by
    intro hnil
    have hpos := pos_of_lexeme? h.alone
    rw [hnil] at hpos
    exact absurd hpos (Nat.lt_irrefl 0)
  cases hkind : token.kind with
  | string =>
    rw [wordOf_string hkind]
    exact List.cons_ne_nil _ _
  | integer =>
    intro hnil
    have hlexeme := lexeme?_numeral (Decimal.Numeral.ofNat (decide (integerOf token < 0))
      (integerOf token).natAbs)
    rw [← wordOf_integer hkind, hnil] at hlexeme
    cases hlexeme
  | real =>
    rw [wordOf, hkind]
    intro hnil
    dsimp only at hnil
    by_cases hleaves : realPattern.Leaves (Decimal.realText (Decimal.readReal token.text)).toList []
    · have hlexeme := (lexeme?_realText hleaves).1
      rw [hnil] at hlexeme
      cases hlexeme
    · obtain ⟨kind, n, hlexeme, -⟩ := exists_lexeme?_realText hleaves
      rw [hnil] at hlexeme
      cases hlexeme
  | store | namedCall | word =>
    rw [wordOf_name h (by simp [hkind])]
    exact htext
  | atSign =>
    rw [wordOf, hkind]
    exact List.cons_ne_nil _ _
  | keyword k =>
    rw [wordOf, hkind]
    cases k <;> exact List.cons_ne_nil _ _
  | blank | comment =>
    rw [wordOf, hkind]
    exact htext

/-- Printing a program and reading it back. A program that was read from a source text has a text
of its own, and the same program, apart from its places, is read from that text exactly if all
literals in it are legible. -/
theorem parse_source_iff [Platform] {source : Text} {file : Option Text} {program : Program}
    (h : Program.parse isCommand source file = .ok program) (file' : Option Text) :
    ∃ text, Program.source program = .ok text ∧
      ((∃ program', Program.parse isCommand text file' = .ok program' ∧
          Program.unplaced program' = Program.unplaced program) ↔
        ∀ v ∈ Program.literals program, v.Legible) := by
  obtain ⟨hstuck, row, hrow, -, rfl⟩ := parse_ok_iff.1 h
  have hscanned := scanned_of_scan hstuck
  rw [← hrow] at hscanned
  refine ⟨_, source_treesProgram row fun token ht => wordOf_ne_nil (hscanned token ht), ?_⟩
  rw [literals_trees]
  have hchars : (groupText ((treesTokens row).map wordOf)).toList =
      spaced ((treesTokens row).map wordOf) := rfl
  constructor
  · rintro ⟨program', hparse, hsame⟩
    obtain ⟨hstuck', row', hrow', hconverts, rfl⟩ := parse_ok_iff.1 hparse
    have hcuts := cuts_scan.2 ⟨hstuck', rfl⟩
    rw [hchars] at hcuts
    have hshapes := shapes_of_unplaced row' row hsame
    rw [hrow'] at hshapes
    exact legible_of_cuts hscanned hcuts hshapes hconverts
  · intro hlegible
    have hcuts := cuts_words hscanned hlegible
    rw [← hchars] at hcuts
    obtain ⟨hstuck', htokens⟩ := cuts_scan.1 hcuts
    have hshapes : (scan (groupText ((treesTokens row).map wordOf))).tokens.map (shape isCommand) =
        ((treesTokens row).map rewritten).map (shape isCommand) := shapes_of_bare htokens
    rw [List.map_map] at hshapes
    have hrewritten : ∀ token ∈ treesTokens row,
        (shape isCommand ∘ rewritten) token = shape isCommand token := by
      intro token ht
      exact shape_rewritten (hscanned token ht) fun v hv =>
        hlegible v (List.mem_filterMap.2 ⟨token, ht, hv⟩)
    rw [List.map_congr_left hrewritten] at hshapes
    obtain ⟨row', hrow', hsame⟩ := exists_trees_of_shapes row hshapes
    refine ⟨_, parse_ok_iff.2 ⟨hstuck', row', hrow', ?_, rfl⟩, hsame⟩
    intro token' ht'
    have hmem := List.mem_map_of_mem (f := bare) ht'
    rw [htokens] at hmem
    obtain ⟨_, hmem', hbare⟩ := List.mem_map.1 hmem
    obtain ⟨token, ht, rfl⟩ := List.mem_map.1 hmem'
    exact converts_bare hbare.symm (converts_rewritten fun v hv =>
      hlegible v (List.mem_filterMap.2 ⟨token, ht, hv⟩))

section

attribute [local instance] Platform.basic

/-- A string with a surrogate, which an escape can write, does not come back although it holds
neither a line end nor a null character: it is written as it stands, and no literal is read with a
surrogate in it. -/
theorem surrogate_not_read_back :
    ∃ program text,
      Program.parse (fun _ => false) "\"\\ud800\"" none = .ok program ∧
      (∀ v ∈ Program.literals program,
        (∀ x, v ≠ .number (.float x)) ∧
        ∀ text, v = .string text →
          CodePoint.char '\n' ∉ text.toList ∧ CodePoint.char '\r' ∉ text.toList ∧
            CodePoint.char '\x00' ∉ text.toList) ∧
      Program.source program = .ok text ∧
      ∃ failure, Program.parse (fun _ => false) text none = .error failure := by
  have hparse : Program.parse (fun _ => false) "\"\\ud800\"" none =
      .ok [.literal (.string (Text.singleton (.lone 0))) ⟨1, 1⟩] := by
    cbv
  refine ⟨_, Text.ofList [.char '"', .lone 0, .char '"'], hparse, ?_, rfl, ?_⟩
  · intro v hv
    obtain rfl : v = .string (Text.singleton (.lone 0)) := by
      simpa [Program.literals, Statement.literals] using hv
    refine ⟨?_, ?_⟩
    · rintro x ⟨⟩
    · rintro text ⟨⟩
      decide
  · exact ⟨_, by cbv⟩

/-- A quote inside a string does not keep a program from coming back; a line end does. -/
theorem parse_source_quote_and_line_end :
    (∃ text, Program.source [.define none [.literal (.string "a\"b") ⟨1, 4⟩,
        .literal (.int (-5)) ⟨1, 11⟩]] = .ok text ∧
      ∃ program', Program.parse (fun _ => false) text none = .ok program' ∧
        Program.unplaced program' = [.define none [.literal (.string "a\"b") .nowhere,
          .literal (.int (-5)) .nowhere]]) ∧
    ∃ text, Program.source [.literal (.string "a\nb") ⟨1, 1⟩] = .ok text ∧
      ¬∃ program', Program.parse (fun _ => false) text none = .ok program' ∧
        Program.unplaced program' = [.literal (.string "a\nb") .nowhere] := by
  constructor
  · have hparse : Program.parse (fun _ => false) "fn \"a\\\"b\" -5 end" none =
        .ok [.define none [.literal (.string "a\"b") ⟨1, 4⟩, .literal (.int (-5)) ⟨1, 11⟩]] := by
      cbv
    obtain ⟨text, htext, hiff⟩ := parse_source_iff hparse none
    refine ⟨text, htext, hiff.2 ?_⟩
    intro v hv
    obtain rfl | rfl : v = .string "a\"b" ∨ v = .int (-5) := by
      simpa [Program.literals, Statement.literals] using hv
    · exact ⟨by rintro text ⟨⟩; decide, by rintro x ⟨⟩⟩
    · exact ⟨by rintro text ⟨⟩, by rintro x ⟨⟩⟩
  · have hparse : Program.parse (fun _ => false) "\"a\\nb\"" none =
        .ok [.literal (.string "a\nb") ⟨1, 1⟩] := by
      cbv
    obtain ⟨text, htext, hiff⟩ := parse_source_iff hparse none
    refine ⟨text, htext, fun hback => ?_⟩
    have hlegible := hiff.1 hback (.string "a\nb") (List.mem_singleton_self _)
    exact (hlegible.string _ rfl).1 (by decide)

end

end Syntax

end StackShell
