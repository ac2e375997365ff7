import StackShell.Proofs.Syntax.Lexing

/-!
# Texts cut into tokens

The tokens of a text without their places. A blank ends every lexeme that cannot hold it, so what
stands before it is cut as if the text ended there. The main facts are that a text is cut line by
line (`cuts_line`), and word by word where blanks stand between the words (`cuts_word`).
-/

namespace StackShell.Token

open Pattern

/-- A lexeme without its place. -/
def bare (lexeme : Lexeme) : LexemeKind × List CodePoint :=
  (lexeme.kind, lexeme.text)

/-- A text is cut into tokens, blanks and comments being passed over. -/
inductive Cuts : List CodePoint → List (LexemeKind × List CodePoint) → Prop where
  | done : Cuts [] []
  | skip {text kind n row} (h : lexeme? text = some (kind, n)) (hkind : kind.isToken = false)
      (hrest : Cuts (text.drop n) row) : Cuts text row
  | take {text kind n row} (h : lexeme? text = some (kind, n)) (hkind : kind.isToken = true)
      (hrest : Cuts (text.drop n) row) : Cuts text ((kind, text.take n) :: row)

theorem cuts_nil {row : List (LexemeKind × List CodePoint)} : Cuts [] row ↔ row = [] := by
  constructor
  · intro h
    cases h with
    | done => rfl
    | skip h | take h => cases h
  · rintro rfl
    exact .done

theorem cuts_of_skipped {text : List CodePoint} {kind : LexemeKind} {n : Nat}
    {row : List (LexemeKind × List CodePoint)} (h : lexeme? text = some (kind, n))
    (hkind : kind.isToken = false) : Cuts text row ↔ Cuts (text.drop n) row := by
  refine ⟨fun hcuts => ?_, .skip h hkind⟩
  cases hcuts with
  | done => cases h
  | skip h' _ hrest =>
    rw [h] at h'
    cases h'
    exact hrest
  | take h' hkind' =>
    rw [h] at h'
    cases h'
    rw [hkind] at hkind'
    cases hkind'

theorem cuts_of_token {text : List CodePoint} {kind : LexemeKind} {n : Nat}
    {row : List (LexemeKind × List CodePoint)} (h : lexeme? text = some (kind, n))
    (hkind : kind.isToken = true) :
    Cuts text row ↔ ∃ rest, row = (kind, text.take n) :: rest ∧ Cuts (text.drop n) rest := by
  constructor
  · intro hcuts
    cases hcuts with
    | done => cases h
    | skip h' hkind' =>
      rw [h] at h'
      cases h'
      rw [hkind] at hkind'
      cases hkind'
    | take h' _ hrest =>
      rw [h] at h'
      cases h'
      exact ⟨_, rfl, hrest⟩
  · rintro ⟨rest, rfl, hrest⟩
    exact .take h hkind hrest

theorem not_cuts_of_lexeme?_none {c : CodePoint} {text : List CodePoint}
    {row : List (LexemeKind × List CodePoint)} (h : lexeme? (c :: text) = none) :
    ¬Cuts (c :: text) row := by
  intro hcuts
  cases hcuts with
  | skip h' | take h' =>
    rw [h] at h'
    cases h'

theorem Splits.cuts {place : Location} {text : List CodePoint} {lexemes : List Lexeme}
    (h : Splits place text lexemes) :
    Cuts text ((lexemes.filter (·.kind.isToken)).map bare) := by
  induction h with
  | done => exact .done
  | @next place text rest chars lexemes t htext hchosen _ ih =>
    subst htext
    cases hkind : (t.kind chars).isToken with
    | true =>
      rw [List.filter_cons_of_pos (p := fun lexeme : Lexeme => lexeme.kind.isToken) hkind,
        List.map_cons]
      have hcuts : Cuts ((chars ++ rest).drop chars.length)
          ((lexemes.filter (·.kind.isToken)).map bare) := by
        rw [List.drop_left]
        exact ih
      refine (cuts_of_token hchosen.lexeme? hkind).2 ⟨_, ?_, hcuts⟩
      rw [List.take_left]
      rfl
    | false =>
      rw [List.filter_cons_of_neg (by simp [hkind])]
      refine (cuts_of_skipped hchosen.lexeme? hkind).2 ?_
      rw [List.drop_left]
      exact ih

/-- A scan goes through exactly if the text is cut, into the tokens that the scan gives. -/
theorem cuts_iff_scanFrom {place : Location} {text : List CodePoint}
    {row : List (LexemeKind × List CodePoint)} :
    Cuts text row ↔
      (scanFrom place text).stuck = none ∧ (scanFrom place text).tokens.map bare = row := by
  constructor
  · intro h
    induction h generalizing place with
    | done =>
      rw [scanFrom]
      exact ⟨rfl, rfl⟩
    | @skip text kind n row h hkind _ ih =>
      obtain ⟨hstuck, htokens⟩ := @ih (placeAfter place (text.take n))
      rw [scanFrom_of_lexeme? place h]
      refine ⟨hstuck, ?_⟩
      rw [← htokens]
      simp [Scan.tokens, hkind]
    | @take text kind n row h hkind _ ih =>
      obtain ⟨hstuck, htokens⟩ := @ih (placeAfter place (text.take n))
      rw [scanFrom_of_lexeme? place h]
      refine ⟨hstuck, ?_⟩
      rw [← htokens]
      simp [Scan.tokens, hkind, bare]
  · rintro ⟨hstuck, rfl⟩
    have hsplits : Splits place text (scanFrom place text).lexemes := by
      rw [← scanFrom_eq_iff, ← hstuck]
    exact hsplits.cuts

theorem cuts_scan {source : Text} {row : List (LexemeKind × List CodePoint)} :
    Cuts source.toList row ↔ (scan source).stuck = none ∧ (scan source).tokens.map bare = row :=
  cuts_iff_scanFrom

/-! ## Characters that end a lexeme -/

/-- Whether no match of a pattern takes the character. -/
def Pattern.avoids (c : CodePoint) : Pattern → Bool
  | .one isMember => !isMember c
  | .seq p q | .either p q => p.avoids c && q.avoids c
  | .perhaps p | .many p => p.avoids c

/-- A match does not look at what it leaves. -/
theorem Pattern.Leaves.append {p : Pattern} {text rest : List CodePoint} (h : p.Leaves text rest)
    (more : List CodePoint) : p.Leaves (text ++ more) (rest ++ more) := by
  induction h with
  | one h => exact .one h
  | seq _ _ ihp ihq => exact .seq ihp ihq
  | left _ ih => exact .left ih
  | right _ ih => exact .right ih
  | skip => exact .skip
  | take _ ih => exact .take ih
  | stop => exact .stop
  | more _ _ ih ihrest => exact .more ih ihrest

/-- A match ends before a character that it cannot take. -/
theorem Pattern.Leaves.before {p : Pattern} {text rest : List CodePoint} (h : p.Leaves text rest)
    {c : CodePoint} {before after : List CodePoint} (htext : text = before ++ c :: after)
    (hp : p.avoids c = true) : ∃ left, rest = left ++ c :: after ∧ p.Leaves before left := by
  induction h generalizing before with
  | @one isMember d rest hd =>
    cases before with
    | nil =>
      obtain ⟨rfl, -⟩ := List.cons.inj htext
      -- the character would have to be taken
      simp [avoids, hd] at hp
    | cons e before =>
      obtain ⟨rfl, rfl⟩ := List.cons.inj htext
      exact ⟨before, rfl, .one hd⟩
  | seq _ _ ihp ihq =>
    obtain ⟨hp, hq⟩ := Bool.and_eq_true_iff.1 hp
    obtain ⟨middle, hmiddle, hfirst⟩ := ihp htext hp
    obtain ⟨left, hleft, hsecond⟩ := ihq hmiddle hq
    exact ⟨left, hleft, .seq hfirst hsecond⟩
  | left _ ih =>
    obtain ⟨left, hleft, h⟩ := ih htext (Bool.and_eq_true_iff.1 hp).1
    exact ⟨left, hleft, .left h⟩
  | right _ ih =>
    obtain ⟨left, hleft, h⟩ := ih htext (Bool.and_eq_true_iff.1 hp).2
    exact ⟨left, hleft, .right h⟩
  | skip => exact ⟨before, htext, .skip⟩
  | take _ ih =>
    obtain ⟨left, hleft, h⟩ := ih htext hp
    exact ⟨left, hleft, .take h⟩
  | stop => exact ⟨before, htext, .stop⟩
  | more _ _ ih ihrest =>
    obtain ⟨middle, hmiddle, hfirst⟩ := ih htext hp
    obtain ⟨left, hleft, hmore⟩ := ihrest hmiddle hp
    exact ⟨left, hleft, .more hfirst hmore⟩

/-- A character that no match takes is in no match. -/
theorem Pattern.Leaves.not_mem {p : Pattern} {chars rest : List CodePoint}
    (h : p.Leaves (chars ++ rest) rest) {c : CodePoint} (hp : p.avoids c = true) : c ∉ chars := by
  intro hmem
  obtain ⟨before, after, rfl⟩ := List.append_of_mem hmem
  have htext : before ++ c :: after ++ rest = before ++ c :: (after ++ rest) := by simp
  obtain ⟨left, hleft, -⟩ := h.before htext hp
  -- the match would leave more than it does
  have hlength := congrArg List.length hleft
  simp only [List.length_append, List.length_cons] at hlength
  omega

/-- What is measured does not depend on what follows a character that ends it. -/
theorem Measures.append {p : Pattern} {size? : List CodePoint → Option Nat} (h : Measures p size?)
    {c : CodePoint} (hp : p.avoids c = true) (before after : List CodePoint) :
    size? (before ++ c :: after) = size? before := by
  cases hlong : size? (before ++ c :: after) with
  | some n =>
    obtain ⟨hle, hleaves⟩ := h.found hlong
    obtain ⟨left, hdrop, hbefore⟩ := hleaves.before rfl hp
    obtain ⟨m, hm, hlength⟩ := h.longest hbefore
    obtain ⟨hle', hleaves'⟩ := h.found hm
    obtain ⟨n', hn', hlength'⟩ := h.longest (hleaves'.append (c :: after))
    rw [hlong] at hn'
    cases hn'
    have hdrop := congrArg List.length hdrop
    simp only [List.length_drop, List.length_append, List.length_cons] at hdrop hle hlength'
    have hnm : n = m := by omega
    rw [hm, hnm]
  | none =>
    cases hshort : size? before with
    | none => rfl
    | some m =>
      obtain ⟨-, hleaves⟩ := h.found hshort
      obtain ⟨n, hn, -⟩ := h.longest (hleaves.append (c :: after))
      rw [hlong] at hn
      cases hn

/-- No separator is in a number, a store, a call or a word. -/
theorem avoids_of_isSeparator {c : CodePoint} (hc : isSeparator c = true) :
    realPattern.avoids c = true ∧ integerPattern.avoids c = true ∧
      (markedPattern '=').avoids c = true ∧ (markedPattern '@').avoids c = true ∧
      (Pattern.char '@').avoids c = true ∧ (Pattern.some1 isWordChar).avoids c = true := by
  simp only [isSeparator, Bool.or_eq_true, beq_iff_eq] at hc
  obtain (((rfl | rfl) | rfl) | rfl) | rfl := hc <;> decide +kernel

/-- Strings and comments go no further than their line. -/
theorem avoids_lineFeed : stringPattern.avoids '\n' = true ∧ commentPattern.avoids '\n' = true := by
  decide

theorem Terminal.length?_eq_none {t : Terminal} {c : CodePoint} {text : List CodePoint}
    (h : t.startsWith c = false) : t.length? (c :: text) = none := by
  cases hlength : t.length? (c :: text) with
  | none => rfl
  | some n =>
    obtain ⟨d, tail, htext, hd⟩ := (matches_of_length? hlength).2.exists_cons
    rw [← (List.cons.inj htext).1, h] at hd
    cases hd

/-- A blank does not change the lengths of lexemes that start before it: where no blank and, save
before the end of the line, no string or comment starts. -/
theorem Terminal.length?_append (t : Terminal) {c d : CodePoint} (hc : isSeparator c = true)
    (hd : isSeparator d = false) (hopen : c = '\n' ∨ d ≠ '"' ∧ d ≠ '#')
    (text rest : List CodePoint) :
    t.length? (d :: text ++ c :: rest) = t.length? (d :: text) := by
  obtain ⟨hreal, hinteger, hstore, hcall, hat, hword⟩ := avoids_of_isSeparator hc
  have hinteger' := measures_integer.append hinteger (d :: text) rest
  have hstart : ∀ {t : Terminal}, t.startsWith d = false →
      t.length? (d :: text ++ c :: rest) = t.length? (d :: text) := by
    intro t ht
    rw [List.cons_append, length?_eq_none ht, length?_eq_none ht]
  cases t with
  | real => exact measures_real.append hreal _ _
  | integer => exact hinteger'
  | store => exact (measures_marked '=').append hstore _ _
  | namedCall => exact (measures_marked '@').append hcall _ _
  | atSign => rfl
  | word =>
    show wordLength? _ = wordLength? _
    rw [wordLength?, wordLength?, hinteger', (measures_some1 isWordChar).append hword]
  | blank => exact hstart hd
  | string =>
    obtain rfl | ⟨hquote, -⟩ := hopen
    · exact measures_string.append avoids_lineFeed.1 _ _
    · exact hstart (beq_eq_false_iff_ne.2 hquote)
  | comment =>
    obtain rfl | ⟨-, hsharp⟩ := hopen
    · exact measures_comment.append avoids_lineFeed.2 _ _
    · exact hstart (beq_eq_false_iff_ne.2 hsharp)

/-- A blank ends the lexeme before it. -/
theorem lexeme?_append {c d : CodePoint} (hc : isSeparator c = true) (hd : isSeparator d = false)
    (hopen : c = '\n' ∨ d ≠ '"' ∧ d ≠ '#') (text rest : List CodePoint) :
    lexeme? (d :: text ++ c :: rest) = lexeme? (d :: text) := by
  have hfirst : Terminal.first? (d :: text ++ c :: rest) = Terminal.first? (d :: text) := by
    unfold Terminal.first?
    congr 1
    funext t
    rw [t.length?_append hc hd hopen]
  rw [lexeme?_eq, lexeme?_eq, hfirst]
  cases h : Terminal.first? (d :: text) with
  | none => rfl
  | some chosen =>
    obtain ⟨t, n⟩ := chosen
    obtain ⟨hle, -⟩ := Terminal.first?_eq_some_iff.1 h
    have htake : (d :: text ++ c :: rest).take n = (d :: text).take n :=
      List.take_append_of_le_length hle
    rw [Option.map_some, Option.map_some]
    dsimp only
    rw [htake]

/-! ## Cutting at blanks -/

/-- Only blanks start with a separator. -/
theorem Terminal.eq_blank_of_startsWith {t : Terminal} {c : CodePoint} (hc : isSeparator c = true)
    (h : t.startsWith c = true) : t = .blank := by
  simp only [isSeparator, Bool.or_eq_true, beq_iff_eq] at hc
  obtain (((rfl | rfl) | rfl) | rfl) | rfl := hc <;> cases t <;> first
    | rfl
    | exact absurd h (by decide +kernel)

theorem lexeme?_separator {c : CodePoint} (hc : isSeparator c = true) (text : List CodePoint) :
    lexeme? (c :: text) = some (.blank, 1 + runLength isSeparator text) := by
  have hlength : Terminal.blank.length? (c :: text) = some (1 + runLength isSeparator text) := by
    show someLength? isSeparator (c :: text) = _
    rw [someLength?_cons, if_pos hc]
  obtain ⟨hle, hmatches⟩ := Terminal.matches_of_length? hlength
  refine lexeme?_eq_some_iff.2 ⟨hle, .blank, ⟨hmatches, ?_, ?_⟩, rfl⟩
  · intro rest' h'
    obtain ⟨n, hn, hlonger⟩ := h'.exists_length?
    rw [hlength] at hn
    cases hn
    rw [List.length_drop]
    omega
  · intro t' rest' h'
    obtain ⟨d, tail, htext, hd⟩ := h'.exists_cons
    rw [← (List.cons.inj htext).1] at hd
    obtain rfl := Terminal.eq_blank_of_startsWith hc hd
    exact Nat.le_refl _

/-- A blank at the start is passed over. -/
theorem cuts_separator {c : CodePoint} (hc : isSeparator c = true) {text : List CodePoint}
    {row : List (LexemeKind × List CodePoint)} : Cuts (c :: text) row ↔ Cuts text row := by
  have hdrop : ∀ {c text}, isSeparator c = true →
      (Cuts (c :: text) row ↔ Cuts (text.dropWhile isSeparator) row) := by
    intro c text hc
    obtain ⟨run, rest, rfl, hlength, hrun, hrest⟩ := exists_run isSeparator text
    have hdropped : (run ++ rest).dropWhile isSeparator = rest := by
      rw [List.dropWhile_append_of_pos hrun]
      cases rest with
      | nil => rfl
      | cons e rest => rw [List.dropWhile_cons_of_neg (by simp [hrest e rfl])]
    rw [cuts_of_skipped (lexeme?_separator hc _) rfl, Nat.add_comm, List.drop_succ_cons, hlength,
      List.drop_left, hdropped]
  rw [hdrop hc]
  cases text with
  | nil => rfl
  | cons d text =>
    by_cases hd : isSeparator d = true
    · rw [List.dropWhile_cons_of_pos hd, hdrop hd]
    · rw [List.dropWhile_cons_of_neg hd]

/-- A text is cut line by line. -/
theorem cuts_line {before after : List CodePoint} {row : List (LexemeKind × List CodePoint)} :
    Cuts (before ++ .char '\n' :: after) row ↔
      ∃ first second, row = first ++ second ∧ Cuts before first ∧ Cuts after second := by
  -- The induction is on what is left of the line.
  induction hlength : before.length using Nat.strongRecOn generalizing before row with
  | _ length ih =>
  cases before with
  | nil =>
    rw [List.nil_append, cuts_separator rfl]
    refine ⟨fun h => ⟨[], row, rfl, .done, h⟩, ?_⟩
    rintro ⟨first, second, rfl, hfirst, hsecond⟩
    rw [cuts_nil.1 hfirst]
    exact hsecond
  | cons d text =>
    rw [List.length_cons] at hlength
    by_cases hd : isSeparator d = true
    · rw [List.cons_append, cuts_separator hd, ih text.length (by omega) rfl]
      simp only [cuts_separator hd]
    · rw [Bool.not_eq_true] at hd
      have happend := lexeme?_append (c := '\n') rfl hd (.inl rfl) text after
      cases hlexeme : lexeme? (d :: text) with
      | none =>
        have hnot : ¬Cuts (d :: (text ++ .char '\n' :: after)) row :=
          not_cuts_of_lexeme?_none (happend.trans hlexeme)
        refine ⟨fun h => absurd h hnot, ?_⟩
        rintro ⟨first, second, -, hfirst, -⟩
        exact absurd hfirst (not_cuts_of_lexeme?_none hlexeme)
      | some lexeme =>
        obtain ⟨kind, n⟩ := lexeme
        rw [hlexeme] at happend
        have hpos := pos_of_lexeme? hlexeme
        obtain ⟨hle, -⟩ := lexeme?_eq_some_iff.1 hlexeme
        have htake : (d :: text ++ .char '\n' :: after).take n = (d :: text).take n :=
          List.take_append_of_le_length hle
        have hdrop : (d :: text ++ .char '\n' :: after).drop n =
            (d :: text).drop n ++ .char '\n' :: after :=
          List.drop_append_of_le_length hle
        have hshorter : ((d :: text).drop n).length < length := by
          rw [List.length_drop, List.length_cons]
          omega
        cases hkind : kind.isToken with
        | false =>
          rw [cuts_of_skipped happend hkind, hdrop, ih _ hshorter rfl]
          simp only [cuts_of_skipped hlexeme hkind]
        | true =>
          rw [cuts_of_token happend hkind, htake, hdrop]
          simp only [ih _ hshorter rfl, cuts_of_token hlexeme hkind]
          constructor
          · rintro ⟨rest, rfl, first, second, rfl, hfirst, hsecond⟩
            exact ⟨_ :: first, second, rfl, ⟨first, rfl, hfirst⟩, hsecond⟩
          · rintro ⟨_, second, rfl, ⟨first, rfl, hfirst⟩, hsecond⟩
            exact ⟨first ++ second, rfl, first, second, rfl, hfirst, hsecond⟩

/-- A token that a blank follows is cut off, and the rest of the text is cut. -/
theorem cuts_word {word rest : List CodePoint} {kind : LexemeKind}
    {row : List (LexemeKind × List CodePoint)}
    (h : lexeme? (word ++ .char ' ' :: rest) = some (kind, word.length))
    (hkind : kind.isToken = true) :
    Cuts (word ++ .char ' ' :: rest) row ↔
      ∃ others, row = (kind, word) :: others ∧ Cuts rest others := by
  rw [cuts_of_token h hkind, List.take_left, List.drop_left]
  simp only [cuts_separator (c := ' ') rfl]

/-! ## Lexemes on their own -/

theorem Pattern.Leaves.alone {p : Pattern} {chars rest : List CodePoint}
    (h : p.Leaves (chars ++ rest) rest) : p.Leaves chars [] := by
  obtain ⟨chars', htext, hlocal⟩ := h.exists_chars
  have hchars := hlocal []
  rw [← List.append_cancel_right htext, List.append_nil] at hchars
  exact hchars

/-- A lexeme is one by itself. -/
theorem Chosen.alone {chars rest : List CodePoint} {t : Terminal}
    (h : Chosen (chars ++ rest) t rest) :
    Token.lexeme? chars = some (t.kind chars, chars.length) := by
  have hchosen : Chosen (chars ++ []) t [] := by
    rw [List.append_nil]
    refine ⟨⟨h.fits.1.alone, ?_⟩, fun _ => Nat.zero_le _, ?_⟩
    · intro hword rest' hstart
      exact h.fits.2 hword _ (hstart.append rest)
    · intro t' rest' h'
      by_cases hword : t' = .word
      · subst hword
        exact Nat.zero_le _
      · exact h.first ⟨h'.1.append rest, fun h => absurd h hword⟩
  have hlexeme := hchosen.lexeme?
  rw [List.append_nil] at hlexeme
  exact hlexeme

/-- Every lexeme of a split text is one by itself. -/
theorem Splits.alone {place : Location} {text : List CodePoint} {lexemes : List Lexeme}
    (h : Splits place text lexemes) :
    ∀ lexeme ∈ lexemes, lexeme? lexeme.text = some (lexeme.kind, lexeme.text.length) := by
  induction h with
  | done => simp
  | next htext hchosen _ ih =>
    subst htext
    exact List.forall_mem_cons.2 ⟨hchosen.alone, ih⟩

/-! ## Ends of lines -/

/-- No token goes over the end of a line. -/
theorem lineFeed_not_mem_token {source : Text} {token : Lexeme}
    (h : token ∈ (scan source).tokens) : .char '\n' ∉ token.text := by
  obtain ⟨hmem, htoken⟩ := List.mem_filter.1 h
  obtain ⟨t, rest, hchosen, hkind⟩ := chosen_of_mem_scanFrom hmem
  obtain ⟨hreal, hinteger, hstore, hcall, hat, hword⟩ := avoids_of_isSeparator (c := '\n') rfl
  refine hchosen.fits.1.not_mem ?_
  cases t with
  | real => exact hreal
  | integer => exact hinteger
  | store => exact hstore
  | namedCall => exact hcall
  | atSign => exact hat
  | word => exact hword
  | string => exact avoids_lineFeed.1
  | comment => exact avoids_lineFeed.2
  -- blanks may hold line ends, but they are no tokens
  | blank =>
    rw [hkind] at htoken
    cases htoken

/-- No scan is stuck at the end of a line. -/
theorem ne_lineFeed_of_stuck {source : Text} {c : CodePoint} {place : Location}
    (h : (scan source).stuck = some (c, place)) : c ≠ '\n' := by
  rintro rfl
  obtain ⟨rest, hnone⟩ := lexeme?_of_stuck h
  rw [lexeme?_separator rfl] at hnone
  cases hnone

end StackShell.Token
