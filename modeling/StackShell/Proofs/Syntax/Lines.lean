import StackShell.Proofs.Syntax.Prefixes
import StackShell.Proofs.Syntax.Shapes
import StackShell.Text.Split

/-!
# Programs line by line

No token goes over the end of a line, so the tokens of a program are those of its lines. Whoever
hands in a program line by line, and keeps back the lines of a block that is still open, hands in
programs: the lines so far are one, and those that follow are one too, or the text ends too early
(`Unread.next`). Blank lines do not matter (`Unread.blank`), and in the end nothing is kept back
(`Unread.finished`).
-/

namespace StackShell

namespace Text

theorem split_ne_nil (separator : CodePoint) (text : List CodePoint) :
    split separator text ≠ [] := by
  cases text with
  | nil => exact List.cons_ne_nil _ _
  | cons c rest =>
    rw [split]
    split
    · exact List.cons_ne_nil _ _
    · split <;> exact List.cons_ne_nil _ _

/-- The pieces, joined by the separator, give the row back. -/
theorem intercalate_split (separator : CodePoint) (text : List CodePoint) :
    [separator].intercalate (split separator text) = text := by
  induction text with
  | nil => rfl
  | cons c rest ih =>
    rw [split]
    cases hsplit : split separator rest with
    | nil => exact absurd hsplit (split_ne_nil separator rest)
    | cons piece pieces =>
      rw [hsplit] at ih
      split
      · next hc =>
        rw [List.intercalate_cons_cons, ih, eq_of_beq hc]
        rfl
      · cases pieces with
        | nil =>
          rw [List.intercalate_singleton] at ih ⊢
          rw [ih]
        | cons other pieces =>
          rw [List.intercalate_cons_cons] at ih ⊢
          rw [← ih]
          rfl

/-- The lines of a text, joined by line feeds, give the text back. -/
theorem intercalate_pieces (source : Text) :
    Text.intercalate "\n" (pieces '\n' source) = source := by
  have hmap : ((split '\n' source.toList).map Text.ofList).map Text.toList =
      split '\n' source.toList := by
    rw [List.map_map]
    exact List.map_id'' Text.toList_ofList _
  rw [← Text.toList_inj, Text.toList_intercalate, pieces, hmap]
  exact intercalate_split '\n' source.toList

/-- Nothing but blanks is trimmed away as a whole. -/
theorem isBlank_of_trim {text : Text} (h : (trim text).isEmpty = true) :
    ∀ c ∈ text.toList, isBlank c = true := by
  rw [trim, Text.isEmpty_iff, ← Text.toList_inj, Text.toList_ofList] at h
  have hfront := List.dropWhile_eq_nil_iff.1 (List.reverse_eq_nil_iff.1 h)
  intro c hc
  rw [← List.takeWhile_append_dropWhile (p := isBlank) (l := text.toList)] at hc
  rcases List.mem_append.1 hc with hc | hc
  · exact List.mem_takeWhile_imp hc
  · exact hfront c (List.mem_reverse.2 hc)

end Text

namespace Token

/-! ## Lines cut into tokens -/

/-- Lines are cut into tokens, one after the other. -/
def CutsLines : List Text → List (LexemeKind × List CodePoint) → Prop
  | [], row => row = []
  | line :: lines, row =>
    ∃ first second, row = first ++ second ∧ Cuts line.toList first ∧ CutsLines lines second

theorem cutsLines_append {lines others : List Text} {row : List (LexemeKind × List CodePoint)} :
    CutsLines (lines ++ others) row ↔
      ∃ first second, row = first ++ second ∧ CutsLines lines first ∧ CutsLines others second := by
  induction lines generalizing row with
  | nil =>
    constructor
    · intro h
      exact ⟨[], row, rfl, rfl, h⟩
    · rintro ⟨first, second, rfl, rfl, h⟩
      exact h
  | cons line lines ih =>
    simp only [List.cons_append, CutsLines, ih]
    constructor
    · rintro ⟨first, _, rfl, hline, second, third, rfl, hlines, hothers⟩
      exact ⟨first ++ second, third, by rw [List.append_assoc], ⟨first, second, rfl, hline, hlines⟩,
        hothers⟩
    · rintro ⟨_, third, rfl, ⟨first, second, rfl, hline, hlines⟩, hothers⟩
      exact ⟨first, second ++ third, by rw [List.append_assoc], hline, second, third, rfl, hlines,
        hothers⟩

/-- A text is cut as its lines are. -/
theorem cuts_intercalate {lines : List Text} (h : lines ≠ [])
    {row : List (LexemeKind × List CodePoint)} :
    Cuts (Text.intercalate "\n" lines).toList row ↔ CutsLines lines row := by
  rw [Text.toList_intercalate]
  induction lines generalizing row with
  | nil => exact absurd rfl h
  | cons line lines ih =>
    cases lines with
    | nil =>
      rw [List.map_singleton, List.intercalate_singleton, CutsLines]
      constructor
      · intro hcuts
        exact ⟨row, [], (List.append_nil row).symm, hcuts, rfl⟩
      · rintro ⟨first, _, rfl, hcuts, rfl⟩
        rw [List.append_nil]
        exact hcuts
    | cons other lines =>
      rw [List.map_cons, List.map_cons, List.intercalate_cons_cons, CutsLines]
      have hfeed : ("\n" : Text).toList = [.char '\n'] := rfl
      rw [hfeed, List.append_assoc, List.singleton_append, cuts_line]
      have hrest := fun {row} => @ih (List.cons_ne_nil other lines) row
      rw [List.map_cons, hfeed] at hrest
      simp only [hrest]

/-- A scan of lines goes through, and gives the tokens into which they are cut. -/
theorem scan_of_cutsLines {lines : List Text} (h : lines ≠ [])
    {row : List (LexemeKind × List CodePoint)} (hcuts : CutsLines lines row) :
    (scan (Text.intercalate "\n" lines)).stuck = none ∧
      (scan (Text.intercalate "\n" lines)).tokens.map bare = row :=
  cuts_scan.1 ((cuts_intercalate h).2 hcuts)

/-! ## Blank lines -/

/-- The code points that count as white space, one by one. -/
def blankCodes : List Nat :=
  Text.blanks.toList.flatMap fun r => List.range' r.1 (r.2 + 1 - r.1)

/-- Of all lexemes only a blank starts with white space. -/
theorem Terminal.eq_blank_of_isBlank {c : CodePoint} (hc : Text.isBlank c = true) {t : Terminal}
    (ht : t.startsWith c = true) : t = .blank := by
  have hmem : c.toNat ∈ blankCodes := by
    unfold Text.isBlank Text.Ranges.has at hc
    obtain ⟨range, hrange, hin⟩ := Array.any_eq_true'.1 hc
    simp only [Bool.and_eq_true, decide_eq_true_eq] at hin
    refine List.mem_flatMap.2 ⟨range, Array.mem_toList_iff.2 hrange, ?_⟩
    rw [List.mem_range'_1]
    omega
  have hall : ∀ n ∈ blankCodes, ∀ t ∈ Terminal.all,
      t.startsWith (CodePoint.ofNat n) = true → t = .blank := by decide +kernel
  have hstart := hall c.toNat hmem t (mem_all t)
  rw [CodePoint.ofNat_toNat] at hstart
  exact hstart ht

/-- A blank line has no tokens. -/
theorem Cuts.eq_nil_of_isBlank {text : List CodePoint} {row : List (LexemeKind × List CodePoint)}
    (h : Cuts text row) (hblank : ∀ c ∈ text, Text.isBlank c = true) : row = [] := by
  induction h with
  | done => rfl
  | skip _ _ _ ih => exact ih fun c hc => hblank c (List.mem_of_mem_drop hc)
  | @take text kind n row hlexeme hkind _ _ =>
    obtain ⟨-, t, hchosen, rfl⟩ := lexeme?_eq_some_iff.1 hlexeme
    obtain ⟨c, tail, rfl, hstart⟩ := hchosen.fits.exists_cons
    obtain rfl := Terminal.eq_blank_of_isBlank (hblank c List.mem_cons_self) hstart
    cases hkind

end Token

namespace Syntax

open Program

/-! ## Reading line by line -/

variable [Platform]

theorem treesProgram_append (isCommand : Text → Bool) (trees others : List Tree) :
    treesProgram isCommand (trees ++ others) =
      treesProgram isCommand trees ++ treesProgram isCommand others := by
  induction trees with
  | nil => rfl
  | cons tree trees ih => rw [List.cons_append, treesProgram, treesProgram, ih, List.cons_append]

/-- The tokens that begin a program are a program themselves, wherever they stand, and those that
follow are one too; or the text ends too early. -/
theorem parse_of_first (isCommand : Text → Bool) (file : Option Text) {source : Text}
    {trees : List Tree} {own others : List Lexeme} (hstuck : (Token.scan source).stuck = none)
    (hown : (Token.scan source).tokens.map Token.bare = own.map Token.bare)
    (htrees : treesTokens trees = own ++ others)
    (hconverts : ∀ token ∈ treesTokens trees, Converts token) :
    (∃ first second, Program.parse isCommand source file = .ok first ∧
        Program.unplaced (treesProgram isCommand trees) =
          Program.unplaced (first ++ treesProgram isCommand second) ∧
        treesTokens second = others) ∨
      others ≠ [] ∧
        ∃ failure, Program.parse isCommand source file = .error failure ∧
          failure.isIncomplete = true := by
  have hbare : ((Token.scan source).tokens ++ others).map Token.bare =
      (treesTokens trees).map Token.bare := by
    rw [htrees, List.map_append, List.map_append, hown]
  have hshapes : ((Token.scan source).tokens ++ others).map (shape isCommand) =
      (treesTokens trees).map (shape isCommand) := shapes_of_bare hbare
  -- the trees are moved to where the source has their tokens
  obtain ⟨moved, hmoved, hprogram⟩ := exists_trees_of_shapes trees hshapes
  have hall := forall_converts_bare hbare hconverts
  have hfirst := fun token htoken => hall token (List.mem_append_left others htoken)
  rcases parse_of_beginning isCommand file hstuck hfirst hmoved.symm with
    ⟨first, hfirst, hparse⟩ | ⟨hnone, failure, hparse, hincomplete⟩
  · left
    rw [← hfirst] at hmoved
    obtain ⟨second, rfl, hsecond⟩ := exists_append_of_tokens hmoved
    rw [treesProgram_append] at hprogram
    exact ⟨_, second, hparse, hprogram.symm, hsecond⟩
  · right
    refine ⟨?_, failure, hparse, hincomplete⟩
    rintro rfl
    rw [List.append_nil] at hmoved
    exact hnone moved hmoved

/-- What is left of a program of which the first part has been handed in: the lines that are kept
back, since they alone are none, the lines that are still to come, and the trees of all these. -/
structure Unread (pending lines : List Text) (trees : List Tree) : Prop where
  cuts : Token.CutsLines (pending ++ lines) ((treesTokens trees).map Token.bare)
  converts : ∀ token ∈ treesTokens trees, Converts token
  missing : pending = [] ∨ ¬Token.CutsLines pending ((treesTokens trees).map Token.bare)

/-- A program that can be read can be read line by line. -/
theorem unread_of_parse {isCommand : Text → Bool} {source : Text} {file : Option Text}
    {program : Program} (h : Program.parse isCommand source file = .ok program) :
    ∃ trees, program = treesProgram isCommand trees ∧
      Unread [] (Text.pieces '\n' source) trees := by
  obtain ⟨hstuck, trees, htokens, hconverts, hprogram⟩ := parse_ok_iff.1 h
  have hcuts : Token.Cuts source.toList ((treesTokens trees).map Token.bare) := by
    rw [htokens]
    exact Token.cuts_scan.2 ⟨hstuck, rfl⟩
  have hne : Text.pieces '\n' source ≠ [] := by
    intro hnil
    exact Text.split_ne_nil _ _ (List.map_eq_nil_iff.1 hnil)
  rw [← Text.intercalate_pieces source, Token.cuts_intercalate hne] at hcuts
  rw [← htokens] at hconverts
  exact ⟨trees, hprogram, hcuts, hconverts, .inl rfl⟩

namespace Unread

variable {pending lines : List Text} {line : Text} {trees : List Tree}

/-- In the end nothing is kept back, and no statement is left. -/
theorem finished (h : Unread pending [] trees) : pending = [] ∧ trees = [] := by
  have hcuts := h.cuts
  rw [List.append_nil] at hcuts
  obtain rfl : pending = [] := h.missing.resolve_right (not_not_intro hcuts)
  have htokens : treesTokens trees = treesTokens [] := List.map_eq_nil_iff.1 hcuts
  exact ⟨rfl, treesTokens_injective htokens⟩

/-- A blank line may be left out. -/
theorem blank (h : Unread pending (line :: lines) trees) (hline : (Text.trim line).isEmpty = true) :
    Unread pending lines trees := by
  refine ⟨?_, h.converts, h.missing⟩
  obtain ⟨first, rest, hrow, hpending, hrest⟩ := Token.cutsLines_append.1 h.cuts
  obtain ⟨second, third, rfl, hcuts, hlines⟩ := hrest
  obtain rfl := hcuts.eq_nil_of_isBlank (Text.isBlank_of_trim hline)
  exact Token.cutsLines_append.2 ⟨first, third, hrow, hpending, hlines⟩

/-- The lines up to some place are a program, and so are those that follow; or more lines are
needed. -/
theorem next (h : Unread pending (line :: lines) trees) (isCommand : Text → Bool)
    (file : Option Text) :
    (∃ first second,
      Program.parse isCommand (Text.intercalate "\n" (pending ++ [line])) file = .ok first ∧
        Program.unplaced (treesProgram isCommand trees) =
          Program.unplaced (first ++ treesProgram isCommand second) ∧
        Unread [] lines second) ∨
      (∃ failure,
        Program.parse isCommand (Text.intercalate "\n" (pending ++ [line])) file = .error failure ∧
          failure.isIncomplete = true) ∧ Unread (pending ++ [line]) lines trees := by
  have hcuts := h.cuts
  rw [List.append_cons, Token.cutsLines_append] at hcuts
  obtain ⟨taken, left, hrow, htaken, hleft⟩ := hcuts
  obtain ⟨own, others, htrees, rfl, rfl⟩ := List.map_eq_append_iff.1 hrow
  have hne : pending ++ [line] ≠ [] := by simp
  obtain ⟨hstuck, hown⟩ := Token.scan_of_cutsLines hne htaken
  rcases parse_of_first isCommand file hstuck hown htrees h.converts with
    ⟨first, second, hparse, hprogram, rfl⟩ | ⟨hothers, hparse⟩
  · left
    refine ⟨first, second, hparse, hprogram, hleft, ?_, .inl rfl⟩
    intro token htoken
    refine h.converts token ?_
    rw [htrees]
    exact List.mem_append_right own htoken
  · right
    refine ⟨hparse, ?_, h.converts, .inr ?_⟩
    · rw [List.append_assoc]
      exact h.cuts
    · -- the lines so far have their own tokens only
      intro hall
      obtain ⟨-, htokens⟩ := Token.scan_of_cutsLines hne hall
      rw [hown, htrees, List.map_append, List.self_eq_append_right, List.map_eq_nil_iff] at htokens
      exact hothers htokens

end Unread

end Syntax

end StackShell
