import StackShell.Diagnostic.Excerpt
import StackShell.Proofs.Syntax.Positions
import StackShell.Proofs.Syntax.Refusals

/-!
# What an excerpt highlights

A text that cannot be read is reported with an excerpt of it. Two notions of a line meet there: the
place that the report names counts line feeds, while the excerpt is cut at every line boundary that
Unicode knows. As long as the boundaries in front of the reported token are line feeds, alone or
after a carriage return, both agree: the row with the number of the line has the token highlighted,
and nothing else (`excerpt_highlights_token`).
-/

namespace StackShell

namespace Text

/-! ## Lines cut at line feeds -/

/-- Whether all line ends in a text are line feeds, alone or after a carriage return. -/
def FeedsOnly : List CodePoint → Prop
  | [] => True
  | c :: rest =>
    (isLineEnd c = true → c = '\n' ∨ c = '\r' ∧ rest.head? = some (.char '\n')) ∧ FeedsOnly rest

instance FeedsOnly.decidable : DecidablePred FeedsOnly
  | [] => .isTrue trivial
  | c :: rest =>
    have := FeedsOnly.decidable rest
    inferInstanceAs
      (Decidable ((isLineEnd c = true → c = '\n' ∨ c = '\r' ∧ rest.head? = some (.char '\n')) ∧
        FeedsOnly rest))

/-- The lines of a text are the text. -/
theorem flatten_cutLines (line text : List CodePoint) :
    (cutLines line text).flatten = line.reverse ++ text := by
  fun_induction cutLines line text with
  | case1 line hline => simp [List.isEmpty_iff.1 hline]
  | case2 => simp
  | case3 line rest ih => simp [ih]
  | case4 line c rest hcrlf hc ih => simp [ih]
  | case5 line c rest hcrlf hc ih => simp [ih]

/-- The characters of the lines of a text are those of the text. -/
theorem mem_of_mem_cutLines {text row : List CodePoint} (h : row ∈ cutLines [] text) {c : CodePoint}
    (hc : c ∈ row) : c ∈ text := by
  have hflatten := flatten_cutLines [] text
  rw [List.reverse_nil, List.nil_append] at hflatten
  rw [← hflatten]
  exact List.mem_flatten_of_mem h hc

theorem cutLines_nil (line : List CodePoint) :
    cutLines line [] = if line.isEmpty then [] else [line.reverse] := rfl

theorem cutLines_boundary (line rest : List CodePoint) :
    cutLines line (.char '\r' :: .char '\n' :: rest) =
      (line.reverse ++ [.char '\r', .char '\n']) :: cutLines [] rest := by
  rw [cutLines.eq_def]
  simp

/-- But for a carriage return before a line feed, characters are looked at one by one. -/
theorem cutLines_cons {c : CodePoint} {rest : List CodePoint}
    (h : ¬(c = '\r' ∧ rest.head? = some (.char '\n'))) (line : List CodePoint) :
    cutLines line (c :: rest) =
      if isLineEnd c then (line.reverse ++ [c]) :: cutLines [] rest
      else cutLines (c :: line) rest := by
  rw [cutLines.eq_def]
  split
  · next heq => cases heq
  · next heq =>
    cases heq
    exact absurd ⟨rfl, rfl⟩ h
  · next heq =>
    cases heq
    rw [List.reverse_cons]

theorem cutLines_lineFeed (line rest : List CodePoint) :
    cutLines line (.char '\n' :: rest) = (line.reverse ++ [.char '\n']) :: cutLines [] rest :=
  cutLines_cons (by simp) line

/-- Where only line feeds end lines, any other character is the next one of its line. -/
theorem FeedsOnly.cutLines_cons {c : CodePoint} {text : List CodePoint} (h : FeedsOnly (c :: text))
    (hc : c ≠ '\n') (line rest : List CodePoint) :
    cutLines line (c :: (text ++ rest)) = cutLines (c :: line) (text ++ rest) := by
  by_cases hend : isLineEnd c = true
  · -- the carriage return of a boundary, which the line feed ends
    obtain ⟨rfl, hnext⟩ := (h.1 hend).resolve_left hc
    obtain ⟨text, rfl⟩ := List.head?_eq_some_iff.1 hnext
    rw [List.cons_append, cutLines_lineFeed, cutLines_boundary, List.reverse_cons,
      List.append_assoc]
    rfl
  · rw [Text.cutLines_cons, if_neg hend]
    rintro ⟨rfl, -⟩
    exact hend rfl

theorem FeedsOnly.cutLines_append {text : List CodePoint} (h : FeedsOnly text)
    (hfeed : .char '\n' ∉ text) (line rest : List CodePoint) :
    cutLines line (text ++ rest) = cutLines (text.reverse ++ line) rest := by
  induction text generalizing line with
  | nil => rfl
  | cons c text ih =>
    rw [List.mem_cons, not_or] at hfeed
    rw [List.cons_append, h.cutLines_cons (Ne.symm hfeed.1), ih h.2 hfeed.2, List.reverse_cons,
      List.append_assoc]
    rfl

/-- The first line goes on from what it holds already; a line feed is its last character only. -/
theorem exists_cutLines_cons {c : CodePoint} (hc : c ≠ '\n') (line rest : List CodePoint) :
    ∃ right feed lines, cutLines line (c :: rest) = (line.reverse ++ c :: right ++ feed) :: lines ∧
      .char '\n' ∉ right ∧ ∀ d ∈ feed, d = '\n' := by
  -- on what follows: each character that ends no line joins the line so far
  induction rest generalizing c line with
  | nil =>
    refine ⟨[], [], [], ?_, List.not_mem_nil, by simp⟩
    rw [cutLines_cons (by simp)]
    split <;> simp [cutLines_nil]
  | cons d rest ih =>
    by_cases hcrlf : c = '\r' ∧ d = '\n'
    · -- the two are one boundary
      obtain ⟨rfl, rfl⟩ := hcrlf
      exact ⟨[], [.char '\n'], cutLines [] rest, by simp [cutLines_boundary],
        List.not_mem_nil, by simp⟩
    rw [cutLines_cons (by simpa using hcrlf)]
    split
    · exact ⟨[], [], cutLines [] (d :: rest), by simp, List.not_mem_nil, by simp⟩
    by_cases hd : d = '\n'
    · subst hd
      exact ⟨[], [.char '\n'], cutLines [] rest, by simp [cutLines_lineFeed],
        List.not_mem_nil, by simp⟩
    · obtain ⟨right, feed, lines, hlines, hright, hfeed⟩ := ih hd (c :: line)
      refine ⟨d :: right, feed, lines, ?_, ?_, hfeed⟩
      · rw [hlines]
        simp
      · simp [Ne.symm hd, hright]

end Text

/-! ## Where a line has a token -/

open Text Token in
/-- As long as only line feeds end lines, the characters that follow a text are on the line, and
behind as many characters, as the place says to which the text leads. -/
theorem exists_line_of_placeAfter (first : Int) {before chars : List CodePoint} {last : CodePoint}
    (h : FeedsOnly (before ++ chars)) (hchars : .char '\n' ∉ chars) (hlast : last ≠ '\n')
    (after line : List CodePoint) (hline : .char '\n' ∉ line) :
    ∃ (i : Nat) (left right feed : List CodePoint),
      (cutLines line (before ++ chars ++ last :: after))[i]? =
        some (left ++ (chars ++ [last]) ++ right ++ feed) ∧
      placeAfter ⟨first, line.length + 1⟩ before = ⟨first + i, left.length + 1⟩ ∧
      .char '\n' ∉ left ∧ .char '\n' ∉ right ∧ ∀ c ∈ feed, c = '\n' := by
  -- on the text in front; `line` is what its first line holds before it
  induction before generalizing first line with
  | nil =>
    obtain ⟨right, feed, lines, hlines, hright, hfeed⟩ :=
      exists_cutLines_cons hlast (chars.reverse ++ line) after
    refine ⟨0, line.reverse, right, feed, ?_, ?_, by simpa using hline, hright, hfeed⟩
    · rw [h.cutLines_append hchars, List.nil_append, hlines]
      simp
    · simp [placeAfter]
  | cons c before ih =>
    have hall : FeedsOnly (c :: (before ++ chars)) := h
    by_cases hc : c = '\n'
    · subst hc
      obtain ⟨i, left, right, feed, hcut, hplace, hfeeds⟩ :=
        ih (first + 1) hall.2 [] List.not_mem_nil
      refine ⟨i + 1, left, right, feed, ?_, ?_, hfeeds⟩
      · rw [List.cons_append, List.cons_append, cutLines_lineFeed, List.getElem?_cons_succ]
        exact hcut
      · rw [placeAfter_lineFeed]
        refine hplace.trans ?_
        congr 1
        push_cast
        omega
    · obtain ⟨i, left, right, feed, hcut, hplace, hfeeds⟩ :=
        ih first hall.2 (c :: line) (by simp [Ne.symm hc, hline])
      refine ⟨i, left, right, feed, ?_, ?_, hfeeds⟩
      · rw [List.cons_append, List.cons_append, hall.cutLines_cons hc]
        exact hcut
      · rw [placeAfter_of_ne hc]
        exact hplace

/-! ## Rows of an excerpt -/

namespace Text

/-- Each of some texts that are joined, with a separator at both ends, stands between two. -/
theorem exists_intercalate_of_mem {row : Text} {rows : List Text} (h : row ∈ rows)
    (separator : Text) :
    ∃ above below, separator ++ separator.intercalate rows ++ separator =
      above ++ separator ++ row ++ separator ++ below := by
  induction rows with
  | nil => cases h
  | cons other rows ih =>
    by_cases hnil : rows = []
    · subst hnil
      obtain rfl := List.mem_singleton.1 h
      exact ⟨"", "", by rw [Text.intercalate_singleton, Text.empty_append, Text.append_empty]⟩
    · rw [Text.intercalate_cons_of_ne_nil hnil]
      rcases List.mem_cons.1 h with rfl | h
      · refine ⟨"", separator.intercalate rows ++ separator, ?_⟩
        simp only [Text.append_assoc, Text.empty_append]
      · obtain ⟨above, below, hjoin⟩ := ih h
        refine ⟨separator ++ other ++ above, below, ?_⟩
        simp only [Text.append_assoc] at hjoin ⊢
        rw [hjoin]

theorem dropLineFeeds_append {row feed : List CodePoint} (hrow : .char '\n' ∉ row)
    (hfeed : ∀ c ∈ feed, c = '\n') :
    dropLineFeeds (Text.ofList (row ++ feed)) = Text.ofList row := by
  have hall : ∀ c ∈ feed.reverse, (c == '\n') = true := by simpa using hfeed
  have hnone : row.reverse.dropWhile (· == .char '\n') = row.reverse := by
    cases hreverse : row.reverse with
    | nil => rfl
    | cons c rest =>
      have hc : c ∈ row := List.mem_reverse.1 (hreverse ▸ List.mem_cons_self)
      rw [List.dropWhile_cons_of_neg]
      rintro hc'
      exact hrow (eq_of_beq hc' ▸ hc)
  rw [dropLineFeeds, Text.toList_ofList, List.reverse_append, List.dropWhile_append_of_pos hall,
    hnone, List.reverse_reverse]

end Text

namespace Excerpt

/-- The row with a number in which a token is highlighted between what is left and right of it. -/
def markedRow (number : Nat) (left token right : Text) : Text :=
  Colour.paint Colour.white (Text.alignRight 5 (toString number) ++ " |") ++ " " ++
    (left ++ Colour.code "48;5;30" ++ Colour.paint "1;97" token ++ right)

theorem highlight_ofList (left token right : List CodePoint) :
    highlight (Text.ofList (left ++ token ++ right)) (left.length + 1) token.length =
      Text.ofList left ++ Colour.code "48;5;30" ++ Colour.paint "1;97" (Text.ofList token) ++
        Text.ofList right := by
  have hbehind : (left ++ token ++ right).drop (left.length + token.length) = right := by
    rw [← List.length_append, List.drop_left]
  rw [highlight, Text.toList_ofList, Nat.add_sub_cancel]
  rw [hbehind, List.append_assoc, List.take_left, List.drop_left, List.take_left]

/-- An excerpt has the row of each line near the one that it is about, that one included. -/
theorem exists_render (focus : Focus) {source line : Text} {i : Nat}
    (h : (Text.lines source)[i]? = some line) (hfocus : focus.line = some ((i + 1 : Nat) : Int)) :
    ∃ above below, render focus source =
      above ++ "\n" ++ focus.row (i + 1 : Nat) (i + 1) line ++ "\n" ++ below := by
  have heffective : focus.effectiveLine (Text.lines source).length = (i + 1 : Nat) := by
    rw [Focus.effectiveLine, hfocus]
    exact if_neg (by omega)
  have hnumbered : (i + 1, line) ∈ numbered (Text.lines source) :=
    List.mem_map.2 ⟨(line, i), List.mem_zipIdx_iff_getElem?.2 h, rfl⟩
  rw [render, heffective]
  refine Text.exists_intercalate_of_mem (List.mem_cons_of_mem _ ?_) "\n"
  refine List.mem_map.2 ⟨(i + 1, line), List.mem_filter.2 ⟨hnumbered, ?_⟩, rfl⟩
  simp

/-- The row of a line has the characters highlighted that stand behind some others. -/
theorem row_eq_markedRow (file : Text) (number : Nat) {left token right feed : List CodePoint}
    (htoken : token ≠ []) (hrow : .char '\n' ∉ left ++ token ++ right)
    (hfeed : ∀ c ∈ feed, c = '\n') :
    Focus.row ⟨file, some number, some (left.length + 1 : Nat), some (Text.ofList token)⟩ number
        number (Text.ofList (left ++ token ++ right ++ feed)) =
      markedRow number (Text.ofList left) (Text.ofList token) (Text.ofList right) := by
  have hpos : 0 < token.length := List.length_pos_iff.2 htoken
  have hcolumn : (decide ((0 : Int) < (left.length + 1 : Nat)) &&
      decide (((left.length + 1 : Nat) : Int) ≤
        (Text.ofList (left ++ token ++ right)).length)) = true := by
    rw [Text.length_ofList]
    simp
    omega
  have hwidth : max 1 (Text.ofList token).length = token.length := by
    rw [Text.length_ofList]
    omega
  rw [Focus.row, Text.dropLineFeeds_append hrow hfeed]
  simp only [if_true, Focus.mark, hcolumn, Option.getD_some, hwidth, Int.toNat_natCast,
    highlight_ofList]
  rfl

open Text Token in
/-- The excerpt about characters of a text, at the place to which those before them lead, has their
line with just these characters highlighted, as long as only line feeds end lines before it. -/
theorem exists_render_markedRow (file : Text) {source : Text} {before chars after : List CodePoint}
    {last : CodePoint} (hsource : source.toList = before ++ (chars ++ [last]) ++ after)
    (hchars : .char '\n' ∉ chars ++ [last]) (h : FeedsOnly (before ++ chars)) :
    let place := placeAfter start before
    let token := Text.ofList (chars ++ [last])
    ∃ (number : Nat) (left right above below : Text), place.line = number ∧
      render ⟨file, some place.line, some place.column, some token⟩ source =
        above ++ "\n" ++ markedRow number left token right ++ "\n" ++ below ∧
      ∀ c ∈ (left ++ token ++ right).toList, c ≠ '\n' ∧ c ∈ source.toList := by
  intro place token
  have htext : source.toList = before ++ chars ++ last :: after := by simp [hsource]
  obtain ⟨hinit, hlast⟩ : .char '\n' ∉ chars ∧ last ≠ '\n' := by simpa [eq_comm] using hchars
  obtain ⟨i, left, right, feed, hcut, hplace, hleft, hright, hfeed⟩ :=
    exists_line_of_placeAfter 1 h hinit hlast after [] List.not_mem_nil
  -- places are counted from one
  have hstands : place = ⟨(i + 1 : Nat), (left.length + 1 : Nat)⟩ := by
    refine hplace.trans ?_
    congr 1
    push_cast
    omega
  have hline : (lines source)[i]? =
      some (Text.ofList (left ++ (chars ++ [last]) ++ right ++ feed)) := by
    rw [lines, htext, List.getElem?_map, hcut]
    rfl
  have hrow : .char '\n' ∉ left ++ (chars ++ [last]) ++ right := by
    simp only [List.mem_append, not_or]
    exact ⟨⟨hleft, by simpa using hchars⟩, hright⟩
  obtain ⟨above, below, hrender⟩ := exists_render
    ⟨file, some (i + 1 : Nat), some (left.length + 1 : Nat), some token⟩ hline rfl
  refine ⟨i + 1, Text.ofList left, Text.ofList right, above, below, ?_, ?_, ?_⟩
  · rw [hstands]
  · rw [hstands, hrender, row_eq_markedRow file (i + 1) (by simp) hrow hfeed]
  · -- the line is a part of the text
    intro c hc
    simp only [Text.toList_append, token] at hc
    refine ⟨fun hfeed => hrow (hfeed ▸ hc), ?_⟩
    rw [htext]
    exact mem_of_mem_cutLines (List.mem_of_getElem? hcut) (List.mem_append_left feed hc)

end Excerpt

/-! ## The token of a refusal -/

open Token in
/-- What a refusal quotes stands in the source where the refusal says, on one line. -/
theorem Syntax.Refuses.stands [Platform] {source : Text} {file : Option Text} {error : ParseError}
    (h : Refuses source file (.of (.parse error))) (htoken : error.token ≠ "") :
    Stands start source.toList error.token.toList error.place ∧
      .char '\n' ∉ error.token.toList := by
  have hquoted : ∀ token ∈ (scan source).tokens,
      Stands start source.toList (Text.ofList token.text).toList token.place ∧
        .char '\n' ∉ (Text.ofList token.text).toList := by
    intro token hmem
    rw [Text.toList_ofList]
    exact ⟨stands_of_mem_scanFrom (List.mem_of_mem_filter hmem), lineFeed_not_mem_token hmem⟩
  cases h with
  | token hmem => exact hquoted _ hmem
  | string hmem => exact hquoted _ hmem
  | @character c place hstuck =>
    show Stands start source.toList [c] place ∧ .char '\n' ∉ [c]
    exact ⟨stands_of_stuck hstuck, by simpa using (ne_lineFeed_of_stuck hstuck).symm⟩
  | endOfInput => exact absurd rfl htoken

/-- A source text that cannot be read is reported with an excerpt that points at what does not fit.
Where the refusal quotes a token, the source has the token at the place that the refusal names. If
no line ends before the end of the token but by a line feed, alone or after a carriage return, the
row of the excerpt with the number of the line has just the token highlighted. -/
theorem excerpt_highlights_token [Platform] {isCommand : Text → Bool} {source : Text}
    {file : Option Text} {error : ParseError}
    (h : Program.parse isCommand source file = .error (.of (.parse error)))
    (htoken : error.token ≠ "") (hescape : .char '\x1b' ∉ source.toList) (filename : Text) :
    Token.Stands Token.start source.toList error.token.toList error.place ∧
    ∀ before after : List CodePoint, source.toList = before ++ error.token.toList ++ after →
      error.place = Token.placeAfter Token.start before →
      Text.FeedsOnly (before ++ error.token.toList.dropLast) →
      ∃ (number : Nat) (left right above below : Text), error.place.line = number ∧
        Excerpt.render
            ⟨filename, some error.place.line, some error.place.column, some error.token⟩ source =
          above ++ "\n" ++ Excerpt.markedRow number left error.token right ++ "\n" ++ below ∧
        ∀ c ∈ (left ++ error.token ++ right).toList, c ≠ '\n' ∧ c ≠ '\x1b' := by
  obtain ⟨hstands, hline⟩ := (Syntax.parse_eq_error h).stands htoken
  refine ⟨hstands, ?_⟩
  intro before after hsource hplace hfeeds
  -- the last character of the token may itself be a line end
  have hne : error.token.toList ≠ [] := fun hnil => htoken (Text.toList_eq_nil_iff.1 hnil)
  have hlast := List.dropLast_append_getLast hne
  rw [← hlast] at hsource hline
  obtain ⟨number, left, right, above, below, hnumber, hrender, hrow⟩ :=
    Excerpt.exists_render_markedRow filename hsource hline hfeeds
  rw [hlast, Text.ofList_toList, ← hplace] at hrender
  rw [hlast, Text.ofList_toList] at hrow
  refine ⟨number, left, right, above, below, hplace ▸ hnumber, hrender, ?_⟩
  intro c hc
  obtain ⟨hfeed, hmem⟩ := hrow c hc
  exact ⟨hfeed, fun heq => hescape (heq ▸ hmem)⟩

section

attribute [local instance] Platform.basic

/-- A word that does not fit, on the second of two lines, with a form feed behind it. -/
theorem excerpt_highlights_stray_word :
    let source := "1 # a\r\n\t\"b\" then\x0c2"
    let error : ParseError := ⟨.token "then", ⟨2, 6⟩, none⟩
    Program.parse (fun _ => false) source none = .error (.of (.parse error)) ∧
    ∃ (number : Nat) (left right above below : Text), error.place.line = number ∧
      Excerpt.render ⟨"a.st", some 2, some 6, some "then"⟩ source =
        above ++ "\n" ++ Excerpt.markedRow number left "then" right ++ "\n" ++ below ∧
      ∀ c ∈ (left ++ "then" ++ right).toList, c ≠ '\n' ∧ c ≠ '\x1b' := by
  intro source error
  have hparse : Program.parse (fun _ => false) source none = .error (.of (.parse error)) := by cbv
  have hhighlights := (excerpt_highlights_token hparse (by decide) (by decide) "a.st").2
  exact ⟨hparse, hhighlights ("1 # a\r\n\t\"b\" " : Text).toList [.char '\x0c', .char '2']
    (by decide) (by decide) (by decide)⟩

end

/-- A form feed starts a row of its own, and the numbers of the rows are no longer those of the
lines. -/
example :
    Excerpt.render ⟨"a.st", some 2, some 2, some "end"⟩ "1\n\x0cend" =
      "\n\x1b[97m  File \"a.st\", line 2\x1b[0m\n" ++ "\x1b[90m    1 |\x1b[0m 1\n" ++
        "\x1b[97m    2 |\x1b[0m \x0c\n" ++ "\x1b[90m    3 |\x1b[0m end\n" := by
  decide

end StackShell
