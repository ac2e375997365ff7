import StackShell.Proofs.Excerpts
import StackShell.Text.Ansi

/-!
# Excerpts without their colours

An excerpt is coloured by control sequences alone. Once they are removed, as they are from what goes
to no screen, it is a heading and the lines of the source as they stand, each after its number
(`excerpt_without_colours`): wherever the highlight was, it was put around characters of the line
and replaced none.

The sequences are removed from a whole text, and what removes them could find one across the seam of
two parts. `Text.Uncolours` is what does not depend on what follows, so that it goes from the parts
of a text to the text.
-/

namespace StackShell

namespace Text

/-! ## Removing colours -/

namespace ControlKind

variable {kind : ControlKind}

theorem stripChars_of_after {text tail : List CodePoint} (h : kind.after? text = some tail) :
    kind.stripChars text = kind.stripChars tail := by
  rw [stripChars]
  split
  · next heq =>
    rw [h] at heq
    cases heq
    rfl
  · next heq =>
    rw [h] at heq
    cases heq

theorem stripChars_cons {c : CodePoint} (hc : c ≠ '\x1b') (rest : List CodePoint) :
    kind.stripChars (c :: rest) = c :: kind.stripChars rest := by
  have hnone : kind.after? (c :: rest) = none := by
    unfold after?
    split
    · next heq =>
      cases heq
      exact absurd rfl hc
    · rfl
  rw [stripChars]
  split
  · next heq =>
    rw [hnone] at heq
    cases heq
  · rfl

end ControlKind

/-- Whether a text leaves another one when its colours are removed, whatever follows it. -/
def Uncolours (coloured plain : Text) : Prop :=
  ∀ rest, ControlKind.colour.stripChars (coloured.toList ++ rest) =
    plain.toList ++ ControlKind.colour.stripChars rest

namespace Uncolours

variable {coloured plain coloured' plain' : Text}

theorem strip (h : Uncolours coloured plain) : ControlKind.colour.strip coloured = plain := by
  have hall := h []
  have hnil : ControlKind.colour.stripChars [] = [] := by
    rw [ControlKind.stripChars]
    rfl
  rw [List.append_nil, hnil, List.append_nil] at hall
  rw [ControlKind.strip, hall, Text.ofList_toList]

theorem append (h : Uncolours coloured plain) (h' : Uncolours coloured' plain') :
    Uncolours (coloured ++ coloured') (plain ++ plain') := by
  intro rest
  rw [Text.toList_append, Text.toList_append, List.append_assoc, h, h', List.append_assoc]

/-- A text without escape characters is left as it is. -/
theorem of_not_mem {text : Text} (h : .char '\x1b' ∉ text.toList) : Uncolours text text := by
  intro rest
  generalize text.toList = chars at h
  induction chars with
  | nil => rfl
  | cons c chars ih =>
    rw [List.mem_cons, not_or] at h
    rw [List.cons_append, List.cons_append, ControlKind.stripChars_cons (Ne.symm h.1), ih h.2]

/-- Nothing is left of a control sequence for a colour. -/
theorem code {attributes : Text}
    (h : attributes.toList.all ControlKind.colour.isParameter = true) :
    Uncolours (Colour.code attributes) "" := by
  intro rest
  have hchars : (Colour.code attributes).toList ++ rest =
      .char '\x1b' :: .char '[' :: (attributes.toList ++ .char 'm' :: rest) := by
    simp [Colour.code]
  have hafter : ControlKind.colour.after? ((Colour.code attributes).toList ++ rest) =
      some rest := by
    rw [hchars]
    simp only [ControlKind.after?]
    rw [List.dropWhile_append_of_pos (List.all_eq_true.1 h)]
    rfl
  exact ControlKind.stripChars_of_after hafter

theorem paint {attributes : Text}
    (hattributes : attributes.toList.all ControlKind.colour.isParameter = true)
    (h : Uncolours coloured plain) : Uncolours (Colour.paint attributes coloured) plain := by
  have hreset : Uncolours Colour.reset "" := code (by decide)
  have hpainted := ((code hattributes).append h).append hreset
  rw [Text.empty_append, Text.append_empty] at hpainted
  exact hpainted

theorem intercalate {separator : Text} (hseparator : .char '\x1b' ∉ separator.toList)
    {rows plainRows : List Text} (h : List.Forall₂ Uncolours rows plainRows) :
    Uncolours (separator.intercalate rows) (separator.intercalate plainRows) := by
  induction h with
  | nil => exact fun _ => rfl
  | @cons row plainRow rows plainRows hrow hrows ih =>
    cases hrows with
    | nil =>
      rw [Text.intercalate_singleton, Text.intercalate_singleton]
      exact hrow
    | cons hnext hrows =>
      rw [Text.intercalate_cons_of_ne_nil (List.cons_ne_nil _ _),
        Text.intercalate_cons_of_ne_nil (List.cons_ne_nil _ _)]
      exact (hrow.append (of_not_mem hseparator)).append ih

end Uncolours

/-! ## Lines with their line feeds -/

/-- A line without the line feed at its end, if it has one. -/
def withoutFeed (line : Text) : Text :=
  if line.toList.getLast? = some (.char '\n') then Text.ofList line.toList.dropLast else line

/-- A line that is cut has a line feed at its end at most. -/
theorem eq_append_of_mem_cutLines {line text row : List CodePoint} (hline : .char '\n' ∉ line)
    (h : row ∈ cutLines line text) :
    ∃ chars feed, row = chars ++ feed ∧ .char '\n' ∉ chars ∧ (feed = [] ∨ feed = [.char '\n']) := by
  have hends : ∀ {left : List CodePoint} {c : CodePoint}, .char '\n' ∉ left → c ≠ '\n' →
      .char '\n' ∉ left.reverse ++ [c] := by
    intro left c hleft hc
    simp [hleft, Ne.symm hc]
  fun_induction cutLines line text with
  | case1 => cases h
  | case2 line =>
    obtain rfl := List.mem_singleton.1 h
    exact ⟨line.reverse, [], by simp, by simpa using hline, .inl rfl⟩
  | case3 line rest ih =>
    rcases List.mem_cons.1 h with rfl | h
    · exact ⟨line.reverse ++ [.char '\r'], [.char '\n'], by simp, hends hline (by decide), .inr rfl⟩
    · exact ih List.not_mem_nil h
  | case4 line c rest hcrlf hc ih =>
    rcases List.mem_cons.1 h with rfl | h
    · by_cases hfeed : c = '\n'
      · exact ⟨line.reverse, [.char '\n'], by simp [hfeed], by simpa using hline, .inr rfl⟩
      · exact ⟨line.reverse ++ [c], [], by simp, hends hline hfeed, .inl rfl⟩
    · exact ih List.not_mem_nil h
  | case5 line c rest hcrlf hc ih =>
    have hfeed : c ≠ '\n' := by
      rintro rfl
      exact hc rfl
    exact ih (by simp [hline, Ne.symm hfeed]) h

/-- What is shown of a line of a text is the line without the line feed at its end. -/
theorem dropLineFeeds_eq_withoutFeed {text line : Text} (h : line ∈ lines text) :
    dropLineFeeds line = withoutFeed line := by
  obtain ⟨row, hrow, rfl⟩ := List.mem_map.1 h
  obtain ⟨chars, feed, rfl, hchars, hfeed⟩ := eq_append_of_mem_cutLines List.not_mem_nil hrow
  rw [dropLineFeeds_append hchars (by rcases hfeed with rfl | rfl <;> simp), withoutFeed,
    Text.toList_ofList]
  rcases hfeed with rfl | rfl
  · rw [List.append_nil, if_neg fun hlast => hchars (List.mem_of_getLast? hlast)]
  · rw [List.getLast?_concat, if_pos rfl, List.dropLast_concat]

theorem mem_of_mem_lines {text line : Text} (h : line ∈ lines text) {c : CodePoint}
    (hc : c ∈ line.toList) : c ∈ text.toList := by
  obtain ⟨row, hrow, rfl⟩ := List.mem_map.1 h
  rw [Text.toList_ofList] at hc
  exact mem_of_mem_cutLines hrow hc

/-! ## Lines by their numbers -/

/-- The line with a number, counted from one. -/
def lineAt? (lines : List Text) (number : Int) : Option Text :=
  if number < 1 then none else lines[(number - 1).toNat]?

/-- The lines that have one of the numbers, each with its number. -/
def linesAt (lines : List Text) (numbers : List Int) : List (Nat × Text) :=
  numbers.filterMap fun number => (lineAt? lines number).map fun line => (number.toNat, line)

theorem mem_of_mem_linesAt {lines : List Text} {numbers : List Int} {e : Nat × Text}
    (h : e ∈ linesAt lines numbers) : e.2 ∈ lines := by
  obtain ⟨number, -, hnumber⟩ := List.mem_filterMap.1 h
  obtain ⟨line, hline, rfl⟩ := Option.map_eq_some_iff.1 hnumber
  unfold lineAt? at hline
  split at hline
  · cases hline
  · exact List.mem_of_getElem? hline

theorem lineAt?_concat (lines : List Text) (line : Text) (number : Int) :
    lineAt? (lines ++ [line]) number =
      if number = lines.length + 1 then some line else lineAt? lines number := by
  unfold lineAt?
  by_cases hsmall : number < 1
  · rw [if_pos hsmall, if_pos hsmall, if_neg (by omega)]
  · rw [if_neg hsmall, if_neg hsmall]
    split
    · next hlast =>
      rw [List.getElem?_append_right (by omega)]
      have hfirst : (number - 1).toNat - lines.length = 0 := by omega
      rw [hfirst]
      rfl
    · next hother =>
      by_cases hinside : (number - 1).toNat < lines.length
      · rw [List.getElem?_append_left hinside]
      · have hlength : (lines ++ [line]).length = lines.length + 1 := by simp
        rw [List.getElem?_eq_none (by omega), List.getElem?_eq_none (by omega)]

theorem lineAt?_of_length_lt {lines : List Text} {number : Int} (h : lines.length < number) :
    lineAt? lines number = none := by
  unfold lineAt?
  split
  · rfl
  · exact List.getElem?_eq_none (by omega)

/-- A further line comes last, if its number is asked for. -/
theorem linesAt_concat (lines : List Text) (line : Text) {numbers : List Int}
    (hsorted : numbers.Pairwise (· < ·)) :
    linesAt (lines ++ [line]) numbers =
      linesAt lines numbers ++
        if ((lines.length + 1 : Nat) : Int) ∈ numbers then [(lines.length + 1, line)] else [] := by
  induction numbers with
  | nil => rfl
  | cons number numbers ih =>
    obtain ⟨hless, hsorted⟩ := List.pairwise_cons.1 hsorted
    have hrest := ih hsorted
    unfold linesAt at hrest ⊢
    rw [List.filterMap_cons, List.filterMap_cons, lineAt?_concat, hrest]
    by_cases hlast : number = lines.length + 1
    · -- all lines so far have lower numbers, and the numbers that follow are higher
      have hnone : ∀ other, number ≤ other → lineAt? lines other = none := fun other hother =>
        lineAt?_of_length_lt (by omega)
      have hrest : numbers.filterMap (fun other =>
          (lineAt? lines other).map fun line => (other.toNat, line)) = [] := by
        refine List.filterMap_eq_nil_iff.2 fun other hother => ?_
        rw [hnone other (Int.le_of_lt (hless other hother))]
        rfl
      have hfirst : ((lines.length + 1 : Nat) : Int) ∈ number :: numbers := by
        rw [hlast]
        exact List.mem_cons_self
      have honce : ((lines.length + 1 : Nat) : Int) ∉ numbers := fun hmem => by
        have := hless _ hmem
        omega
      have hnumber : number.toNat = lines.length + 1 := by omega
      rw [if_pos hlast, hnone number (Int.le_refl _), hrest, if_pos hfirst, if_neg honce]
      simp [hnumber]
    · -- the number is that of an earlier line, or of none
      have hmem : ((lines.length + 1 : Nat) : Int) ∈ number :: numbers ↔
          ((lines.length + 1 : Nat) : Int) ∈ numbers := by
        rw [List.mem_cons]
        exact ⟨fun h => h.resolve_left fun heq => hlast heq.symm, .inr⟩
      rw [if_neg hlast]
      simp only [hmem]
      cases lineAt? lines number <;> rfl

/-- The lines that have one of the numbers are found among all lines with their numbers. -/
theorem filter_numbered (lines : List Text) {numbers : List Int}
    (hsorted : numbers.Pairwise (· < ·)) :
    (Excerpt.numbered lines).filter (fun e => ((e.1 : Nat) : Int) ∈ numbers) =
      linesAt lines numbers := by
  induction lines using List.reverseRecOn with
  | nil =>
    refine (List.filterMap_eq_nil_iff.2 fun number _ => ?_).symm
    have hnone : lineAt? [] number = none := by
      unfold lineAt?
      split <;> rfl
    rw [hnone]
    rfl
  | append_singleton lines line ih =>
    have hnumbered : Excerpt.numbered (lines ++ [line]) =
        Excerpt.numbered lines ++ [(lines.length + 1, line)] := by
      simp [Excerpt.numbered, List.zipIdx_append]
    rw [hnumbered, List.filter_append, ih, linesAt_concat lines line hsorted, List.filter_singleton]
    by_cases hmem : ((lines.length + 1 : Nat) : Int) ∈ numbers <;> simp

end Text

/-! ## Excerpts -/

namespace Excerpt

open Text

/-- A row without colours: the number of a line and its text. -/
def plainRow (number : Nat) (line : Text) : Text :=
  alignRight 5 (toString number) ++ " | " ++ withoutFeed line

/-- An excerpt without colours: the line that it is about, and the lines near it. -/
def plainRows (file : Text) (shown : Int) (lines : List Text) : List Text :=
  (("  File \"" : Text) ++ file ++ "\", line " ++ toString shown) ::
    (linesAt lines [shown - 2, shown - 1, shown, shown + 1, shown + 2]).map fun e =>
      plainRow e.1 e.2

/-- A highlight takes nothing away. -/
theorem highlight_uncolours {line : Text} (hline : .char '\x1b' ∉ line.toList)
    (column width : Nat) :
    Uncolours (highlight line column width) line := by
  have hpart : ∀ {part : List CodePoint}, part.Sublist line.toList →
      Uncolours (Text.ofList part) (Text.ofList part) := by
    intro part hpart
    refine .of_not_mem fun hmem => hline (hpart.subset ?_)
    rwa [Text.toList_ofList] at hmem
  have hbefore := hpart (List.take_sublist (column - 1) line.toList)
  have hmarked := hpart ((List.take_sublist width _).trans
    (List.drop_sublist (column - 1) line.toList))
  have hafter := hpart (List.drop_sublist (column - 1 + width) line.toList)
  have hcode : Uncolours (Colour.code "48;5;30") "" := .code (by decide)
  have hpainted : Uncolours (Colour.paint "1;97" _) _ := hmarked.paint (by decide)
  have hall := ((hbefore.append hcode).append hpainted).append hafter
  have hparts : Text.ofList (line.toList.take (column - 1)) ++ "" ++
      Text.ofList ((line.toList.drop (column - 1)).take width) ++
        Text.ofList (line.toList.drop (column - 1 + width)) = line := by
    refine Text.toList_inj.1 ?_
    simp only [Text.toList_append, Text.append_empty, List.append_assoc]
    rw [← List.drop_drop, List.take_append_drop, List.take_append_drop]
  rw [hparts] at hall
  exact hall

theorem mark_uncolours (focus : Focus) {line : Text} (hline : .char '\x1b' ∉ line.toList) :
    Uncolours (focus.mark line) line := by
  unfold Focus.mark
  split
  · split
    · exact highlight_uncolours hline _ _
    · exact .of_not_mem hline
  · exact .of_not_mem hline

/-- What stands in the decimal form of an integer is a digit or the sign. -/
theorem not_mem_repr {c : Char} (hdigit : c.isDigit = false) (hminus : c ≠ '-') (n : Int) :
    c ∉ n.repr.toList := by
  have hdigits : ∀ m : Nat, c ∉ Nat.toDigits 10 m := by
    intro m hmem
    rw [Nat.isDigit_of_mem_toDigits (by decide) (by decide) hmem] at hdigit
    cases hdigit
  cases n with
  | ofNat m => simpa [Int.repr] using hdigits m
  | negSucc m => simpa [Int.repr] using ⟨hminus, hdigits (m + 1)⟩

/-- A row of an excerpt is the number of the line and its text, in colours. -/
theorem row_uncolours (focus : Focus) (effective : Int) (number : Nat) {line : Text}
    (hline : .char '\x1b' ∉ line.toList) (hfeed : dropLineFeeds line = withoutFeed line) :
    Uncolours (focus.row effective number line) (plainRow number line) := by
  have hnumber : '\x1b' ∉ Nat.toDigits 10 number := by
    simpa [Int.repr] using not_mem_repr (by decide) (by decide) number
  have hgutter : Uncolours (alignRight 5 (toString number) ++ " |")
      (alignRight 5 (toString number) ++ " |") := by
    refine .of_not_mem ?_
    simp [alignRight, blanksRow, hnumber]
  have hblank : Uncolours " " " " := .of_not_mem (by decide)
  have htext : .char '\x1b' ∉ (withoutFeed line).toList := by
    unfold withoutFeed
    split
    · rw [Text.toList_ofList]
      exact fun hmem => hline (List.mem_of_mem_dropLast hmem)
    · exact hline
  have hplain : alignRight 5 (toString number) ++ " |" ++ " " ++ withoutFeed line =
      plainRow number line := by
    simp only [plainRow, Text.append_assoc]
    rfl
  unfold Focus.row
  rw [hfeed, ← hplain]
  dsimp only
  split
  · exact ((hgutter.paint (by decide)).append hblank).append (mark_uncolours focus htext)
  · exact ((hgutter.paint (by decide)).append hblank).append (.of_not_mem htext)

/-- Highlighting never alters what is shown. Once the colours are removed, an excerpt of a source
text is an empty line, the heading, with the name of the file and the number of the line that it is
about, and the lines from the second one before that to the second one after it, as far as there are
such lines, each after its number and without the line feed at its end. Where no line is given, or
one below the first, the excerpt is about the last one. -/
theorem excerpt_without_colours (focus : Focus) {source : Text}
    (hsource : .char '\x1b' ∉ source.toList) (hfile : .char '\x1b' ∉ focus.file.toList) :
    let shown : Int := (focus.line.filter (1 ≤ ·)).getD (lines source).length
    ControlKind.colour.strip (render focus source) =
      "\n" ++ Text.intercalate "\n" (plainRows focus.file shown (lines source)) ++ "\n" := by
  intro shown
  have hshown : focus.effectiveLine (lines source).length = shown := by
    unfold Focus.effectiveLine shown
    cases focus.line with
    | none => rfl
    | some line =>
      show (if line < 1 then ((lines source).length : Int) else line) = _
      rw [Option.filter_some]
      by_cases hline : line < 1
      · rw [if_pos hline, if_neg (by simpa using hline)]
        rfl
      · rw [if_neg hline, if_pos (by simpa using hline)]
        rfl
  have hnear : (numbered (lines source)).filter (fun e =>
      shown - 2 ≤ ((e.1 : Nat) : Int) && ((e.1 : Nat) : Int) ≤ shown + 2) =
        linesAt (lines source) [shown - 2, shown - 1, shown, shown + 1, shown + 2] := by
    rw [← filter_numbered]
    · refine List.filter_congr fun e _ => ?_
      rw [Bool.eq_iff_iff, Bool.and_eq_true, decide_eq_true_eq, decide_eq_true_eq,
        decide_eq_true_eq]
      simp only [List.mem_cons, List.not_mem_nil, or_false]
      omega
    · simp
      omega
  have hheading : Uncolours
      (Colour.paint Colour.white
        (("  File \"" : Text) ++ focus.file ++ "\", line " ++ toString shown))
      (("  File \"" : Text) ++ focus.file ++ "\", line " ++ toString shown) := by
    refine .paint (by decide) (.of_not_mem ?_)
    have hnumber : '\x1b' ∉ shown.repr.toList := not_mem_repr (by decide) (by decide) shown
    show CodePoint.char '\x1b' ∉
      (("  File \"" : Text) ++ focus.file ++ "\", line " ++ shown.repr).toList
    simp [hfile, hnumber]
  have hrows : ∀ e ∈ linesAt (lines source) [shown - 2, shown - 1, shown, shown + 1, shown + 2],
      Uncolours (focus.row shown e.1 e.2) (plainRow e.1 e.2) := by
    intro e he
    have hline : e.2 ∈ lines source := mem_of_mem_linesAt he
    exact row_uncolours focus shown e.1 (fun hmem => hsource (mem_of_mem_lines hline hmem))
      (dropLineFeeds_eq_withoutFeed hline)
  have hall : Uncolours (Text.intercalate "\n" _) (Text.intercalate "\n" _) :=
    .intercalate (by decide)
    (.cons hheading (List.forall₂_map_left_iff.2 (List.forall₂_map_right_iff.2
      (List.forall₂_same.2 hrows))))
  have hfeed : Uncolours "\n" "\n" := .of_not_mem (by decide)
  have hrender : render focus source = "\n" ++ Text.intercalate "\n"
      (Colour.paint Colour.white
        (("  File \"" : Text) ++ focus.file ++ "\", line " ++ toString shown) ::
        (linesAt (lines source) [shown - 2, shown - 1, shown, shown + 1, shown + 2]).map
          fun e => focus.row shown e.1 e.2) ++ "\n" := by
    rewrite [render, hshown, ← hnear]
    rfl
  rw [hrender]
  exact ((hfeed.append hall).append hfeed).strip

/-- A word is highlighted on the second line, which a form feed ends. -/
theorem stray_word_without_colours :
    let source : Text := "1 # a\r\n\t\"b\" then\x0c2"
    .char '\x1b' ∉ source.toList ∧ .char '\x1b' ∉ ("a.st" : Text).toList ∧
    ControlKind.colour.strip (render ⟨"a.st", some 2, some 6, some "then"⟩ source) =
      "\n  File \"a.st\", line 2\n    1 | 1 # a\r\n    2 | \t\"b\" then\x0c\n    3 | 2\n" := by
  intro source
  have hsource : .char '\x1b' ∉ source.toList := by decide
  have hfile : .char '\x1b' ∉ ("a.st" : Text).toList := by decide
  refine ⟨hsource, hfile, ?_⟩
  exact (excerpt_without_colours ⟨"a.st", some 2, some 6, some "then"⟩ hsource hfile).trans
    (by decide)

end Excerpt

end StackShell
