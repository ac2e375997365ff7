import StackShell.Proofs.Documents.Sessions
import StackShell.Text.Lines

/-!
# Line ends of written documents

A text file is read with plain line ends: a carriage return becomes a line feed. The text of a
document has no carriage return, whatever strings the document holds, as long as the indent has none
(`Document.not_mem_write`). So a session that is written to a file, with a line feed behind it, is
loaded from what is read there (`Session.exists_dump`).
-/

namespace StackShell

theorem Text.plainLineEnds_of_not_mem {text : List CodePoint} (h : .char '\r' ∉ text) :
    plainLineEnds text = text := by
  induction text with
  | nil => rfl
  | cons c text ih =>
    rw [List.mem_cons, not_or] at h
    rw [plainLineEnds.eq_def]
    split
    · next heq => cases heq
    · next heq =>
      cases heq
      exact absurd rfl h.1
    · next heq =>
      cases heq
      rw [ih h.2, if_neg (by simpa using Ne.symm h.1)]

namespace Decimal

theorem Digital.not_mem {row : List CodePoint} (h : Digital row) : .char '\r' ∉ row :=
  fun hmem => absurd (h '\r' hmem) (by decide)

theorem Numeral.not_mem_chars (n : Numeral) : .char '\r' ∉ n.chars := by
  have hsign : .char '\r' ∉ n.signChars := by
    unfold signChars
    split <;> decide
  have hfraction : .char '\r' ∉ n.fractionChars := by
    unfold fractionChars
    split
    · exact List.not_mem_nil
    · exact List.not_mem_cons_of_ne_of_not_mem (by decide) n.fraction_digital.not_mem
  have hpower : .char '\r' ∉ n.powerChars := by
    unfold powerChars
    split
    · exact List.not_mem_nil
    · next down size hsize =>
      have hdigits : .char '\r' ∉ size := (n.power_digital (down, size) hsize).2.not_mem
      cases down <;> simp [hdigits]
  simp only [chars, List.mem_append, not_or]
  exact ⟨hsign, n.whole_digital.not_mem, hfraction, hpower⟩

end Decimal

namespace Document

open Decimal

/-! ## Leaves -/

theorem not_mem_escapeChar (c : CodePoint) : .char '\r' ∉ escapeChar c := by
  by_cases hshort : c ∈ shortEscapes
  · simp only [shortEscapes, List.mem_cons, List.not_mem_nil, or_false] at hshort
    obtain rfl | rfl | rfl | rfl | rfl | rfl | rfl := hshort <;> decide
  · rw [escapeChar_of_not_mem hshort]
    split
    · next hcontrol =>
      -- there are only as many controls as can be tried out
      have hhex : ∀ n < 0x20, .char '\r' ∉ .char '\\' :: .char 'u' :: (Text.hex 4 n).toList := by
        intro n hn
        rw [Text.hex, Text.toList_ofList]
        interval_cases n <;> decide
      exact hhex c.toNat hcontrol
    · rw [List.mem_singleton]
      rintro rfl
      exact hshort (by decide)

theorem not_mem_quote (text : Text) : .char '\r' ∉ (quote text).toList := by
  rw [toList_quote, List.mem_cons, List.mem_append, List.mem_flatMap]
  rintro (h | ⟨c, -, hc⟩ | h)
  · cases h
  · exact not_mem_escapeChar c hc
  · cases List.mem_singleton.1 h

theorem not_mem_floatText (x : Float) : .char '\r' ∉ (floatText x).toList := by
  unfold floatText
  cases hx : Binary.ofFloat x with
  | finite negative mantissa exponent =>
    obtain ⟨n, -, htext, -⟩ := exists_numeral_realText hx
    dsimp only
    rw [htext, Text.toList_ofList]
    exact n.not_mem_chars
  | infinite negative => cases negative <;> simp
  | nan => simp

theorem not_mem_integerText {n : Int} {text : Text} (h : integerText? n = some text) :
    .char '\r' ∉ text.toList := by
  have hshort : n.natAbs < digitBound := by
    by_contra hlong
    rw [integerText?, if_neg hlong] at h
    cases h
  rw [integerText?_eq hshort] at h
  cases h
  rw [Text.toList_ofList]
  exact Numeral.not_mem_chars _

/-! ## Rows of parts -/

/-- A layout that fills lines without carriage returns. -/
def Style.Unbroken : Style → Prop
  | .line => True
  | .block indent => .char '\r' ∉ indent.toList

theorem not_mem_newLine {indent : Text} (h : .char '\r' ∉ indent.toList) (level : Nat) :
    .char '\r' ∉ (newLine indent level).toList := by
  rw [newLine, Text.toList_append, Text.toList_join, List.mem_append, List.mem_flatMap]
  rintro (hmem | ⟨s, hs, hmem⟩)
  · exact absurd hmem (by decide)
  · rw [List.eq_of_mem_replicate hs] at hmem
    exact h hmem

theorem not_mem_intercalate {gap : Text} (hgap : .char '\r' ∉ gap.toList) {parts : List Text}
    (hparts : ∀ part ∈ parts, .char '\r' ∉ part.toList) :
    .char '\r' ∉ (gap.intercalate parts).toList := by
  rw [Text.toList_intercalate]
  induction parts with
  | nil => exact List.not_mem_nil
  | cons part parts ih =>
    obtain ⟨hpart, hrest⟩ := List.forall_mem_cons.1 hparts
    cases parts with
    | nil => rwa [List.map_singleton, List.intercalate_singleton]
    | cons next parts =>
      rw [List.map_cons, List.map_cons, List.intercalate_cons_cons, List.mem_append,
        List.mem_append, not_or, not_or]
      exact ⟨⟨hpart, hgap⟩, ih hrest⟩

theorem not_mem_enclose {style : Style} (hstyle : style.Unbroken) (level : Nat)
    {opening closing : Text} (hopening : .char '\r' ∉ opening.toList)
    (hclosing : .char '\r' ∉ closing.toList) {parts : List Text}
    (hparts : ∀ part ∈ parts, .char '\r' ∉ part.toList) :
    .char '\r' ∉ (style.enclose level opening closing parts).toList := by
  cases parts with
  | nil =>
    rw [Style.toList_enclose_nil, List.mem_append, not_or]
    exact ⟨hopening, hclosing⟩
  | cons part parts =>
    cases style with
    | line =>
      have hcomma : .char '\r' ∉ (", " : Text).toList := by decide
      have hjoined := not_mem_intercalate hcomma hparts
      simp only [Style.enclose, Text.toList_append, List.mem_append, not_or]
      exact ⟨⟨hopening, hjoined⟩, hclosing⟩
    | block indent =>
      have hinner := not_mem_newLine hstyle (level + 1)
      have houter := not_mem_newLine hstyle level
      have hgap : .char '\r' ∉ ("," ++ newLine indent (level + 1)).toList := by
        rw [Text.toList_append, List.mem_append, not_or]
        exact ⟨by decide, hinner⟩
      have hjoined := not_mem_intercalate hgap hparts
      simp only [Style.enclose, Text.toList_append, List.mem_append, not_or] at hjoined ⊢
      exact ⟨⟨⟨⟨hopening, hinner⟩, hjoined⟩, houter⟩, hclosing⟩

/-! ## Whole documents -/

mutual

theorem not_mem_textAt {style : Style} (hstyle : style.Unbroken) (d : Document) {level : Nat}
    {text : Text} (h : textAt style level d = .ok text) : .char '\r' ∉ text.toList := by
  cases d with
  | null =>
    cases h
    decide
  | bool b =>
    cases h
    cases b <;> decide
  | int n =>
    unfold textAt at h
    split at h
    · next htext =>
      cases h
      exact not_mem_integerText htext
    · cases h
  | float x =>
    cases h
    exact not_mem_floatText x
  | string text =>
    cases h
    exact not_mem_quote text
  | list items =>
    obtain ⟨parts, hparts, h⟩ := bind_eq_ok.1 h
    cases h
    exact not_mem_enclose hstyle level (by decide) (by decide) (not_mem_textsAt hstyle items hparts)
  | object fields =>
    obtain ⟨parts, hparts, h⟩ := bind_eq_ok.1 h
    cases h
    exact not_mem_enclose hstyle level (by decide) (by decide)
      (not_mem_fieldTextsAt hstyle fields hparts)
termination_by structural d

theorem not_mem_textsAt {style : Style} (hstyle : style.Unbroken) (items : List Document)
    {level : Nat} {parts : List Text} (h : textsAt style level items = .ok parts) :
    ∀ part ∈ parts, .char '\r' ∉ part.toList := by
  cases items with
  | nil =>
    cases h
    intro part hpart
    cases hpart
  | cons d rest =>
    obtain ⟨part, hpart, h⟩ := bind_eq_ok.1 h
    obtain ⟨parts, hparts, h⟩ := bind_eq_ok.1 h
    cases h
    exact List.forall_mem_cons.2
      ⟨not_mem_textAt hstyle d hpart, not_mem_textsAt hstyle rest hparts⟩
termination_by structural items

theorem not_mem_fieldTextAt {style : Style} (hstyle : style.Unbroken) (f : Field) {level : Nat}
    {text : Text} (h : fieldTextAt style level f = .ok text) : .char '\r' ∉ text.toList := by
  cases f with
  | mk name value =>
    obtain ⟨part, hpart, h⟩ := bind_eq_ok.1 h
    cases h
    have hname := not_mem_quote name
    have hvalue := not_mem_textAt hstyle value hpart
    rw [Text.toList_append, Text.toList_append, List.mem_append, List.mem_append, not_or, not_or]
    exact ⟨⟨hname, by decide⟩, hvalue⟩
termination_by structural f

theorem not_mem_fieldTextsAt {style : Style} (hstyle : style.Unbroken) (fields : List Field)
    {level : Nat} {parts : List Text} (h : fieldTextsAt style level fields = .ok parts) :
    ∀ part ∈ parts, .char '\r' ∉ part.toList := by
  cases fields with
  | nil =>
    cases h
    intro part hpart
    cases hpart
  | cons f rest =>
    obtain ⟨part, hpart, h⟩ := bind_eq_ok.1 h
    obtain ⟨parts, hparts, h⟩ := bind_eq_ok.1 h
    cases h
    exact List.forall_mem_cons.2
      ⟨not_mem_fieldTextAt hstyle f hpart, not_mem_fieldTextsAt hstyle rest hparts⟩
termination_by structural fields

end

/-- The text of a document has no carriage return. -/
theorem not_mem_write {style : Style} (hstyle : style.Unbroken) {d : Document} {text : Text}
    (h : d.write style = .ok text) : .char '\r' ∉ text.toList :=
  not_mem_textAt hstyle d h

end Document

/-! ## Sessions -/

/-- A session that is kept in a text file: it can be written, and what is loaded from the file,
which ends with a line feed and is read with plain line ends, has the same stack and variables. -/
theorem Session.exists_dump {s : Session} (hplain : s.state.Plain) (hshort : s.state.Short)
    {style : Document.Style} (hstyle : style.Blank) (hunbroken : style.Unbroken) :
    ∃ text, s.dump style = .ok text ∧
      Text.plainLineEnds (text ++ "\n").toList = (text ++ "\n").toList ∧
      ∀ (h : Host) (v : Vocabulary), h.vocabulary = .ok v → ∀ device,
        h.load (text ++ "\n") device = .ok (.on v h.limit
          { State.initial device with stack := s.state.stack, bindings := s.state.bindings }) := by
  -- what is written does not depend on the device that the state is restored with
  obtain ⟨d, hencode, -⟩ := Snapshot.restore_encode hplain .discard
  have hfaithful := Snapshot.faithful_encode hplain.distinct hshort hencode
  obtain ⟨text, hwrite, hreads⟩ := Document.exists_textAt hstyle d hfaithful 0
  have hblank : Document.Blank ("\n" : Text).toList := by
    intro c hc
    rw [List.mem_singleton.1 hc]
    decide
  refine ⟨text, dump_eq hencode hwrite, ?_, fun h v hvocabulary device => ?_⟩
  · apply Text.plainLineEnds_of_not_mem
    rw [Text.toList_append, List.mem_append, not_or]
    exact ⟨Document.not_mem_write hunbroken hwrite, by decide⟩
  · obtain ⟨d', hencode', hrestore⟩ := Snapshot.restore_encode hplain device
    obtain rfl : d = d' := Except.ok.inj (hencode.symm.trans hencode')
    rw [Host.load, hreads.read_append hblank]
    show h.restore d device = _
    rw [Host.restore, hvocabulary, hrestore]
    rfl

end StackShell
