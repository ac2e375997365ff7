import Mathlib.Data.List.TakeWhile
import StackShell.Document.Reader
import StackShell.Proofs.Results

/-!
# Why a text is not a document

A text that cannot be read as a document is refused in one of two ways: as no document at all, or
because an integer in it has too many digits (`read_eq_error`).

Every reader leaves an end of its text, and where it meets a number that is too long the digits
stand in its text. This is one property of a result (`Consumes`), and it goes through when readers
follow each other.
-/

namespace StackShell.Document

/-- Whether that many decimal digits stand in a row in a text, more than an integer may have. -/
structure LongRun (digits : Nat) (text : List CodePoint) : Prop where
  tooLong : Decimal.digitLimit < digits
  row : ∃ run, run <:+: text ∧ run.length = digits ∧ ∀ c ∈ run, c.isDigit = true

/-- A reader's result on a text: it leaves an end of the text, or meets too long a number in it, or
fails in another way. -/
def Consumes {α : Type} (text : List CodePoint) : Except ReadError (α × List CodePoint) → Prop
  | .ok (_, rest) => rest <:+ text
  | .error (.tooLong digits) => LongRun digits text
  | .error (.problem ..) => True

namespace Consumes

variable {α β : Type} {text whole : List CodePoint} {result : Except ReadError (α × List CodePoint)}

theorem mono (h : Consumes text result) (htext : text <:+ whole) : Consumes whole result := by
  cases result with
  | ok found => exact List.IsSuffix.trans h htext
  | error e =>
    cases e with
    | problem kind rest => trivial
    | tooLong digits =>
      obtain ⟨run, hrun, hdigits⟩ := h.row
      exact ⟨h.tooLong, run, hrun.trans htext.isInfix, hdigits⟩

theorem map (h : Consumes text result) (f : α → β) :
    Consumes text (result.map fun (a, rest) => (f a, rest)) := by
  cases result with
  | ok found => exact h
  | error e => cases e <;> exact h

theorem bind (h : Consumes text result)
    {next : α × List CodePoint → Except ReadError (β × List CodePoint)}
    (hnext : ∀ a rest, rest <:+ text → Consumes rest (next (a, rest))) :
    Consumes text (result >>= next) := by
  cases result with
  | ok found => exact (hnext found.1 found.2 h).mono h
  | error e => cases e <;> exact h

end Consumes

theorem skip_suffix (text : List CodePoint) : skip text <:+ text :=
  List.dropWhile_suffix _

/-! ## Strings and numbers -/

theorem consumes_before {text : List CodePoint} {unit : CodeUnit}
    {tail : Except ReadError (List CodeUnit × List CodePoint)} (h : Consumes text tail) :
    Consumes text (before unit tail) :=
  h.map _

theorem consumes_readUnits (start text : List CodePoint) :
    Consumes text (readUnits start text) := by
  fun_induction readUnits start text with
  | case1 => trivial
  | case2 rest => exact List.suffix_cons _ _
  | case3 a b c d e rest n hn ih =>
    exact consumes_before (ih.mono ⟨[.char '\\', .char 'u', a, b, c, d], rfl⟩)
  | case4 => trivial
  | case5 => trivial
  | case6 c rest _ _ d hd ih =>
    exact consumes_before (ih.mono ⟨[.char '\\', c], rfl⟩)
  | case7 => trivial
  | case8 => trivial
  | case9 => trivial
  | case10 c rest _ _ _ _ _ _ ih => exact consumes_before (ih.mono (List.suffix_cons c rest))

theorem consumes_readString (start text : List CodePoint) : Consumes text (readString start text) :=
  (consumes_readUnits start text).map fun units => Text.ofList (joinUnits units)

/-- The whole part of a number is made of digits. -/
theorem isDigit_of_mem_whole {text : List CodePoint} {c : CodePoint}
    (h : c ∈ text.take (wholeLength text)) :
    c.isDigit = true := by
  unfold wholeLength at h
  split at h
  · cases List.mem_singleton.1 h
    rfl
  · have htake := List.prefix_iff_eq_take.1 (List.takeWhile_prefix CodePoint.isDigit (l := text))
    rw [← htake] at h
    exact List.mem_takeWhile_imp h

theorem ofDigits_eq_tooLong {negative : Bool} {row : List CodePoint} {digits : Nat}
    (h : Decimal.ofDigits negative row = .error (.tooLong digits)) :
    row.length = digits ∧ Decimal.digitLimit < digits := by
  unfold Decimal.ofDigits at h
  split at h
  · next hlong =>
    cases h
    exact ⟨rfl, hlong⟩
  · cases h

/-- A whole number that is too long stands in the text with all its digits. -/
theorem longRun_of_readInteger {text : List CodePoint} {digits : Nat}
    (h : Decimal.readInteger (text.take
        (Text.minusLength text + wholeLength (text.drop (Text.minusLength text)))) =
      .error (.tooLong digits)) : LongRun digits text := by
  have hrun : ∀ {negative : Bool} {tail : List CodePoint}, tail <:+ text →
      Decimal.ofDigits negative (tail.take (wholeLength tail)) = .error (.tooLong digits) →
        LongRun digits text := by
    intro negative tail htail hdigits
    obtain ⟨hlength, hlimit⟩ := ofDigits_eq_tooLong hdigits
    exact ⟨hlimit, _, (List.take_prefix _ tail).isInfix.trans htail.isInfix, hlength,
      fun c hc => isDigit_of_mem_whole hc⟩
  -- the digits are counted behind the sign, if there is one
  by_cases hminus : ∃ tail, text = .char '-' :: tail
  · obtain ⟨tail, rfl⟩ := hminus
    rw [Text.minusLength, List.drop_one, List.tail_cons, Nat.add_comm, List.take_succ_cons,
      Decimal.readInteger] at h
    exact hrun (List.suffix_cons (.char '-') tail) h
  · have hzero : Text.minusLength text = 0 := by
      unfold Text.minusLength
      split
      · exact absurd ⟨_, rfl⟩ hminus
      · rfl
    rw [hzero, List.drop_zero, Nat.zero_add, Decimal.readInteger] at h
    · exact hrun List.suffix_rfl h
    · -- the first character is a digit
      intro tail htail
      have hmem : .char '-' ∈ text.take (wholeLength text) := by
        rw [htail]
        exact List.mem_cons_self
      exact absurd (isDigit_of_mem_whole hmem) (by decide)

theorem consumes_readNumber (text : List CodePoint) : Consumes text (readNumber text) := by
  unfold readNumber
  dsimp only
  split
  · trivial
  · split
    · next hwhole =>
      obtain ⟨hfraction, hexponent⟩ := Nat.add_eq_zero_iff.1 (beq_iff_eq.1 hwhole)
      split
      · exact List.drop_suffix _ _
      · next digits hread =>
        rw [hexponent, hfraction] at hread
        exact longRun_of_readInteger hread
      · trivial
    · exact List.drop_suffix _ _

theorem readWord?_suffix {text : List CodePoint} {found : Document × List CodePoint}
    (h : readWord? text = some found) : found.2 <:+ text := by
  unfold readWord? at h
  obtain ⟨⟨word, d⟩, -, hword⟩ := List.exists_of_findSome?_eq_some h
  dsimp only at hword
  split at hword
  · cases hword
    exact List.drop_suffix _ _
  · cases hword

/-! ## Values -/

section

variable {fuel : Nat} {text : List CodePoint}

/-- A character and the blanks behind it are read off. -/
theorem skip_suffix_of_cons {c : CodePoint} {rest inner : List CodePoint}
    (h : skip rest = c :: inner) :
    skip inner <:+ rest := by
  have hrest := skip_suffix rest
  rw [h] at hrest
  exact ((skip_suffix inner).trans (List.suffix_cons c inner)).trans hrest

theorem suffix_of_skip {c : CodePoint} {rest inner : List CodePoint} (h : skip rest = c :: inner) :
    inner <:+ rest := by
  have hrest := skip_suffix rest
  rw [h] at hrest
  exact (List.suffix_cons c inner).trans hrest

theorem consumes_readValue (hitems : ∀ text, Consumes text (readItems fuel text))
    (hfields : ∀ fields text, Consumes text (readFields fuel fields text)) :
    Consumes text (readValue (fuel + 1) text) := by
  unfold readValue
  split
  · next rest =>
    exact ((consumes_readString _ rest).mono (List.suffix_cons (.char '"') rest)).map
      Document.string
  · next rest =>
    refine Consumes.mono ?_ (List.suffix_cons (.char '[') rest)
    split
    · next hskip => exact suffix_of_skip hskip
    · exact ((hitems _).mono (skip_suffix rest)).map Document.list
  · next rest =>
    refine Consumes.mono ?_ (List.suffix_cons (.char '\x7b') rest)
    split
    · next hskip => exact suffix_of_skip hskip
    · exact ((hfields [] _).mono (skip_suffix rest)).map Document.object
  · split
    · next hfound => exact readWord?_suffix hfound
    · exact consumes_readNumber text

theorem consumes_readItems (hvalue : ∀ text, Consumes text (readValue fuel text))
    (hitems : ∀ text, Consumes text (readItems fuel text)) :
    Consumes text (readItems (fuel + 1) text) := by
  unfold readItems
  refine (hvalue text).bind fun item rest _ => ?_
  dsimp only
  split
  · next hskip => exact suffix_of_skip hskip
  · next inner hskip =>
    refine Consumes.mono ?_ (skip_suffix_of_cons hskip)
    exact (hitems (skip inner)).map (item :: ·)
  · trivial

theorem consumes_readFields {fields : List Field}
    (hvalue : ∀ text, Consumes text (readValue fuel text))
    (hfields : ∀ fields text, Consumes text (readFields fuel fields text)) :
    Consumes text (readFields (fuel + 1) fields text) := by
  unfold readFields
  split
  · next rest =>
    refine Consumes.mono ?_ (List.suffix_cons (.char '"') rest)
    refine (consumes_readString _ rest).bind fun name rest _ => ?_
    dsimp only
    split
    · next inner hskip =>
      refine Consumes.mono ?_ (skip_suffix_of_cons hskip)
      refine (hvalue (skip inner)).bind fun value rest _ => ?_
      dsimp only
      split
      · next hclose => exact suffix_of_skip hclose
      · next hcomma => exact (hfields _ _).mono (skip_suffix_of_cons hcomma)
      · trivial
    · trivial
  · trivial

end

theorem consumes_reader (fuel : Nat) :
    (∀ text, Consumes text (readValue fuel text)) ∧
      (∀ text, Consumes text (readItems fuel text)) ∧
        ∀ fields text, Consumes text (readFields fuel fields text) := by
  induction fuel with
  | zero => exact ⟨fun _ => trivial, fun _ => trivial, fun _ _ => trivial⟩
  | succ fuel ih =>
    obtain ⟨hvalue, hitems, hfields⟩ := ih
    exact ⟨fun _ => consumes_readValue hitems hfields, fun _ => consumes_readItems hvalue hitems,
      fun _ _ => consumes_readFields hvalue hfields⟩

/-- A text that is not read is no document, or a number in it has too many digits. -/
theorem read_eq_error {text : Text} {failure : Failure} (h : read text = .error failure) :
    (∃ detail, failure = .of (.codec (.notDocument detail))) ∨
      ∃ digits, failure = .fault (.textTooLong (some digits)) ∧ LongRun digits text.toList := by
  -- what the reader has in hand is always the end of the text, so the digits stand in it
  have hreadAll : ∀ digits, readAll text.toList = .error (.tooLong digits) →
      LongRun digits text.toList := by
    intro digits hdigits
    unfold readAll at hdigits
    split at hdigits
    · cases hdigits
    · have hvalue := ((consumes_reader (2 * text.toList.length + 2)).1 (skip text.toList)).mono
        (skip_suffix text.toList)
      rcases bind_eq_error.1 hdigits with hdigits | ⟨⟨d, rest⟩, -, hrest⟩
      · rw [hdigits] at hvalue
        exact hvalue
      · dsimp only at hrest
        split at hrest <;> cases hrest
  unfold read at h
  cases hresult : readAll text.toList with
  | ok d =>
    rw [hresult] at h
    cases h
  | error e =>
    rw [hresult] at h
    cases e with
    | problem kind rest =>
      cases h
      exact .inl ⟨_, rfl⟩
    | tooLong digits =>
      cases h
      exact .inr ⟨digits, rfl, hreadAll digits hresult⟩

end StackShell.Document
