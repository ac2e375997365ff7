import StackShell.Document.Reader
import StackShell.Document.Writer
import StackShell.Proofs.Numerals.Written

/-!
# Strings, numbers and words of documents

The parts of a document that hold no other parts are read back from their texts, whatever follows
them: a string (`readString_quote`), an integer (`readValue_int`) and a double (`readValue_float`).
Only behind a number it matters what follows, since more digits, a point or an exponent would belong
to it.
-/

namespace StackShell.Document

open Decimal

/-! ## Strings -/

/-- The characters that have an escape of two characters. -/
def shortEscapes : List CodePoint :=
  [.char '"', .char '\\', .char '\n', .char '\r', .char '\t', .char '\x0c', .char '\x08']

/-- The code unit that a character is read back as: other controls are escaped with four digits. -/
def unitOf (c : CodePoint) : CodeUnit :=
  if c ∈ shortEscapes then .plain c
  else if c.toNat < 0x20 then .escaped c.toNat
  else .plain c

theorem escapeChar_of_not_mem {c : CodePoint} (h : c ∉ shortEscapes) :
    escapeChar c =
      if c.toNat < 0x20 then .char '\\' :: .char 'u' :: (Text.hex 4 c.toNat).toList else [c] := by
  unfold escapeChar
  simp_all [shortEscapes]

/-- Four hexadecimal digits are read back as the control that they write. -/
theorem hexFour?_hex {n : Nat} (hn : n < 0x20) :
    ∃ a b c d, (Text.hex 4 n).toList = [a, b, c, d] ∧ hexFour? a b c d = some n := by
  rw [Text.hex, Text.toList_ofList]
  interval_cases n <;> exact ⟨_, _, _, _, rfl, rfl⟩

/-- Reading an escaped character gives its code unit; something has to follow it. -/
theorem readUnits_escapeChar (start : List CodePoint) (c e : CodePoint) (rest : List CodePoint) :
    readUnits start (escapeChar c ++ e :: rest) =
      before (unitOf c) (readUnits start (e :: rest)) := by
  by_cases hshort : c ∈ shortEscapes
  · simp only [shortEscapes, List.mem_cons, List.not_mem_nil, or_false] at hshort
    obtain rfl | rfl | rfl | rfl | rfl | rfl | rfl := hshort <;> rfl
  · rw [escapeChar_of_not_mem hshort, unitOf, if_neg hshort]
    by_cases hcontrol : c.toNat < 0x20
    · obtain ⟨a, b, d, f, hdigits, hvalue⟩ := hexFour?_hex hcontrol
      rw [if_pos hcontrol, if_pos hcontrol, hdigits]
      show readUnits start (.char '\\' :: .char 'u' :: a :: b :: d :: f :: e :: rest) = _
      rw [readUnits, hvalue]
    · rw [if_neg hcontrol, if_neg hcontrol]
      show readUnits start (c :: e :: rest) = _
      rw [readUnits.eq_def]
      split <;> simp_all [shortEscapes]

/-- A quoted text is read up to its closing quote. -/
theorem readUnits_quoted (start chars rest : List CodePoint) :
    readUnits start (chars.flatMap escapeChar ++ .char '"' :: rest) =
      .ok (chars.map unitOf, rest) := by
  induction chars with
  | nil => rfl
  | cons c chars ih =>
    rw [List.flatMap_cons, List.append_assoc]
    -- behind the first character there is at least the closing quote
    obtain ⟨e, tail, htail⟩ : ∃ e tail, chars.flatMap escapeChar ++ .char '"' :: rest = e :: tail :=
      List.exists_cons_of_ne_nil (by simp)
    rw [htail, readUnits_escapeChar, ← htail, ih]
    rfl

/-- No control opens a surrogate pair, so code units give their characters one by one. -/
theorem joinUnits_map_unitOf (chars : List CodePoint) : joinUnits (chars.map unitOf) = chars := by
  induction chars with
  | nil => rfl
  | cons c chars ih =>
    rw [List.map_cons]
    by_cases hplain : c ∈ shortEscapes ∨ ¬c.toNat < 0x20
    · have hunit : unitOf c = .plain c := by
        unfold unitOf
        grind
      rw [hunit, joinUnits, ih]
    · obtain ⟨hshort, hcontrol⟩ := not_or.1 hplain
      rw [not_not] at hcontrol
      have hunit : unitOf c = .escaped c.toNat := by
        rw [unitOf, if_neg hshort, if_pos hcontrol]
      -- an escaped character is a control, and the controls come before the surrogates
      have hlow : isHigh c.toNat = false := by
        simp only [isHigh, Bool.and_eq_false_imp, decide_eq_true_eq, decide_eq_false_iff_not]
        omega
      rw [hunit, joinUnits.eq_def]
      split
      · contradiction
      · next h => cases h
      · next high low rest h =>
        obtain ⟨hhigh, hrest⟩ := List.cons.inj h
        cases hhigh
        rw [hlow, Bool.false_and, if_neg (by decide), CodePoint.ofNat_toNat, ← hrest, ih]
      · next n rest hnot h =>
        obtain ⟨hn, hrest⟩ := List.cons.inj h
        cases hn
        rw [CodePoint.ofNat_toNat, ← hrest, ih]

theorem toList_quote (text : Text) :
    (quote text).toList = .char '"' :: (text.toList.flatMap escapeChar ++ [.char '"']) := by
  simp [quote]

/-- A string is read back from its quoted form. -/
theorem readString_quote (start : List CodePoint) (text : Text) (rest : List CodePoint) :
    readString start (text.toList.flatMap escapeChar ++ .char '"' :: rest) = .ok (text, rest) := by
  rw [readString, readUnits_quoted]
  show Except.ok (Text.ofList (joinUnits (text.toList.map unitOf)), rest) = _
  rw [joinUnits_map_unitOf, Text.ofList_toList]

/-! ## Numbers -/

/-- What follows a number does not go on with it. -/
def Ends (rest : List CodePoint) : Prop :=
  ∀ c ∈ rest.head?, c.isDigit = false ∧ c ≠ '.' ∧ c ≠ 'e' ∧ c ≠ 'E'

section

variable (n : Numeral) {rest : List CodePoint}

/-- Behind the whole part comes a point, an exponent or what follows the numeral. -/
theorem head_after_whole (hrest : Ends rest) :
    ∀ c ∈ (n.fractionChars ++ (n.powerChars ++ rest)).head?, c.isDigit = false := by
  intro c hc
  by_cases hnil : n.fractionChars ++ n.powerChars = []
  · rw [← List.append_assoc, hnil] at hc
    exact (hrest c hc).1
  · rw [← List.append_assoc, List.head?_append_of_ne_nil _ hnil] at hc
    obtain rfl | rfl := Numeral.head_fractionChars hc <;> decide

/-- Behind the fraction comes an exponent or what follows the numeral. -/
theorem head_after_fraction (hrest : Ends rest) :
    ∀ c ∈ (n.powerChars ++ rest).head?, c.isDigit = false ∧ c ≠ '.' := by
  intro c hc
  by_cases hnil : n.powerChars = []
  · rw [hnil] at hc
    exact ⟨(hrest c hc).1, (hrest c hc).2.1⟩
  · rw [List.head?_append_of_ne_nil _ hnil] at hc
    rw [Numeral.head_powerChars hc]
    decide

theorem wholeLength_numeral (hrest : Ends rest) :
    wholeLength (n.whole ++ (n.fractionChars ++ (n.powerChars ++ rest))) = n.whole.length := by
  obtain ⟨c, row, hwhole, -⟩ := n.exists_cons
  by_cases hzero : c = '0'
  · -- a zero stands alone
    have hsingle : n.whole = [.char '0'] := n.whole_zero (by rw [hwhole, hzero]; rfl)
    rw [hsingle]
    rfl
  · have htake := takeWhile_digital (fun c hc => hc) n.whole_digital (head_after_whole n hrest)
    unfold wholeLength
    split
    · next h =>
      rw [hwhole] at h
      exact absurd (List.cons.inj h).1 hzero
    · rw [htake]

theorem fractionLength_numeral (hrest : Ends rest) :
    fractionLength (n.fractionChars ++ (n.powerChars ++ rest)) = n.fractionChars.length := by
  have hhead := head_after_fraction n hrest
  by_cases hnone : n.fraction = []
  · rw [Numeral.fractionChars, if_pos hnone, List.nil_append]
    unfold fractionLength
    split
    · next h =>
      rw [h] at hhead
      exact absurd rfl (hhead '.' rfl).2
    · rfl
  · rw [Numeral.fractionChars, if_neg hnone]
    show fractionLength (.char '.' :: (n.fraction ++ (n.powerChars ++ rest))) = _
    rw [fractionLength, takeWhile_digital (fun c hc => hc) n.fraction_digital
      fun c hc => (hhead c hc).1]
    simp [hnone]

theorem exponentLength_numeral (hrest : Ends rest) :
    exponentLength (n.powerChars ++ rest) = n.powerChars.length := by
  unfold Numeral.powerChars
  cases hpower : n.power with
  | none =>
    cases rest with
    | nil => rfl
    | cons c rest =>
      -- what follows is no exponent
      obtain ⟨-, -, hlower, hupper⟩ := hrest c rfl
      show exponentLength (c :: rest) = 0
      simp [exponentLength, hlower, hupper]
  | some p =>
    obtain ⟨down, size⟩ := p
    obtain ⟨hne, hdigital⟩ := n.power_digital (down, size) (by rw [hpower]; rfl)
    have htake : (size ++ rest).takeWhile CodePoint.isDigit = size :=
      takeWhile_digital (fun c hc => hc) hdigital fun c hc => (hrest c hc).1
    have hlength : size.length ≠ 0 := by
      rw [Ne, List.length_eq_zero_iff]
      exact hne
    cases down with
    | true =>
      show exponentLength (.char 'e' :: .char '-' :: (size ++ rest)) = _
      simp [exponentLength, htake, hne]
      omega
    | false =>
      show exponentLength (.char 'e' :: .char '+' :: (size ++ rest)) = _
      simp [exponentLength, htake, hne]
      omega

theorem minusLength_numeral : Text.minusLength (n.chars ++ rest) = n.signChars.length := by
  obtain ⟨c, row, hwhole, hc⟩ := n.exists_cons
  unfold Numeral.chars Numeral.signChars
  cases n.negative with
  | true => rfl
  | false =>
    rw [hwhole]
    unfold Text.minusLength
    split
    · next h =>
      obtain ⟨rfl, -⟩ := List.cons.inj h
      exact absurd hc (by decide)
    · rfl

/-- A numeral is read to its end. -/
theorem readNumber_numeral (hrest : Ends rest) :
    readNumber (n.chars ++ rest) =
      if n.fractionChars.length + n.powerChars.length = 0 then
        match readInteger n.chars with
        | .ok k => .ok (.int k, rest)
        | .error (.tooLong digits) => .error (.tooLong digits)
        | .error .malformed => .error (.problem .value (n.chars ++ rest))
      else .ok (.float (readReal n.chars), rest) := by
  have hsplit : n.chars ++ rest =
      n.signChars ++ (n.whole ++ (n.fractionChars ++ (n.powerChars ++ rest))) := by
    simp [Numeral.chars]
  -- where each part of the numeral is found in the text
  have hwhole : (n.chars ++ rest).drop n.signChars.length =
      n.whole ++ (n.fractionChars ++ (n.powerChars ++ rest)) := by
    rw [hsplit, List.drop_left]
  have hfraction : (n.chars ++ rest).drop (n.signChars.length + n.whole.length) =
      n.fractionChars ++ (n.powerChars ++ rest) := by
    rw [← List.drop_drop, hwhole, List.drop_left]
  have hpower : (n.chars ++ rest).drop (n.signChars.length + n.whole.length +
      n.fractionChars.length) = n.powerChars ++ rest := by
    rw [← List.drop_drop, hfraction, List.drop_left]
  have hsize : n.signChars.length + n.whole.length + n.fractionChars.length +
      n.powerChars.length = n.chars.length := by
    simp only [Numeral.chars, List.length_append]
    omega
  have hlength : n.whole.length ≠ 0 := by
    rw [Ne, List.length_eq_zero_iff]
    exact n.whole_ne_nil
  unfold readNumber
  dsimp only
  rw [minusLength_numeral, hwhole, wholeLength_numeral n hrest, hfraction,
    fractionLength_numeral n hrest, hpower, exponentLength_numeral n hrest, hsize,
    List.take_left, List.drop_left, if_neg (by simpa using hlength)]
  exact ite_congr (propext beq_iff_eq) (fun _ => rfl) fun _ => rfl

/-- The value of a whole numeral is an integer. -/
theorem readNumber_whole {k : Int} (hwhole : n.IsWhole) (hread : readInteger n.chars = .ok k)
    (hrest : Ends rest) : readNumber (n.chars ++ rest) = .ok (.int k, rest) := by
  have hfraction : n.fractionChars = [] := if_pos hwhole.1
  have hpower : n.powerChars = [] := by
    rw [Numeral.powerChars, hwhole.2]
  rw [readNumber_numeral n hrest, hread, hfraction, hpower]
  rfl

/-- The value of any other numeral is a double. -/
theorem readNumber_real (hreal : ¬n.IsWhole) (hrest : Ends rest) :
    readNumber (n.chars ++ rest) = .ok (.float (readReal n.chars), rest) := by
  have hlength : ¬n.fractionChars.length + n.powerChars.length = 0 := by
    intro h
    apply hreal
    constructor
    · by_contra hne
      rw [Numeral.fractionChars, if_neg hne, List.length_cons] at h
      omega
    · cases hpower : n.power with
      | none => rfl
      | some p =>
        rw [Numeral.powerChars, hpower, List.length_cons] at h
        omega
  rw [readNumber_numeral n hrest, if_neg hlength]

/-- A numeral starts with a digit, or with a minus and a digit. -/
theorem chars_cases (rest : List CodePoint) :
    (∃ c row, n.chars ++ rest = c :: row ∧ c.isDigit = true) ∨
      ∃ c row, n.chars ++ rest = .char '-' :: c :: row ∧ c.isDigit = true := by
  obtain ⟨c, row, hwhole, hc⟩ := n.exists_cons
  unfold Numeral.chars Numeral.signChars
  rw [hwhole]
  cases n.negative with
  | true => exact .inr ⟨c, _, rfl, hc⟩
  | false => exact .inl ⟨c, _, rfl, hc⟩

/-- No fixed word starts like a numeral. -/
theorem readWord?_numeral (rest : List CodePoint) : readWord? (n.chars ++ rest) = none := by
  have hdigit : ∀ c : CodePoint, c.isDigit = true →
      c ≠ 'n' ∧ c ≠ 't' ∧ c ≠ 'f' ∧ c ≠ 'N' ∧ c ≠ 'I' ∧ c ≠ '-' := by
    rintro c hc
    refine ⟨?_, ?_, ?_, ?_, ?_, ?_⟩ <;> rintro rfl <;> exact absurd hc (by decide)
  obtain ⟨c, row, htext, hc⟩ | ⟨c, row, htext, hc⟩ := chars_cases n rest
  · obtain ⟨h1, h2, h3, h4, h5, h6⟩ := hdigit c hc
    simp [htext, readWord?, words, List.findSome?, Ne.symm h1, Ne.symm h2, Ne.symm h3, Ne.symm h4,
      Ne.symm h5, Ne.symm h6]
  · obtain ⟨-, -, -, -, h5, -⟩ := hdigit c hc
    simp [htext, readWord?, words, List.findSome?, Ne.symm h5]

theorem chars_ne_cons {c : CodePoint} (hdigit : c.isDigit = false) (hminus : c ≠ '-')
    (rest row : List CodePoint) : n.chars ++ rest ≠ c :: row := by
  intro h
  obtain ⟨d, row', htext, hd⟩ | ⟨d, row', htext, -⟩ := chars_cases n rest
  · rw [htext] at h
    rw [(List.cons.inj h).1, hdigit] at hd
    cases hd
  · rw [htext] at h
    exact hminus (List.cons.inj h).1.symm

/-- A value that starts like a numeral is read as a number. -/
theorem readValue_numeral (fuel : Nat) (rest : List CodePoint) :
    readValue (fuel + 1) (n.chars ++ rest) = readNumber (n.chars ++ rest) := by
  rw [readValue, readWord?_numeral n rest]
  · exact fun row => chars_ne_cons n (by decide) (by decide) rest row
  · exact fun row => chars_ne_cons n (by decide) (by decide) rest row
  · exact fun row => chars_ne_cons n (by decide) (by decide) rest row

end

/-- An integer that is not too long is read back from its text. -/
theorem readValue_int {k : Int} (hk : k.natAbs < digitBound) :
    ∃ n : Numeral, integerText? k = some (Text.ofList n.chars) ∧
      ∀ fuel rest, Ends rest → readValue (fuel + 1) (n.chars ++ rest) = .ok (.int k, rest) := by
  refine ⟨_, integerText?_eq hk, fun fuel rest hrest => ?_⟩
  rw [readValue_numeral]
  exact readNumber_whole _ (Numeral.isWhole_ofNat _ _) (readInteger_ofNat hk) hrest

/-- A double is read back from its text, also if it is infinite or no number. -/
theorem readValue_float (x : Float) (fuel : Nat) {rest : List CodePoint} (hrest : Ends rest) :
    readValue (fuel + 1) ((floatText x).toList ++ rest) = .ok (.float x, rest) := by
  unfold floatText
  cases hx : Binary.ofFloat x with
  | finite negative mantissa exponent =>
    obtain ⟨n, hreal, htext, hread⟩ := exists_numeral_realText hx
    dsimp only
    rw [htext, Text.toList_ofList, readValue_numeral, readNumber_real n hreal hrest, hread]
  | infinite negative =>
    rw [Binary.ofFloat_infinite hx]
    cases negative <;> rfl
  | nan =>
    rw [Binary.ofFloat_nan hx]
    rfl

/-! ## First characters -/

/-- A character that a value may start with, as far as the reader looks at it before the value: it
is no blank, no closing bracket and no byte order mark. -/
def Opens (c : CodePoint) : Prop :=
  isSpace c = false ∧ c ≠ ']' ∧ c ≠ '\x7d' ∧ c ≠ '\ufeff'

instance (c : CodePoint) : Decidable (Opens c) :=
  inferInstanceAs (Decidable (_ ∧ _))

/-- A text with such a character in front. -/
def Starts (text : List CodePoint) : Prop :=
  ∃ c row, text = c :: row ∧ Opens c

theorem starts_numeral (n : Numeral) : Starts n.chars := by
  have hdigit : ∀ c : CodePoint, c.isDigit = true → Opens c := by
    intro c hc
    refine ⟨?_, ?_, ?_, ?_⟩
    · by_contra h
      simp only [isSpace, Bool.not_eq_false, Bool.or_eq_true, beq_iff_eq] at h
      obtain ((rfl | rfl) | rfl) | rfl := h <;> exact absurd hc (by decide)
    · rintro rfl
      exact absurd hc (by decide)
    · rintro rfl
      exact absurd hc (by decide)
    · rintro rfl
      exact absurd hc (by decide)
  obtain ⟨c, row, htext, hc⟩ | ⟨c, row, htext, -⟩ := chars_cases n []
  · rw [List.append_nil] at htext
    exact ⟨c, row, htext, hdigit c hc⟩
  · rw [List.append_nil] at htext
    exact ⟨'-', c :: row, htext, by decide⟩

theorem starts_floatText (x : Float) : Starts (floatText x).toList := by
  unfold floatText
  cases hx : Binary.ofFloat x with
  | finite negative mantissa exponent =>
    obtain ⟨n, -, htext, -⟩ := exists_numeral_realText hx
    dsimp only
    rw [htext, Text.toList_ofList]
    exact starts_numeral n
  | infinite negative =>
    cases negative with
    | true => exact ⟨'-', ("Infinity" : Text).toList, by simp, by decide⟩
    | false => exact ⟨'I', ("nfinity" : Text).toList, by simp, by decide⟩
  | nan => exact ⟨'N', ("aN" : Text).toList, by simp, by decide⟩

end StackShell.Document
