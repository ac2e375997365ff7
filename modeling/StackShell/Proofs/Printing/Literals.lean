import StackShell.Proofs.Encodings
import StackShell.Proofs.Printing.Words
import StackShell.Proofs.Syntax.Cuts

/-!
# Literals read back

A word that is written for a literal, scanned again. An integer is scanned and read as it was; a
string is, exactly if it holds no line end, no null character and no surrogate that stands alone
(`decode_sourceChars`, `of_decode_sourceChars`, `closeLength?_sourceChars`); a real is, exactly if
its text has a point (`lexeme?_numeral`).
-/

namespace StackShell

/-! ## Strings decoded -/

namespace Escape

/-- The number that a row of hexadecimal digits goes on to write. -/
def hexValue? (n : Nat) (row : List CodePoint) : Option Nat :=
  row.foldlM (fun n c => (Text.hexDigit? c).map (16 * n + ·)) n

theorem hexDigit?_digitChar {d : Nat} (hd : d < 16) : Text.hexDigit? d.digitChar = some d := by
  interval_cases d <;> rfl

theorem hexValue?_toDigits (n : Nat) :
    hexValue? 0 ((Nat.toDigits 16 n).map CodePoint.char) = some n := by
  induction n using Nat.strongRecOn with
  | _ n ih =>
  rw [Nat.toDigits_eq_if (by decide)]
  split
  · next hlt => simp [hexValue?, hexDigit?_digitChar hlt]
  · next hge =>
    have hih := ih (n / 16) (by omega)
    have hdigit := hexDigit?_digitChar (Nat.mod_lt n (by decide : 0 < 16))
    unfold hexValue? at hih ⊢
    rw [List.map_append, List.foldlM_append, hih]
    simp [hdigit]
    omega

/-- Leading zeros do not matter. -/
theorem hexValue?_hex (width n : Nat) : hexValue? 0 (Text.hex width n).toList = some n := by
  rw [Text.hex, Text.toList_ofList]
  induction width - (Nat.toDigits 16 n).length with
  | zero => exact hexValue?_toDigits n
  | succ k ih => exact ih

theorem length_hex {width n : Nat} (hpos : 0 < width) (hn : n < 16 ^ width) :
    (Text.hex width n).toList.length = width := by
  have hle := (Nat.length_toDigits_le_iff (by decide) hpos).2 hn
  rw [Text.hex, Text.toList_ofList, List.length_map, List.length_append, List.length_replicate]
  omega

/-- A character as it is written in a literal, in ASCII. -/
def spelled (c : CodePoint) : List CodePoint :=
  if c == '\\' || c == '"' then [.char '\\', c] else if c.toNat < 0x80 then [c] else spellChar c

theorem spell_sourceChar (c : CodePoint) (rest : List CodePoint) :
    spell (sourceChar c ++ rest) = spelled c ++ spell rest := by
  unfold sourceChar spelled
  by_cases hc : (c == '\\' || c == '"') = true
  · rw [if_pos hc, if_pos hc]
    obtain rfl | rfl : c = '\\' ∨ c = '"' := by simpa using hc
    · rfl
    · rfl
  · rw [if_neg hc, if_neg hc]
    have hslash : c ≠ '\\' := by
      rintro rfl
      exact hc rfl
    rw [List.singleton_append, spell]
    intro d others h
    exact absurd h hslash

theorem mem_sourceChar (c : CodePoint) : c ∈ sourceChar c := by
  unfold sourceChar
  split <;> simp

/-- Escapes bring no surrogate in. -/
theorem encodable_sourceChars {text : Text} :
    (Text.ofList (.char '"' :: text.toList.flatMap sourceChar)).Encodable ↔ text.Encodable := by
  constructor
  · intro h c hc
    exact h c (List.mem_cons_of_mem _ (List.mem_flatMap.2 ⟨c, hc, mem_sourceChar c⟩))
  · intro h
    refine List.forall_mem_cons.2 ⟨rfl, fun c hc => ?_⟩
    obtain ⟨d, hd, hc⟩ := List.mem_flatMap.1 hc
    unfold sourceChar at hc
    split at hc
    · obtain rfl | rfl : c = '\\' ∨ c = d := by simpa using hc
      · rfl
      · exact h c hd
    · rw [List.mem_singleton.1 hc]
      exact h d hd

/-- Escapes bring no null character in. -/
theorem null_mem_sourceChars {text : Text} :
    .char '\x00' ∈ text.toList.flatMap sourceChar ↔ .char '\x00' ∈ text.toList := by
  rw [List.mem_flatMap]
  constructor
  · rintro ⟨c, hmem, hc⟩
    unfold sourceChar at hc
    split at hc <;> simp at hc <;> rwa [hc]
  · intro h
    exact ⟨'\x00', h, mem_sourceChar _⟩

variable [Platform]

/-- One character is decoded, and then the others. -/
theorem decodeFrom_cons {pos : Nat} {mode mode' : Mode} {c : CodePoint}
    {rest out tail : List CodePoint} (hstep : mode.step pos c = .ok (out, mode'))
    (hrest : decodeFrom (pos + 1) mode' rest = .ok tail) :
    decodeFrom pos mode (c :: rest) = .ok (out ++ tail) := by
  rw [decodeFrom, hstep]
  show (decodeFrom (pos + 1) mode' rest >>= _) = _
  rw [hrest]
  rfl

theorem step_slash (pos : Nat) : Mode.plain.step pos '\\' = .ok ([], .slash pos) :=
  rfl

section

variable {rest out : List CodePoint} (hrest : ∀ pos, decodeFrom pos .plain rest = .ok out)

include hrest

/-- The digits of an escape are decoded to the character that they write. -/
theorem decodeFrom_hex {kind : HexKind} {start n value : Nat} {row : List CodePoint}
    (hne : row ≠ []) (hvalue : hexValue? value row = some n) (hn : n ≤ 0x10ffff) (pos : Nat) :
    decodeFrom pos (.hex start kind row.length value) (row ++ rest) =
      .ok (CodePoint.ofNat n :: out) := by
  induction row generalizing value pos with
  | nil => exact absurd rfl hne
  | cons c row ih =>
    cases hc : Text.hexDigit? c with
    | none => simp [hexValue?, hc] at hvalue
    | some d =>
      -- the digits so far are the value, which the next one multiplies by sixteen
      have hnext : hexValue? (16 * value + d) row = some n := by
        simpa [hexValue?, hc] using hvalue
      cases row with
      | nil =>
        obtain rfl := Option.some.inj hnext
        have hstep : (Mode.hex start kind 1 value).step pos c =
            .ok ([CodePoint.ofNat (16 * value + d)], .plain) := by
          rw [Mode.step, hc]
          dsimp only
          rw [if_neg (by simp), if_neg (by omega)]
        exact decodeFrom_cons hstep (hrest _)
      | cons e row =>
        have hstep : (Mode.hex start kind (c :: e :: row).length value).step pos c =
            .ok ([], .hex start kind (e :: row).length (16 * value + d)) := by
          rw [Mode.step, hc]
          dsimp only
          rw [if_pos (by simp)]
          rfl
        exact decodeFrom_cons hstep (ih (by simp) hnext _)

/-- An escape of eight digits is decoded to the character that it spells. -/
theorem decodeFrom_spellChar (c : CodePoint) (pos : Nat) :
    decodeFrom pos .plain (spellChar c ++ rest) = .ok (c :: out) := by
  have hbound := c.toNat_le
  have hlength := length_hex (by decide : 0 < 8) (Nat.lt_of_le_of_lt hbound (by decide))
  have hvalue := hexValue?_hex 8 c.toNat
  rw [spellChar, List.cons_append, List.cons_append]
  generalize (Text.hex 8 c.toNat).toList = row at hlength hvalue
  have hne : row ≠ [] := by
    rintro rfl
    cases hlength
  have hhex : decodeFrom (pos + 2) (.hex pos .eight row.length 0) (row ++ rest) = _ :=
    decodeFrom_hex hrest hne hvalue hbound (pos + 2)
  rw [hlength, CodePoint.ofNat_toNat] at hhex
  have hstep : (Mode.slash pos).step (pos + 1) 'U' = .ok ([], .hex pos .eight 8 0) := rfl
  exact decodeFrom_cons (step_slash pos) (decodeFrom_cons hstep hhex)

end

theorem decodeFrom_spelled {rest out : List CodePoint}
    (hrest : ∀ pos, decodeFrom pos .plain rest = .ok out) (c : CodePoint) (pos : Nat) :
    decodeFrom pos .plain (spelled c ++ rest) = .ok (c :: out) := by
  unfold spelled
  split
  · next hc =>
    have hstep : (Mode.slash pos).step (pos + 1) c = .ok ([c], .plain) := by
      obtain rfl | rfl : c = '\\' ∨ c = '"' := by simpa using hc
      · rfl
      · rfl
    exact decodeFrom_cons (step_slash pos) (decodeFrom_cons hstep (hrest _))
  · next hc =>
    split
    · have hslash : (c == '\\') = false := by
        rw [Bool.or_eq_true, not_or] at hc
        simpa using hc.1
      have hstep : Mode.plain.step pos c = .ok ([c], .plain) := by
        rw [Mode.step, Mode.step.plain, hslash]
        rfl
      exact decodeFrom_cons hstep (hrest _)
    · exact decodeFrom_spellChar hrest c pos

/-- What is written between the quotes of a string is decoded to it, if it holds neither a null
character nor a surrogate that stands alone. -/
theorem decode_sourceChars {text : Text} (hnull : .char '\x00' ∉ text.toList)
    (hchars : text.Encodable) : decode (text.toList.flatMap sourceChar) = .ok text := by
  obtain ⟨s, hencode⟩ := (encodable_sourceChars.2 hchars).exists_encode
  have hdecode : ∀ (chars : List CodePoint) (pos : Nat),
      decodeFrom pos .plain (spell (chars.flatMap sourceChar)) = .ok chars := by
    intro chars
    induction chars with
    | nil =>
      intro pos
      rfl
    | cons c chars ih =>
      intro pos
      rw [List.flatMap_cons, spell_sourceChar]
      exact decodeFrom_spelled ih c pos
  unfold decode
  rw [hencode]
  dsimp only
  rw [if_neg (by simpa using fun hmem => hnull (null_mem_sourceChars.1 hmem)), hdecode]
  rfl

/-- Only such strings are decoded at all from what is written between their quotes. -/
theorem of_decode_sourceChars {text decoded : Text}
    (h : decode (text.toList.flatMap sourceChar) = .ok decoded) :
    .char '\x00' ∉ text.toList ∧ text.Encodable := by
  unfold decode at h
  split at h
  · cases h
  · next s hencode =>
    split at h
    · cases h
    · next hnull =>
      have hchars := Text.encode_eq_ok_iff.1 hencode ▸ Text.encodable_ofString s
      refine ⟨fun hmem => hnull ?_, encodable_sourceChars.1 hchars⟩
      simpa using null_mem_sourceChars.2 hmem

end Escape

/-! ## Literals scanned -/

namespace Token

theorem closeLength?_sourceChar (c : CodePoint) (rest : List CodePoint) :
    closeLength? (sourceChar c ++ rest) =
      if c = '\n' ∨ c = '\r' then none
      else (closeLength? rest).map (· + (sourceChar c).length) := by
  unfold sourceChar
  by_cases hc : (c == '\\' || c == '"') = true
  · rw [if_pos hc]
    obtain rfl | rfl : c = '\\' ∨ c = '"' := by simpa using hc
    · rfl
    · rfl
  · rw [if_neg hc, List.singleton_append, List.length_singleton, closeLength?.eq_4]
    · simp only [Bool.or_eq_true, beq_iff_eq, not_or] at hc ⊢
      simp only [hc.1, false_or, or_comm]
    · rintro rfl
      exact hc rfl
    · rintro d others rfl
      exact absurd rfl hc

/-- A written string ends at its closing quote, unless it holds a line end. -/
theorem closeLength?_sourceChars (chars rest : List CodePoint) :
    closeLength? (chars.flatMap sourceChar ++ .char '"' :: rest) =
      if .char '\n' ∈ chars ∨ .char '\r' ∈ chars then none
      else some ((chars.flatMap sourceChar).length + 1) := by
  induction chars with
  | nil => rfl
  | cons c chars ih =>
    rw [List.flatMap_cons, List.append_assoc, closeLength?_sourceChar, ih]
    by_cases hc : c = '\n' ∨ c = '\r'
    · rw [if_pos hc, if_pos (by obtain rfl | rfl := hc <;> simp)]
    · have hmem : (.char '\n' ∈ c :: chars ∨ .char '\r' ∈ c :: chars) ↔
          .char '\n' ∈ chars ∨ .char '\r' ∈ chars := by
        rw [not_or] at hc
        simp [List.mem_cons, Ne.symm hc.1, Ne.symm hc.2]
      rw [if_neg hc]
      simp only [hmem]
      split
      · rfl
      · rw [Option.map_some, List.length_append]
        congr 1
        omega

/-- Only a string starts with a quote. -/
theorem lexeme?_quote (rest : List CodePoint) :
    lexeme? (.char '"' :: rest) = (closeLength? rest).map fun n => (.string, n + 1) := by
  have hlength : Terminal.string.length? (.char '"' :: rest) = (closeLength? rest).map (· + 1) :=
    rfl
  have hnone : ∀ t : Terminal, t ≠ .string → t.length? (.char '"' :: rest) = none := by
    intro t ht
    apply Terminal.length?_eq_none
    cases t <;> first
      | exact absurd rfl ht
      | decide +kernel
  rw [lexeme?_eq]
  simp only [Terminal.first?, Terminal.all, List.findSome?_cons, List.findSome?_nil, hlength,
    hnone .real, hnone .integer, hnone .store, hnone .namedCall, hnone .atSign, hnone .comment,
    hnone .blank, hnone .word, ne_eq, reduceCtorEq, not_false_eq_true, Option.map_none]
  cases closeLength? rest <;> rfl

/-- A token that is no string is not changed by a blank behind it. -/
theorem lexeme?_continued {word rest : List CodePoint} {kind : LexemeKind} {n : Nat}
    (h : lexeme? word = some (kind, n)) (hstring : kind ≠ .string) (htoken : kind.isToken = true)
    (hrest : ∀ c ∈ rest.head?, c = ' ') : lexeme? (word ++ rest) = some (kind, n) := by
  cases rest with
  | nil => rw [List.append_nil, h]
  | cons c rest =>
    obtain rfl := hrest c rfl
    obtain ⟨-, t, hchosen, rfl⟩ := lexeme?_eq_some_iff.1 h
    obtain ⟨d, text, rfl, hd⟩ := hchosen.fits.exists_cons
    rw [lexeme?_append rfl ?_ (.inr ⟨?_, ?_⟩), h]
    · rw [← Bool.not_eq_true]
      intro hseparator
      obtain rfl := Terminal.eq_blank_of_startsWith hseparator hd
      cases htoken
    · rintro rfl
      cases t <;> first
        | exact hstring rfl
        | exact absurd hd (by decide +kernel)
    · rintro rfl
      cases t <;> first
        | exact absurd htoken Bool.false_ne_true
        | exact absurd hd (by decide +kernel)

section

open Decimal

variable (n : Numeral)

theorem minusLength_chars : Text.minusLength n.chars = n.signChars.length := by
  obtain ⟨c, row, hwhole, hc⟩ := n.exists_cons
  unfold Numeral.chars Numeral.signChars
  cases n.negative with
  | true => rfl
  | false =>
    rw [hwhole]
    show Text.minusLength (c :: _) = 0
    unfold Text.minusLength
    split
    · next h =>
      cases h
      exact absurd hc (by decide)
    · rfl

/-- An integer goes up to the point or the exponent of a numeral. -/
theorem integerLength?_numeral :
    integerLength? n.chars = some (n.signChars.length + n.whole.length) := by
  have hlength : runLength Text.isDigit (n.whole ++ (n.fractionChars ++ n.powerChars)) =
      n.whole.length :=
    runLength_eq (fun c hc => isDigit_of_isDigit (n.whole_digital c hc)) n.not_isDigit_fractionChars
  have hpos : (n.whole.length == 0) = false := by simp [n.whole_ne_nil]
  rw [integerLength?, minusLength_chars, Numeral.chars, List.drop_left, hlength, hpos]
  rfl

theorem exponentLength_powerChars : exponentLength n.powerChars = n.powerChars.length := by
  unfold Numeral.powerChars
  cases hpower : n.power with
  | none => rfl
  | some p =>
    obtain ⟨down, size⟩ := p
    obtain ⟨hne, hsize⟩ := n.power_digital _ hpower
    have hlength : runLength Text.isDigit size = size.length := by
      have h : runLength Text.isDigit (size ++ []) = size.length :=
        runLength_eq (fun c hc => isDigit_of_isDigit (hsize c hc)) (by simp)
      rwa [List.append_nil] at h
    have hpos : (size.length == 0) = false := by simpa using hne
    cases down <;> simp [exponentLength, hlength, hpos] <;> omega

/-- A numeral is a real as a whole if it has a point, and holds none otherwise. -/
theorem realLength?_numeral :
    realLength? n.chars = if n.fraction = [] then none else some n.chars.length := by
  have hdrop : n.chars.drop (n.signChars.length + n.whole.length) =
      n.fractionChars ++ n.powerChars := by
    rw [Numeral.chars, ← List.append_assoc, ← List.length_append, List.drop_left]
  rw [realLength?, integerLength?_numeral]
  simp only [bind, Option.bind]
  rw [hdrop, Numeral.fractionChars]
  by_cases hfraction : n.fraction = []
  · rw [if_pos hfraction, if_pos hfraction, List.nil_append]
    split
    · next rest hrest =>
      have hhead := Numeral.head_powerChars (n := n) (c := '.') (by rw [hrest]; rfl)
      exact absurd hhead (by decide)
    · rfl
  · have hlength : runLength Text.isDigit (n.fraction ++ n.powerChars) = n.fraction.length :=
      runLength_eq (fun c hc => isDigit_of_isDigit (n.fraction_digital c hc))
        n.not_isDigit_powerChars
    have hpos : (n.fraction.length == 0) = false := by simpa using hfraction
    rw [if_neg hfraction, if_neg hfraction, List.cons_append]
    show (if (runLength Text.isDigit (n.fraction ++ n.powerChars) == 0) = true then _ else _) = _
    rw [hlength, hpos, List.drop_left, exponentLength_powerChars, Numeral.chars,
      Numeral.fractionChars, if_neg hfraction, if_neg (by decide)]
    simp only [List.length_append, List.length_cons, Option.some.injEq]
    omega

/-- A numeral is scanned as a real if it has a point, and starts with an integer otherwise. -/
theorem lexeme?_numeral :
    lexeme? n.chars = some (if n.fraction = [] then
      (.integer, n.signChars.length + n.whole.length) else (.real, n.chars.length)) := by
  have hstring : stringLength? n.chars = none := by
    have hinteger := integerLength?_numeral n
    unfold stringLength?
    split
    · next h =>
      rw [h] at hinteger
      cases hinteger
    · rfl
  unfold lexeme?
  rw [realLength?_numeral, hstring, integerLength?_numeral]
  by_cases hfraction : n.fraction = []
  · rw [if_pos hfraction, if_pos hfraction]
  · rw [if_neg hfraction, if_neg hfraction]

/-- Only a numeral with a point matches the pattern of reals as a whole. -/
theorem leaves_numeral : realPattern.Leaves n.chars [] ↔ n.fraction ≠ [] := by
  constructor
  · intro h hfraction
    obtain ⟨m, hm, -⟩ := measures_real.longest h
    rw [realLength?_numeral, if_pos hfraction] at hm
    cases hm
  · intro hfraction
    have hlength := realLength?_numeral n
    rw [if_neg hfraction] at hlength
    obtain ⟨-, h⟩ := measures_real.found hlength
    rwa [List.drop_length] at h

end

end Token

end StackShell
