import StackShell.Decimal.Integer
import StackShell.Proofs.Numerals.Shortest

/-!
# Written numbers

Every number is written as a `Numeral`: a minus or not, digits without superfluous zeros before
them, a point and digits or not, and an exponent or not. The numeral of an integer is whole, that
of a real has a point or an exponent.

* `Numeral.readReal_chars`, `Numeral.readInteger_chars`: what a numeral is read as;
* `readInteger_integerText`: an integer is read back from its text;
* `exists_numeral_realText`: a finite double is written as the numeral of a real, and read back
  from it.
-/

namespace StackShell.Decimal

/-! ## Rows of digits -/

/-- A row of the digits from zero to nine. -/
def Digital (row : List CodePoint) : Prop :=
  ∀ c ∈ row, c.isDigit = true

theorem Digital.append {a b : List CodePoint} (ha : Digital a) (hb : Digital b) :
    Digital (a ++ b) := by
  intro c hc
  obtain hc | hc := List.mem_append.1 hc
  · exact ha c hc
  · exact hb c hc

theorem digital_zeros (n : Nat) : Digital (List.replicate n (.char '0')) := by
  intro c hc
  rw [List.eq_of_mem_replicate hc]
  rfl

theorem digital_digits (n : Nat) : Digital (Text.digits n) := by
  intro c hc
  obtain ⟨digit, hdigit, rfl⟩ := List.mem_map.1 hc
  exact Nat.isDigit_of_mem_toDigits (by decide) (by decide) hdigit

/-- Digits are characters. -/
theorem Digital.exists_chars {row : List CodePoint} (h : Digital row) :
    ∃ chars : List Char, row = chars.map CodePoint.char ∧ ∀ c ∈ chars, c.isDigit = true := by
  induction row with
  | nil => exact ⟨[], rfl, List.forall_mem_nil _⟩
  | cons c row ih =>
    obtain ⟨hc, hrow⟩ := List.forall_mem_cons.1 h
    obtain ⟨chars, rfl, hchars⟩ := ih hrow
    cases c with
    | char c => exact ⟨c :: chars, rfl, List.forall_mem_cons.2 ⟨hc, hchars⟩⟩
    | lone offset => cases hc

/-- The digits from zero to nine are digits, and with their own values. -/
theorem digit?_of_isDigit {c : CodePoint} (hc : c.isDigit = true) :
    Text.digit? c = some (c.toNat - 0x30) := by
  have hlt : c.toNat < 0x80 := by
    have hle : c.toNat ≤ 0x39 := (CodePoint.isDigit_iff_toNat.1 hc).2
    omega
  rw [Text.digit?, if_pos hlt, if_pos hc]

theorem isDigit_of_isDigit {c : CodePoint} (hc : c.isDigit = true) : Text.isDigit c = true := by
  rw [Text.isDigit, digit?_of_isDigit hc]
  rfl

/-- A row of digits writes the number it has in base ten. -/
theorem digitsValue_map {chars : List Char} (h : ∀ c ∈ chars, c.isDigit = true) :
    Text.digitsValue (chars.map CodePoint.char) = Nat.ofDigitChars 10 chars 0 := by
  unfold Text.digitsValue
  generalize 0 = n
  induction chars generalizing n with
  | nil => rfl
  | cons c chars ih =>
    obtain ⟨hc, hchars⟩ := List.forall_mem_cons.1 h
    have hdigit : Text.digit? (.char c) = some (c.toNat - 0x30) := digit?_of_isDigit hc
    rw [List.map_cons, List.foldl_cons, hdigit, Nat.ofDigitChars_cons]
    exact ih hchars _

theorem digitsValue_digits (n : Nat) : Text.digitsValue (Text.digits n) = n := by
  rw [Text.digits, digitsValue_map fun c => Nat.isDigit_of_mem_toDigits (by decide) (by decide),
    Nat.ofDigitChars_ten_toDigits]

theorem digitsValue_append {a b : List CodePoint} (ha : Digital a) (hb : Digital b) :
    Text.digitsValue (a ++ b) = 10 ^ b.length * Text.digitsValue a + Text.digitsValue b := by
  obtain ⟨a, rfl, hfirst⟩ := ha.exists_chars
  obtain ⟨b, rfl, hsecond⟩ := hb.exists_chars
  rw [← List.map_append, digitsValue_map (List.forall_mem_append.2 ⟨hfirst, hsecond⟩),
    digitsValue_map hfirst, digitsValue_map hsecond, Nat.ofDigitChars_append,
    Nat.ofDigitChars_eq_ofDigitChars_zero,
    List.length_map]

theorem digitsValue_zeros (n : Nat) : Text.digitsValue (List.replicate n (.char '0')) = 0 := by
  have hzeros : ∀ c ∈ List.replicate n '0', c.isDigit = true := fun c hc => by
    rw [List.eq_of_mem_replicate hc]
    rfl
  rw [← List.map_replicate, digitsValue_map hzeros, Nat.ofDigitChars_replicate_zero, Nat.mul_zero]

/-- The value of a digit is less than ten. -/
theorem digit?_lt {c : CodePoint} {d : Nat} (h : Text.digit? c = some d) : d < 10 := by
  unfold Text.digit? at h
  split at h
  · split at h
    · next hdigit =>
      cases h
      have hle : c.toNat ≤ 0x39 := (CodePoint.isDigit_iff_toNat.1 hdigit).2
      omega
    · cases h
  · obtain ⟨z, hz, rfl⟩ := Option.map_eq_some_iff.1 h
    have hfound := Array.find?_some hz
    simp only [Bool.and_eq_true, decide_eq_true_eq] at hfound
    omega

/-- A row of digits of any script writes a number of at most as many digits. -/
theorem foldl_lt_pow {f : Nat → CodePoint → Nat} (hf : ∀ n c, f n c + 1 ≤ (n + 1) * 10)
    (row : List CodePoint) (n : Nat) : row.foldl f n < (n + 1) * 10 ^ row.length := by
  induction row generalizing n with
  | nil => simp
  | cons c row ih =>
    rw [List.foldl_cons, List.length_cons, Nat.pow_succ]
    calc row.foldl f (f n c) < (f n c + 1) * 10 ^ row.length := ih (f n c)
      _ ≤ (n + 1) * 10 * 10 ^ row.length := Nat.mul_le_mul_right _ (hf n c)
      _ = (n + 1) * (10 ^ row.length * 10) := by rw [Nat.mul_assoc, Nat.mul_comm 10]

theorem digitsValue_lt (row : List CodePoint) : Text.digitsValue row < 10 ^ row.length := by
  unfold Text.digitsValue
  refine Nat.lt_of_lt_of_eq (foldl_lt_pow (fun n c => ?_) row 0) (Nat.one_mul _)
  split
  · next d hd =>
    have hlt := digit?_lt hd
    omega
  · omega

theorem digitsValue_lt_pow10 {row : List CodePoint} {k : Nat} (h : row.length ≤ k) :
    Text.digitsValue row < pow10 k :=
  Nat.lt_of_lt_of_le (digitsValue_lt row) (Nat.pow_le_pow_right (by decide) h)

/-- An integer that is read is not too long to be written. -/
theorem natAbs_lt_of_readInteger {text : List CodePoint} {n : Int} (h : readInteger text = .ok n) :
    n.natAbs < digitBound := by
  have hdigits : ∀ {negative row}, ofDigits negative row = .ok n → n.natAbs < digitBound := by
    intro negative row h
    unfold ofDigits at h
    split at h
    · cases h
    · next hlength =>
      have hlt : Text.digitsValue row < digitBound := digitsValue_lt_pow10 (by omega)
      have hn := Except.ok.inj h
      have habs : n.natAbs = Text.digitsValue row := by
        rw [← hn]
        split <;> simp
      rw [habs]
      exact hlt
  unfold readInteger at h
  split at h
  · exact hdigits h
  · exact hdigits h

/-- Taking and dropping digits stops at the end of the row if no digit follows. -/
theorem takeWhile_digital {p : CodePoint → Bool} (hp : ∀ c, c.isDigit = true → p c = true)
    {row rest : List CodePoint} (hrow : Digital row) (hrest : ∀ c ∈ rest.head?, p c = false) :
    (row ++ rest).takeWhile p = row := by
  rw [List.takeWhile_append_of_pos fun c hc => hp c (hrow c hc)]
  cases rest with
  | nil => simp
  | cons c rest => rw [List.takeWhile_cons_of_neg (by simp [hrest c rfl]), List.append_nil]

theorem dropWhile_digital {p : CodePoint → Bool} (hp : ∀ c, c.isDigit = true → p c = true)
    {row rest : List CodePoint} (hrow : Digital row) (hrest : ∀ c ∈ rest.head?, p c = false) :
    (row ++ rest).dropWhile p = rest := by
  rw [List.dropWhile_append_of_pos fun c hc => hp c (hrow c hc)]
  cases rest with
  | nil => rfl
  | cons c rest => rw [List.dropWhile_cons_of_neg (by simp [hrest c rfl])]

/-! ## Numerals -/

/-- The form that numbers are written in. An empty fraction stands for no point, and a power has a
sign, whether it is down, and digits. -/
structure Numeral where
  negative : Bool
  whole : List CodePoint
  fraction : List CodePoint
  power : Option (Bool × List CodePoint)
  whole_digital : Digital whole
  whole_ne_nil : whole ≠ []
  whole_zero : whole.head? = some (.char '0') → whole = [.char '0']
  fraction_digital : Digital fraction
  power_digital : ∀ p ∈ power, p.2 ≠ [] ∧ Digital p.2

namespace Numeral

/-- The characters of the sign. -/
def signChars (n : Numeral) : List CodePoint :=
  if n.negative then [.char '-'] else []

/-- The characters of the point and the fraction. -/
def fractionChars (n : Numeral) : List CodePoint :=
  if n.fraction = [] then [] else .char '.' :: n.fraction

/-- The characters of the exponent. -/
def powerChars (n : Numeral) : List CodePoint :=
  match n.power with
  | none => []
  | some (down, size) => .char 'e' :: (if down then '-' else '+') :: size

/-- The characters of a numeral. -/
def chars (n : Numeral) : List CodePoint :=
  n.signChars ++ (n.whole ++ (n.fractionChars ++ n.powerChars))

/-- The exponent that a numeral writes. -/
def exponent (n : Numeral) : Int :=
  match n.power with
  | none => 0
  | some (down, size) => if down then -Text.digitsValue size else Text.digitsValue size

/-- Whether a numeral has neither a point nor an exponent. -/
def IsWhole (n : Numeral) : Prop :=
  n.fraction = [] ∧ n.power = none

/-- The number that a numeral writes, without its sign. -/
def value (n : Numeral) : ℚ :=
  Text.digitsValue (n.whole ++ n.fraction) * 10 ^ (n.exponent - n.fraction.length)

/-- A numeral's first digit. -/
theorem exists_cons (n : Numeral) : ∃ c row, n.whole = c :: row ∧ c.isDigit = true := by
  cases h : n.whole with
  | nil => exact absurd h n.whole_ne_nil
  | cons c row => exact ⟨c, row, rfl, n.whole_digital c (by simp [h])⟩

theorem takeSign_chars (n : Numeral) :
    takeSign n.chars = (n.negative, n.whole ++ (n.fractionChars ++ n.powerChars)) := by
  obtain ⟨c, row, hwhole, hc⟩ := n.exists_cons
  unfold chars signChars
  cases n.negative with
  | true => rfl
  | false =>
    rw [hwhole]
    show takeSign (c :: _) = (false, c :: _)
    unfold takeSign
    split
    · next h =>
      cases h
      exact absurd hc (by decide)
    · next h =>
      cases h
      exact absurd hc (by decide)
    · rfl

theorem head_powerChars {n : Numeral} {c : CodePoint} (h : c ∈ n.powerChars.head?) : c = 'e' := by
  unfold powerChars at h
  split at h <;> cases h
  rfl

theorem head_fractionChars {n : Numeral} {c : CodePoint}
    (h : c ∈ (n.fractionChars ++ n.powerChars).head?) : c = '.' ∨ c = 'e' := by
  unfold fractionChars at h
  split at h
  · exact Or.inr (head_powerChars h)
  · cases h
    exact Or.inl rfl

theorem not_isDigit_powerChars (n : Numeral) :
    ∀ c ∈ n.powerChars.head?, Text.isDigit c = false := by
  intro c hc
  rw [head_powerChars hc]
  decide

theorem not_isDigit_fractionChars (n : Numeral) :
    ∀ c ∈ (n.fractionChars ++ n.powerChars).head?, Text.isDigit c = false := by
  intro c hc
  obtain rfl | rfl := head_fractionChars hc <;> decide

theorem takeFraction_chars (n : Numeral) :
    takeFraction (n.fractionChars ++ n.powerChars) = (n.fraction, n.powerChars) := by
  by_cases hnone : n.fraction = []
  · rw [fractionChars, if_pos hnone, hnone, List.nil_append]
    unfold takeFraction
    split
    · next rest hrest =>
      have hhead := head_powerChars (n := n) (c := '.') (by rw [hrest]; rfl)
      exact absurd hhead (by decide)
    · rfl
  · rw [fractionChars, if_neg hnone]
    show (List.takeWhile _ (n.fraction ++ n.powerChars),
      List.dropWhile _ (n.fraction ++ n.powerChars)) = _
    rw [takeWhile_digital (fun c => isDigit_of_isDigit) n.fraction_digital
        n.not_isDigit_powerChars,
      dropWhile_digital (fun c => isDigit_of_isDigit) n.fraction_digital n.not_isDigit_powerChars]

theorem readExponent_chars (n : Numeral) : readExponent n.powerChars = n.exponent := by
  unfold powerChars exponent
  cases n.power with
  | none => rfl
  | some p =>
    obtain ⟨down, size⟩ := p
    cases down <;> rfl

/-- A numeral is taken into its parts. -/
theorem ofChars_chars (n : Numeral) :
    RealParts.ofChars n.chars = ⟨n.negative, n.whole, n.fraction, n.exponent⟩ := by
  unfold RealParts.ofChars
  rw [takeSign_chars]
  dsimp only
  rw [takeWhile_digital (fun c => isDigit_of_isDigit) n.whole_digital
      n.not_isDigit_fractionChars,
    dropWhile_digital (fun c => isDigit_of_isDigit) n.whole_digital n.not_isDigit_fractionChars,
    takeFraction_chars, readExponent_chars]

/-- The double that a numeral is read as. -/
theorem readReal_chars (n : Numeral) :
    readReal n.chars = signed n.negative
      (nearestDecimal (Text.digitsValue (n.whole ++ n.fraction))
        (n.exponent - n.fraction.length)) := by
  rw [readReal, ofChars_chars]
  rfl

/-- The integer that a whole numeral is read as. -/
theorem readInteger_chars {n : Numeral} (h : n.IsWhole) (hlength : n.whole.length ≤ digitLimit) :
    readInteger n.chars = .ok (if n.negative then -(Text.digitsValue n.whole : Int)
      else Text.digitsValue n.whole) := by
  have hfraction : n.fractionChars = [] := if_pos h.1
  have hpower : n.powerChars = [] := by
    rw [powerChars, h.2]
  obtain ⟨c, row, hwhole, hc⟩ := n.exists_cons
  unfold chars signChars
  rw [hfraction, hpower, List.nil_append, List.append_nil]
  have hshort : ¬n.whole.length > digitLimit := by omega
  cases n.negative with
  | true =>
    show ofDigits true n.whole = _
    rw [ofDigits, if_neg hshort]
  | false =>
    show readInteger n.whole = _
    have hplain : readInteger n.whole = ofDigits false n.whole := by
      rw [hwhole]
      unfold readInteger
      split
      · next h =>
        cases h
        exact absurd hc (by decide)
      · rfl
    rw [hplain, ofDigits, if_neg hshort]

end Numeral

/-! ## Integers -/

/-- The first digit of a number is zero for zero only. -/
theorem head_toDigits {n : Nat} (h : (Nat.toDigits 10 n).head? = some '0') : n = 0 := by
  induction n using Nat.strongRecOn with
  | ind n ih =>
    by_cases hlt : n < 10
    · rw [Nat.toDigits_of_lt_base hlt] at h
      interval_cases n <;> first | rfl | exact absurd h (by decide)
    · rw [Nat.toDigits_of_base_le (by decide) (by omega)] at h
      rw [List.head?_append_of_ne_nil _ Nat.toDigits_ne_nil] at h
      have hzero := ih (n / 10) (by omega) h
      omega

theorem head_digits {n : Nat} (h : (Text.digits n).head? = some (.char '0')) : n = 0 := by
  rw [Text.digits, List.head?_map] at h
  obtain ⟨c, hc, heq⟩ := Option.map_eq_some_iff.1 h
  cases heq
  exact head_toDigits hc

theorem length_digits_le {n k : Nat} (hk : 0 < k) (h : n < pow10 k) :
    (Text.digits n).length ≤ k := by
  rw [Text.digits, List.length_map]
  exact (Nat.length_toDigits_le_iff (by decide) hk).2 h

theorem digits_ne_nil (n : Nat) : Text.digits n ≠ [] :=
  fun h => Nat.toDigits_ne_nil (List.map_eq_nil_iff.1 h)

/-- The numeral of a whole number. -/
def Numeral.ofNat (negative : Bool) (n : Nat) : Numeral where
  negative := negative
  whole := Text.digits n
  fraction := []
  power := none
  whole_digital := digital_digits n
  whole_ne_nil := digits_ne_nil _
  whole_zero h := by
    rw [head_digits h]
    rfl
  fraction_digital c hc := by cases hc
  power_digital p hp := by cases hp

theorem Numeral.isWhole_ofNat (negative : Bool) (n : Nat) : (Numeral.ofNat negative n).IsWhole :=
  ⟨rfl, rfl⟩

/-- The text of an integer is the numeral of its size with its sign. -/
theorem integerText?_eq {n : Int} (h : n.natAbs < digitBound) :
    integerText? n =
      some (Text.ofList (Numeral.ofNat (decide (n < 0)) n.natAbs).chars) := by
  rw [integerText?, if_pos h]
  refine congrArg some (Text.toList_inj.1 ?_)
  unfold Numeral.chars Numeral.signChars
  by_cases hsign : n < 0
  · simp [hsign, Numeral.ofNat, Numeral.fractionChars, Numeral.powerChars]
  · simp [hsign, Numeral.ofNat, Numeral.fractionChars, Numeral.powerChars]

/-- An integer is read back from its numeral. -/
theorem readInteger_ofNat {n : Int} (h : n.natAbs < digitBound) :
    readInteger (Numeral.ofNat (decide (n < 0)) n.natAbs).chars = .ok n := by
  have hlength : (Text.digits n.natAbs).length ≤ digitLimit :=
    length_digits_le (by decide) h
  rw [Numeral.readInteger_chars (Numeral.isWhole_ofNat _ _) hlength]
  show Except.ok (if decide (n < 0) = true then -(Text.digitsValue (Text.digits n.natAbs) : Int)
    else Text.digitsValue (Text.digits n.natAbs)) = _
  rw [digitsValue_digits]
  congr 1
  by_cases hsign : n < 0
  · rw [if_pos (by simpa using hsign)]
    omega
  · rw [if_neg (by simpa using hsign)]
    omega

/-! ## Reals -/

/-- What is left of a row when the zeros at its end are taken off. -/
theorem exists_zeros (row : List CodePoint) :
    ∃ n, row = (row.reverse.dropWhile (· == .char '0')).reverse ++
      List.replicate n (.char '0') := by
  refine ⟨(row.reverse.takeWhile (· == .char '0')).length, ?_⟩
  have hzeros : row.reverse.takeWhile (· == .char '0') =
      List.replicate (row.reverse.takeWhile (· == .char '0')).length (.char '0') := by
    apply List.eq_replicate_of_mem
    intro c hc
    have hzero := List.all_eq_true.1 List.all_takeWhile c hc
    rwa [beq_iff_eq] at hzero
  have hsplit := List.takeWhile_append_dropWhile (p := (· == .char '0')) (l := row.reverse)
  have hreverse := congrArg List.reverse hsplit
  rw [List.reverse_append, List.reverse_reverse] at hreverse
  rw [hzeros, List.reverse_replicate] at hreverse
  exact hreverse.symm

/-- The significant digits of a decimal: they write the same number, and the first is not zero. -/
structure Significant (d : Digits) (row : List CodePoint) (lead : Int) : Prop where
  digital : Digital row
  head : ∃ c rest, row = c :: rest ∧ c ≠ '0'
  value : d.value = Text.digitsValue row * 10 ^ (lead + 1 - row.length)

theorem significant_spec {d : Digits} (hd : d.digits ≠ 0) :
    Significant d (significant d).1 (significant d).2 := by
  obtain ⟨zeros, hrow⟩ := exists_zeros (Text.digits d.digits)
  unfold significant
  dsimp only
  generalize hkept : ((Text.digits d.digits).reverse.dropWhile (· == .char '0')).reverse = kept
    at hrow
  have hdigital : Digital kept := by
    intro c hc
    apply digital_digits d.digits c
    rw [hrow]
    exact List.mem_append_left _ hc
  -- the zeros at the end are a power of ten
  have hvalue : d.digits = 10 ^ zeros * Text.digitsValue kept := by
    conv_lhs => rw [← digitsValue_digits d.digits, hrow]
    rw [digitsValue_append hdigital (digital_zeros zeros), digitsValue_zeros,
      List.length_replicate, Nat.add_zero]
  refine ⟨hdigital, ?_, ?_⟩
  · cases hcase : kept with
    | nil =>
      rw [hcase] at hvalue
      exact absurd hvalue (by simpa [Text.digitsValue] using hd)
    | cons c rest =>
      refine ⟨c, rest, rfl, ?_⟩
      rintro rfl
      apply hd
      -- only zero is written with a leading zero
      apply head_digits
      rw [hrow, hcase]
      rfl
  · have hlength : (Text.digits d.digits).length = kept.length + zeros := by
      rw [hrow, List.length_append, List.length_replicate]
    rw [Digits.value, hlength, hvalue]
    push_cast
    rw [show d.exponent + (kept.length + zeros : Int) - 1 + 1 - kept.length = zeros + d.exponent by
      ring, zpow_add₀ (by norm_num), zpow_natCast]
    ring

/-- A text that writes a real without its sign: with either sign it is a numeral of that value. -/
def Writes (text : List CodePoint) (v : ℚ) : Prop :=
  ∀ negative, ∃ n : Numeral, n.negative = negative ∧ ¬n.IsWhole ∧
    n.whole ++ (n.fractionChars ++ n.powerChars) = text ∧ n.value = v

/-- Digits, a point and digits. -/
theorem writes_pointed {whole fraction : List CodePoint} (hwhole : Digital whole) (hne : whole ≠ [])
    (hzero : whole.head? = some (.char '0') → whole = [.char '0']) (hfraction : Digital fraction)
    (hfne : fraction ≠ []) :
    Writes (whole ++ .char '.' :: fraction)
      (Text.digitsValue (whole ++ fraction) * 10 ^ (-fraction.length : Int)) := by
  intro negative
  refine ⟨⟨negative, whole, fraction, none, hwhole, hne, hzero, hfraction, ?_⟩, rfl, ?_, ?_, ?_⟩
  · intro p hp
    cases hp
  · exact fun h => hfne h.1
  · rw [Numeral.fractionChars, if_neg hfne]
    exact congrArg (whole ++ ·) (List.append_nil _)
  · rw [Numeral.value, Numeral.exponent, zero_sub]

section Positions

variable {row : List CodePoint} (hdigital : Digital row)
include hdigital

/-- The digits stand behind the point, after zeros that fill the places up to the first one. -/
theorem writes_behind (hne : row ≠ []) (zeros : Nat) :
    Writes (.char '0' :: .char '.' :: (List.replicate zeros (.char '0') ++ row))
      (Text.digitsValue row * 10 ^ (-(zeros + row.length : Nat) : Int)) := by
  have hfraction : Digital (List.replicate zeros (.char '0') ++ row) :=
    (digital_zeros zeros).append hdigital
  have h := writes_pointed (digital_zeros 1) (by decide) (fun _ => rfl) hfraction (by simp [hne])
  rw [digitsValue_append (digital_zeros 1) hfraction, digitsValue_append (digital_zeros zeros)
    hdigital, digitsValue_zeros, digitsValue_zeros, Nat.mul_zero, Nat.mul_zero, Nat.zero_add,
    Nat.zero_add, List.length_append, List.length_replicate] at h
  exact h

/-- The digits stand before the point, and zeros fill the places that are left. -/
theorem writes_before (hne : row ≠ []) (hhead : row.head? ≠ some (.char '0')) (zeros : Nat) :
    Writes (row ++ List.replicate zeros (.char '0') ++ [.char '.', .char '0'])
      (Text.digitsValue row * 10 ^ (zeros : Int)) := by
  have hfront : Digital (row ++ List.replicate zeros (.char '0')) :=
    hdigital.append (digital_zeros zeros)
  have hfirst : (row ++ List.replicate zeros (CodePoint.char '0')).head? = row.head? := by
    obtain ⟨c, rest, rfl⟩ := List.exists_cons_of_ne_nil hne
    rfl
  have h := writes_pointed hfront (by simp [hne]) (fun hzero => absurd (hfirst ▸ hzero) hhead)
    (digital_zeros 1) (by decide)
  rw [digitsValue_append hfront (digital_zeros 1), digitsValue_append hdigital
    (digital_zeros zeros), digitsValue_zeros, digitsValue_zeros, Nat.add_zero, Nat.add_zero,
    List.length_replicate, List.length_replicate] at h
  -- the zero behind the point takes one power of ten away again
  have hvalue : (Text.digitsValue row * 10 ^ (zeros : Int) : ℚ) =
      (10 ^ 1 * (10 ^ zeros * Text.digitsValue row) : Nat) * 10 ^ (-(1 : Nat) : Int) := by
    rw [zpow_natCast, zpow_neg, zpow_natCast]
    push_cast
    ring
  rw [hvalue]
  exact h

/-- The point stands between two digits. -/
theorem writes_between (hhead : row.head? ≠ some (.char '0')) {whole : Nat} (hpos : 0 < whole)
    (hwhole : whole < row.length) :
    Writes (row.take whole ++ .char '.' :: row.drop whole)
      (Text.digitsValue row * 10 ^ (-(row.length - whole : Nat) : Int)) := by
  have hfront : Digital (row.take whole) := fun c hc => hdigital c (List.mem_of_mem_take hc)
  have hback : Digital (row.drop whole) := fun c hc => hdigital c (List.mem_of_mem_drop hc)
  have hfrontNe : row.take whole ≠ [] :=
    List.ne_nil_of_length_pos (by rw [List.length_take]; omega)
  have hbackNe : row.drop whole ≠ [] :=
    List.ne_nil_of_length_pos (by rw [List.length_drop]; omega)
  have hfirst : (row.take whole).head? = row.head? := by
    rw [List.head?_take, if_neg (by omega)]
  have h := writes_pointed hfront hfrontNe (fun hzero => absurd (hfirst ▸ hzero) hhead) hback
    hbackNe
  rw [List.take_append_drop, List.length_drop] at h
  exact h

/-- Digits in positions keep their value. -/
theorem writes_positional (lead : Int) (hhead : ∃ c rest, row = c :: rest ∧ c ≠ '0') :
    Writes (positional row lead) (Text.digitsValue row * 10 ^ (lead + 1 - row.length)) := by
  obtain ⟨c, rest, hrow, hc⟩ := hhead
  have hne : row ≠ [] := by
    rw [hrow]
    exact List.cons_ne_nil c rest
  have hfirst : row.head? ≠ some (.char '0') := by
    rw [hrow]
    exact fun hzero => hc (Option.some.inj hzero)
  unfold positional
  by_cases hsmall : lead < 0
  · rw [if_pos hsmall]
    have h := writes_behind hdigital hne ((-lead).toNat - 1)
    rw [show lead + 1 - row.length = -(((-lead).toNat - 1 + row.length : Nat) : Int) by omega]
    exact h
  · rw [if_neg hsmall]
    dsimp only
    generalize hwhole : lead.toNat + 1 = whole
    by_cases hlong : row.length ≤ whole
    · rw [List.take_of_length_le hlong, List.drop_of_length_le hlong]
      have h := writes_before hdigital hne hfirst (whole - row.length)
      rw [show lead + 1 - row.length = ((whole - row.length : Nat) : Int) by omega]
      exact h
    · have hfront : (row.take whole).length = whole := by
        rw [List.length_take]
        omega
      have hback : row.drop whole ≠ [] :=
        List.ne_nil_of_length_pos (by rw [List.length_drop]; omega)
      rw [hfront, Nat.sub_self, List.replicate_zero, List.append_nil, if_neg (by simpa using hback)]
      have h := writes_between hdigital hfirst (show 0 < whole by omega)
        (show whole < row.length by omega)
      rw [show lead + 1 - row.length = -((row.length - whole : Nat) : Int) by omega]
      exact h

end Positions

/-- The size of an exponent, filled up to two digits. -/
theorem filled_spec {n : Nat} {size : List CodePoint}
    (hsize : (if (Text.digits n).length < 2 then .char '0' :: Text.digits n
      else Text.digits n) = size) :
    Digital size ∧ size ≠ [] ∧ Text.digitsValue size = n := by
  rw [← hsize]
  split
  · have hsplit : CodePoint.char '0' :: Text.digits n =
        List.replicate 1 (.char '0') ++ Text.digits n :=
      rfl
    rw [hsplit]
    refine ⟨(digital_zeros 1).append (digital_digits n), by simp, ?_⟩
    rw [digitsValue_append (digital_zeros 1) (digital_digits n), digitsValue_zeros,
      digitsValue_digits, Nat.mul_zero, Nat.zero_add]
  · exact ⟨digital_digits n, digits_ne_nil _, digitsValue_digits n⟩

/-- Digits with an exponent keep their value. -/
theorem writes_scientific {row : List CodePoint} (lead : Int) (hdigital : Digital row)
    (hne : row ≠ []) :
    Writes (scientific row lead) (Text.digitsValue row * 10 ^ (lead + 1 - row.length)) := by
  obtain ⟨c, rest, rfl⟩ := List.exists_cons_of_ne_nil hne
  intro negative
  unfold scientific
  dsimp only
  generalize hsize : (if (Text.digits lead.natAbs).length < 2
    then .char '0' :: Text.digits lead.natAbs else Text.digits lead.natAbs) = size
  obtain ⟨hsizeDigital, hsizeNe, hsizeValue⟩ := filled_spec hsize
  have hfirst : Digital [c] := by
    intro d hd
    rw [List.mem_singleton.1 hd]
    exact hdigital c List.mem_cons_self
  have hrest : Digital rest := fun d hd => hdigital d (List.mem_cons_of_mem c hd)
  refine ⟨⟨negative, [c], rest, some (decide (lead < 0), size), hfirst, List.cons_ne_nil c [], ?_,
    hrest, ?_⟩, rfl, ?_, ?_, ?_⟩
  · intro h
    rw [Option.some.inj h]
  · intro p hp
    cases hp
    exact ⟨hsizeNe, hsizeDigital⟩
  · rintro ⟨-, h⟩
    cases h
  · unfold Numeral.fractionChars Numeral.powerChars
    cases rest with
    | nil => simp
    | cons d rest => simp
  · rw [Numeral.value, Numeral.exponent]
    dsimp only
    rw [hsizeValue, List.length_cons, List.singleton_append]
    congr 2
    by_cases hsign : lead < 0
    · rw [if_pos (by simpa using hsign)]
      omega
    · rw [if_neg (by simpa using hsign)]
      omega

/-- The text of a finite double without its sign writes a number that is rounded to it. -/
theorem writes_magnitude {mantissa : Nat} {exponent : Int} (h : Canonical mantissa exponent) :
    ∃ v, Writes (magnitude mantissa exponent) v ∧
      (mantissa = 0 → v = 0) ∧ (0 < mantissa → Reads mantissa exponent v) := by
  unfold magnitude
  by_cases hzero : mantissa = 0
  · rw [if_pos (by simpa using hzero)]
    refine ⟨0, ?_, fun _ => rfl, fun hpos => absurd hzero hpos.ne'⟩
    have hpointed := writes_pointed (digital_zeros 1) (by decide) (fun _ => rfl) (digital_zeros 1)
      (by decide)
    rw [digitsValue_append (digital_zeros 1) (digital_zeros 1), digitsValue_zeros, Nat.mul_zero,
      Nat.cast_zero, zero_mul] at hpointed
    exact hpointed
  · rw [if_neg (by simpa using hzero)]
    have hpos : 0 < mantissa := Nat.pos_of_ne_zero hzero
    have hreads := reads_shortest h hpos
    have hdigits : (Reach.of mantissa exponent).shortest.digits ≠ 0 := by
      intro hnone
      have hvalue := hreads.pos hpos
      rw [Digits.value, hnone, Nat.cast_zero, zero_mul] at hvalue
      exact absurd hvalue (lt_irrefl 0)
    obtain ⟨hdigital, hhead, hvalue⟩ := significant_spec hdigits
    refine ⟨_, ?_, fun h => absurd h hzero, fun _ => hvalue ▸ hreads⟩
    dsimp only
    split
    · exact writes_positional hdigital _ hhead
    · obtain ⟨c, rest, hrow, -⟩ := hhead
      exact writes_scientific _ hdigital (hrow ▸ List.cons_ne_nil c rest)

/-- A finite double is written as the numeral of a real, and it is read back from it. -/
theorem exists_numeral_realText {x : Float} {negative : Bool} {mantissa : Nat} {exponent : Int}
    (h : Binary.ofFloat x = .finite negative mantissa exponent) :
    ∃ n : Numeral, ¬n.IsWhole ∧ realText x = Text.ofList n.chars ∧ readReal n.chars = x := by
  obtain ⟨hcanonical, hx⟩ := Binary.ofFloat_finite h
  obtain ⟨v, hwrites, hzero, hreads⟩ := writes_magnitude hcanonical
  obtain ⟨n, hnegative, hreal, htext, hvalue⟩ := hwrites negative
  refine ⟨n, hreal, ?_, ?_⟩
  · unfold realText
    rw [h]
    dsimp only
    rw [Numeral.chars, Numeral.signChars, hnegative, htext]
  · rw [Numeral.readReal_chars, hnegative, hx]
    congr 1
    obtain hnone | hpos := Nat.eq_zero_or_pos mantissa
    · -- zero has no digit, and its word is zero
      have hdigits : Text.digitsValue (n.whole ++ n.fraction) = 0 := by
        rw [hzero hnone, Numeral.value] at hvalue
        have hpower : (10 : ℚ) ^ (n.exponent - n.fraction.length) ≠ 0 := by positivity
        exact_mod_cast (mul_eq_zero.1 hvalue).resolve_right hpower
      rw [hdigits, hnone, hcanonical.subnormal (by omega)]
      rfl
    · have hread := hreads hpos
      rw [← hvalue] at hread
      exact nearestDecimal_eq hcanonical hpos hread

end StackShell.Decimal
