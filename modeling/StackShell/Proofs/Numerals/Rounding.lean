import StackShell.Proofs.Numerals.Doubles

/-!
# Rounding to the nearest double

Which rationals are rounded to a given double. The argument is made in three steps:

* `roundQuotient_eq`: a quotient at most half away from a whole number is rounded to it, where at
  exactly half the whole number has to be even;
* `exponentFor_bounds`: the exponent that is chosen for a quotient puts it below `2 ^ 53` units,
  and at `2 ^ 52` or above unless the exponent is the least one;
* `nearest?_eq`: a quotient that lies in the reach of a double (`Reads`) is rounded to it.
-/

namespace StackShell.Decimal

/-! ## Powers -/

theorem pow2_pos (n : Nat) : 0 < pow2 n :=
  Nat.pow_pos (by decide)

theorem pow10_pos (n : Nat) : 0 < pow10 n :=
  Nat.pow_pos (by decide)

/-- The two halves of an exponent, one of them zero, make up its power. -/
theorem zpow_eq_div (b : ℚ) (e : Int) :
    b ^ e = b ^ e.toNat / b ^ (-e).toNat := by
  obtain h | h := Int.le_total 0 e
  · rw [show (-e).toNat = 0 by omega, pow_zero, div_one, ← zpow_natCast, Int.toNat_of_nonneg h]
  · rw [show e.toNat = 0 by omega, pow_zero, one_div, ← zpow_natCast,
      Int.toNat_of_nonneg (by omega), zpow_neg, inv_inv]

theorem cast_pow2 (n : Nat) : (pow2 n : ℚ) = 2 ^ n := by
  simp [pow2]

theorem cast_pow10 (n : Nat) : (pow10 n : ℚ) = 10 ^ n := by
  simp [pow10]

theorem two_zpow (e : Int) : (2 : ℚ) ^ e = pow2 e.toNat / pow2 (-e).toNat := by
  rw [zpow_eq_div 2, cast_pow2, cast_pow2]

theorem ten_zpow (e : Int) : (10 : ℚ) ^ e = pow10 e.toNat / pow10 (-e).toNat := by
  rw [zpow_eq_div 10, cast_pow10, cast_pow10]

/-! ## Whole numbers -/

/-- A quotient at most half away from `m` is rounded to `m`; an odd `m` has to be nearer. -/
theorem roundQuotient_eq {num den m : Nat} (hden : 0 < den)
    (hlow : 2 * (m * den) ≤ 2 * num + den) (hhigh : 2 * num ≤ 2 * (m * den) + den)
    (hodd : m % 2 = 1 → 2 * (m * den) < 2 * num + den ∧ 2 * num < 2 * (m * den) + den) :
    roundQuotient num den = m := by
  have hdiv : den * (num / den) + num % den = num := Nat.div_add_mod num den
  have hmod : num % den < den := Nat.mod_lt num hden
  -- the quotient is `m` or the number before it
  have hcases : m = num / den ∨ m = num / den + 1 := by
    have hle : num / den ≤ m := by
      by_contra hlt
      have hstep : (m + 1) * den ≤ num / den * den := Nat.mul_le_mul_right den (by omega)
      have hself : num / den * den ≤ num := Nat.div_mul_le_self num den
      rw [Nat.succ_mul] at hstep
      omega
    have hge : m ≤ num / den + 1 := by
      by_contra hlt
      have hstep : (num / den + 2) * den ≤ m * den := Nat.mul_le_mul_right den (by omega)
      rw [Nat.add_mul, Nat.mul_comm (num / den)] at hstep
      omega
    omega
  unfold roundQuotient
  generalize hq : num / den = q at hdiv hcases
  generalize hr : num % den = r at hdiv hmod
  obtain rfl | rfl := hcases
  · have hcomm : den * m = m * den := Nat.mul_comm den m
    rw [if_neg]
    simp only [Bool.or_eq_true, Bool.and_eq_true, decide_eq_true_eq, beq_iff_eq]
    omega
  · have hcomm : (q + 1) * den = den * q + den := by ring
    rw [if_pos]
    simp only [Bool.or_eq_true, Bool.and_eq_true, decide_eq_true_eq, beq_iff_eq]
    omega

/-- The same over the rationals. -/
theorem roundQuotient_eq_of_near {num den m : Nat} (hden : 0 < den)
    (hlow : (m : ℚ) - 1 / 2 ≤ num / den) (hhigh : (num / den : ℚ) ≤ m + 1 / 2)
    (hodd : m % 2 = 1 → (m : ℚ) - 1 / 2 < num / den ∧ (num / den : ℚ) < m + 1 / 2) :
    roundQuotient num den = m := by
  have hpos : (0 : ℚ) < den := by exact_mod_cast hden
  apply roundQuotient_eq hden
  · rw [le_div_iff₀ hpos] at hlow
    have h : (2 * (m * den) : ℚ) ≤ 2 * num + den := by linarith
    exact_mod_cast h
  · rw [div_le_iff₀ hpos] at hhigh
    have h : (2 * num : ℚ) ≤ 2 * (m * den) + den := by linarith
    exact_mod_cast h
  · intro hm
    obtain ⟨hlt, hgt⟩ := hodd hm
    rw [lt_div_iff₀ hpos] at hlt
    rw [div_lt_iff₀ hpos] at hgt
    constructor
    · have h : (2 * (m * den) : ℚ) < 2 * num + den := by linarith
      exact_mod_cast h
    · have h : (2 * num : ℚ) < 2 * (m * den) + den := by linarith
      exact_mod_cast h

/-! ## The exponent of a quotient -/

/-- A quotient counted in units of `2 ^ e`, as it is taken apart into whole numbers. -/
theorem cast_scaled_quotient (num den : Nat) (e : Int) :
    ((num * pow2 (-e).toNat : Nat) / (den * pow2 e.toNat : Nat) : ℚ) = num / den / 2 ^ e := by
  have h := pow2_pos e.toNat
  have h' := pow2_pos (-e).toNat
  rw [two_zpow]
  push_cast
  field_simp

theorem two_zpow_log2_le {n : Nat} (hn : n ≠ 0) : (2 : ℚ) ^ (n.log2 : Int) ≤ n := by
  rw [zpow_natCast]
  exact_mod_cast Nat.log2_self_le hn

theorem lt_two_zpow_log2_succ (n : Nat) : (n : ℚ) < 2 ^ ((n.log2 : Int) + 1) := by
  rw [← Nat.cast_succ, zpow_natCast]
  exact_mod_cast Nat.lt_log2_self

/-- The logarithms of two numbers bound their quotient from both sides. -/
theorem log2_bounds {num den : Nat} (hnum : num ≠ 0) (hden : den ≠ 0) :
    (2 : ℚ) ^ ((num.log2 : Int) - den.log2 - 1) < num / den ∧
      (num / den : ℚ) < 2 ^ ((num.log2 : Int) - den.log2 + 1) := by
  have hdenLow := two_zpow_log2_le hden
  have hdenHigh := lt_two_zpow_log2_succ den
  have hden' : (0 : ℚ) < den := by exact_mod_cast Nat.pos_of_ne_zero hden
  constructor
  · rw [lt_div_iff₀ hden']
    calc (2 : ℚ) ^ ((num.log2 : Int) - den.log2 - 1) * den
        < 2 ^ ((num.log2 : Int) - den.log2 - 1) * 2 ^ ((den.log2 : Int) + 1) := by gcongr
      _ = 2 ^ (num.log2 : Int) := by
        rw [← zpow_add₀ (by norm_num)]
        congr 1
        omega
      _ ≤ num := two_zpow_log2_le hnum
  · rw [div_lt_iff₀ hden']
    calc (num : ℚ) < 2 ^ ((num.log2 : Int) + 1) := lt_two_zpow_log2_succ num
      _ = 2 ^ ((num.log2 : Int) - den.log2 + 1) * 2 ^ (den.log2 : Int) := by
        rw [← zpow_add₀ (by norm_num)]
        congr 1
        omega
      _ ≤ 2 ^ ((num.log2 : Int) - den.log2 + 1) * den := by gcongr

/-- What makes an exponent the right one for `v`: counted in its units `v` is below `2 ^ 53`, and
not below `2 ^ 52` unless there is no smaller exponent. -/
structure Fits (v : ℚ) (e : Int) : Prop where
  least : -1074 ≤ e
  below : v < 2 ^ (e + 53)
  above : -1074 < e → 2 ^ (e + 52) ≤ v

/-- There is one such exponent. -/
theorem Fits.unique {v : ℚ} {e f : Int} (he : Fits v e) (hf : Fits v f) : e = f := by
  have key : ∀ {e f : Int}, Fits v e → Fits v f → ¬e < f := by
    intro e f he hf hlt
    have hle : (2 : ℚ) ^ (e + 53) ≤ 2 ^ (f + 52) := by
      apply zpow_le_zpow_right₀ (by norm_num)
      omega
    have hleast := he.least
    have h := hf.above (by omega)
    exact absurd (lt_of_lt_of_le he.below hle) (not_lt.2 h)
  exact le_antisymm (not_lt.1 (key hf he)) (not_lt.1 (key he hf))

/-- The exponent that is chosen for a quotient is the right one. -/
theorem exponentFor_fits {num den : Nat} (hnum : num ≠ 0) (hden : den ≠ 0) :
    Fits (num / den) (exponentFor num den) := by
  obtain ⟨hlow, hhigh⟩ := log2_bounds hnum hden
  have hden' : 0 < den := Nat.pos_of_ne_zero hden
  unfold exponentFor
  dsimp only
  generalize hguess : max ((num.log2 : Int) - den.log2 - 53) (-1074) = guess
  -- the test on whole numbers is the test on the quotient
  have htest : num * pow2 (-guess).toNat / (den * pow2 guess.toNat) ≥ pow2 53 ↔
      (2 : ℚ) ^ (guess + 53) ≤ num / den := by
    have hpos : 0 < den * pow2 guess.toNat := Nat.mul_pos hden' (pow2_pos _)
    rw [ge_iff_le, Nat.le_div_iff_mul_le hpos, ← Nat.cast_le (α := ℚ), Nat.cast_mul,
      ← le_div_iff₀ (by exact_mod_cast hpos), cast_scaled_quotient, le_div_iff₀ (by positivity),
      cast_pow2, ← zpow_natCast, ← zpow_add₀ (by norm_num)]
    rw [show ((53 : Nat) : Int) + guess = guess + 53 by omega]
  split
  · next hbig =>
    have hbig' := htest.1 hbig
    -- only a guess above the least one can be too small
    have hguess' : guess = (num.log2 : Int) - den.log2 - 53 := by
      by_contra hne
      have hle : (2 : ℚ) ^ ((num.log2 : Int) - den.log2 + 1) ≤ 2 ^ (guess + 53) := by
        apply zpow_le_zpow_right₀ (by norm_num)
        omega
      exact absurd (lt_of_lt_of_le hhigh hle) (not_lt.2 hbig')
    refine ⟨by omega, ?_, fun _ => ?_⟩
    · rw [show guess + 1 + 53 = (num.log2 : Int) - den.log2 + 1 by omega]
      exact hhigh
    · rw [show guess + 1 + 52 = guess + 53 by omega]
      exact hbig'
  · next hsmall =>
    refine ⟨by omega, lt_of_not_ge fun h => hsmall (htest.2 h), fun habove => ?_⟩
    rw [show guess + 52 = (num.log2 : Int) - den.log2 - 1 by omega]
    exact hlow.le

/-! ## The rationals around a double -/

/-- How far below the double `m · 2 ^ e` its reach goes, in its own units: half a unit, and at a
power of two a quarter. -/
def gap (m : Nat) (e : Int) : ℚ :=
  if m = 2 ^ 52 ∧ -1074 < e then 1 / 4 else 1 / 2

/-- The rationals that are rounded to `m · 2 ^ e`. The bounds themselves belong to the double with
the even mantissa. -/
structure Reads (m : Nat) (e : Int) (v : ℚ) : Prop where
  low : (m - gap m e) * 2 ^ e ≤ v
  high : v ≤ (m + 1 / 2) * 2 ^ e
  odd : m % 2 = 1 → (m - gap m e) * 2 ^ e < v ∧ v < (m + 1 / 2) * 2 ^ e

theorem gap_le (m : Nat) (e : Int) : gap m e ≤ 1 / 2 := by
  unfold gap
  split <;> norm_num

/-- The step from units of `2 ^ e` to units of `2 ^ f`. -/
theorem two_zpow_eq (e f : Int) (n : Nat) (h : e = f + n) : (2 : ℚ) ^ e = 2 ^ n * 2 ^ f := by
  rw [h, zpow_add₀ (by norm_num), zpow_natCast, mul_comm]

/-- A quotient that has the exponent `e` and lies within half a unit of `m` gives the word of
`m · 2 ^ e`. -/
theorem nearest?_of_fits {num den m : Nat} {e : Int} (hnum : num ≠ 0) (hden : den ≠ 0)
    (hfits : Fits (num / den) e) (hlow : ((m : ℚ) - 1 / 2) * 2 ^ e ≤ num / den)
    (hhigh : (num / den : ℚ) ≤ (m + 1 / 2) * 2 ^ e)
    (hodd : m % 2 = 1 → ((m : ℚ) - 1 / 2) * 2 ^ e < num / den ∧
      (num / den : ℚ) < (m + 1 / 2) * 2 ^ e) :
    nearest? num den =
      let (m, e) := if m == pow2 53 then (pow2 52, e + 1) else (m, e)
      if e > 971 then none else some (Float.ofBits (Binary.bits m e).toUInt64) := by
  have hpos : (0 : ℚ) < 2 ^ e := by positivity
  have hround : roundQuotient (num * pow2 (-e).toNat) (den * pow2 e.toNat) = m := by
    apply roundQuotient_eq_of_near (Nat.mul_pos (Nat.pos_of_ne_zero hden) (pow2_pos _))
    · rw [cast_scaled_quotient, le_div_iff₀ hpos]
      exact hlow
    · rw [cast_scaled_quotient, div_le_iff₀ hpos]
      exact hhigh
    · rw [cast_scaled_quotient, lt_div_iff₀ hpos, div_lt_iff₀ hpos]
      exact hodd
  have hexponent : exponentFor num den = e := (exponentFor_fits hnum hden).unique hfits
  unfold nearest?
  rw [if_neg (by simpa using hnum), hexponent]
  dsimp only
  rw [hround]
  rfl

/-- The reach of a double ends before the first number with a greater exponent: the greatest
mantissa is odd. -/
theorem Reads.lt {m : Nat} {e : Int} {v : ℚ} (h : Reads m e v) (hm : m < 2 ^ 53) :
    v < 2 ^ (e + 53) := by
  rw [two_zpow_eq (e + 53) e 53 rfl]
  obtain hlast | hlast : m + 1 = 2 ^ 53 ∨ m + 1 < 2 ^ 53 := by omega
  · have hlast' : (m : ℚ) + 1 = 2 ^ 53 := by exact_mod_cast hlast
    have hhigh : ((m : ℚ) + 1 / 2) * 2 ^ e ≤ 2 ^ 53 * 2 ^ e := by
      gcongr
      linarith
    exact lt_of_lt_of_le (h.odd (by omega)).2 hhigh
  · have hlast' : (m : ℚ) + 1 < 2 ^ 53 := by exact_mod_cast hlast
    have hhigh : ((m : ℚ) + 1 / 2) * 2 ^ e < 2 ^ 53 * 2 ^ e := by
      gcongr
      linarith
    exact lt_of_le_of_lt h.high hhigh

theorem Reads.pos {m : Nat} {e : Int} {v : ℚ} (h : Reads m e v) (hm : 0 < m) : 0 < v := by
  have hm' : (1 : ℚ) ≤ m := by exact_mod_cast hm
  have hgap := gap_le m e
  have hlow : (0 : ℚ) < (m - gap m e) * 2 ^ e := mul_pos (by linarith) (by positivity)
  exact lt_of_lt_of_le hlow h.low

/-- Only a power of two reads rationals below it that are finer by one exponent. -/
theorem Reads.mantissa_of_lt {m : Nat} {e : Int} {v : ℚ} (hcanonical : Canonical m e)
    (h : Reads m e v) (habove : -1074 < e) (hbelow : v < 2 ^ 52 * 2 ^ e) : m = 2 ^ 52 := by
  by_contra hne
  have hlarge : 2 ^ 52 + 1 ≤ m := by
    by_contra hlt
    exact absurd (hcanonical.subnormal (by omega)) (by omega)
  have hlarge' : (2 : ℚ) ^ 52 + 1 ≤ m := by exact_mod_cast hlarge
  have hgap := gap_le m e
  have hlow : (2 : ℚ) ^ 52 * 2 ^ e ≤ (m - gap m e) * 2 ^ e := by
    gcongr
    linarith
  exact absurd hbelow (not_lt.2 (hlow.trans h.low))

/-- Just below a power of two a quotient is rounded up to it. -/
theorem nearest?_below_power {num den : Nat} {e : Int} (hnum : num ≠ 0) (hden : den ≠ 0)
    (habove : -1074 < e) (hle : e ≤ 971) (h : Reads (2 ^ 52) e (num / den))
    (hbelow : (num / den : ℚ) < 2 ^ 52 * 2 ^ e) :
    nearest? num den = some (Float.ofBits (Binary.bits (2 ^ 52) e).toUInt64) := by
  have hlow := h.low
  have hpos : (0 : ℚ) < 2 ^ (e - 1) := by positivity
  have hpred : (2 : ℚ) ^ e = 2 * 2 ^ (e - 1) := by
    rw [two_zpow_eq e (e - 1) 1 (by omega), pow_one]
  rw [gap, if_pos ⟨rfl, habove⟩, hpred] at hlow
  push_cast at hlow
  rw [hpred] at hbelow
  have hfits : Fits (num / den) (e - 1) := by
    refine ⟨by omega, ?_, fun _ => ?_⟩
    · rw [two_zpow_eq (e - 1 + 53) (e - 1) 53 rfl]
      linarith
    · rw [two_zpow_eq (e - 1 + 52) (e - 1) 52 rfl]
      linarith
  rw [nearest?_of_fits (m := 2 ^ 53) hnum hden hfits (by push_cast; linarith)
    (by push_cast; linarith) (fun hodd => absurd hodd (by decide))]
  rw [if_pos (by rfl), Int.sub_add_cancel]
  exact if_neg (by omega)

/-- A quotient in the reach of a double is rounded to it. -/
theorem nearest?_eq {num den m : Nat} {e : Int} (hcanonical : Canonical m e) (hm : 0 < m)
    (hden : den ≠ 0) (h : Reads m e (num / den)) :
    nearest? num den = some (Float.ofBits (Binary.bits m e).toUInt64) := by
  have hnum : num ≠ 0 := by
    rintro rfl
    simpa using h.pos hm
  by_cases hfits : -1074 < e → (2 : ℚ) ^ (e + 52) ≤ num / den
  · have hnarrow : ((m : ℚ) - 1 / 2) * 2 ^ e ≤ (m - gap m e) * 2 ^ e := by
      gcongr
      exact gap_le m e
    rw [nearest?_of_fits hnum hden ⟨hcanonical.exponent_ge, h.lt hcanonical.mantissa_lt, hfits⟩
      (hnarrow.trans h.low) h.high
      fun hodd => ⟨lt_of_le_of_lt hnarrow (h.odd hodd).1, (h.odd hodd).2⟩]
    have hmantissa := hcanonical.mantissa_lt
    have hexponent := hcanonical.exponent_le
    rw [if_neg (by simp [pow2]; omega)]
    exact if_neg (by omega)
  · obtain ⟨habove, hbelow⟩ := Classical.not_imp.1 hfits
    rw [not_le, two_zpow_eq (e + 52) e 52 rfl] at hbelow
    obtain rfl := h.mantissa_of_lt hcanonical habove hbelow
    exact nearest?_below_power hnum hden habove hcanonical.exponent_le h hbelow

end StackShell.Decimal
