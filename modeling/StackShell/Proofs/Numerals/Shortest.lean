import StackShell.Decimal.Real
import StackShell.Proofs.Numerals.Rounding

/-!
# The shortest decimal reads back

The decimal that is chosen for a double is one of those that are rounded to it:

* `Reach.holds_iff`: the comparison in whole numbers decides `Reads`;
* `Reach.holds_shortest`: seventeen digits suffice, so the search always ends with a hit;
* `nearestDecimal_eq`: a decimal in the reach of a double is read as that double, since the early
  answers for huge exponents lie outside every reach.
-/

namespace StackShell.Decimal

/-- The number that a decimal stands for. -/
def Digits.value (d : Digits) : ℚ :=
  d.digits * 10 ^ d.exponent

theorem Digits.value_eq_div (d : Digits) :
    d.value = (d.digits * pow10 d.exponent.toNat : Nat) / (pow10 (-d.exponent).toNat : Nat) := by
  rw [Digits.value, ten_zpow, Nat.cast_mul, mul_div_assoc]

/-! ## The bounds of a reach -/

theorem Reach.den_pos (m : Nat) (e : Int) : 0 < (Reach.of m e).den :=
  pow2_pos _

/-- The unit of a reach is a quarter of the double's own. -/
theorem Reach.unit_eq (e : Int) :
    ((scaled 1 (e - 2)).1 / (scaled 1 (e - 2)).2 : ℚ) = 2 ^ e / 4 := by
  have hquarter : (2 : ℚ) ^ e = 2 ^ 2 * 2 ^ (e - 2) := two_zpow_eq e (e - 2) 2 (by omega)
  rw [hquarter, two_zpow, scaled, Nat.one_mul]
  ring

theorem Reach.middle_eq (m : Nat) (e : Int) :
    ((Reach.of m e).middle / (Reach.of m e).den : ℚ) = m * 2 ^ e := by
  have hunit := Reach.unit_eq e
  show ((4 * m * (scaled 1 (e - 2)).1 : Nat) / ((scaled 1 (e - 2)).2 : Nat) : ℚ) = m * 2 ^ e
  rw [Nat.cast_mul, mul_div_assoc, hunit]
  push_cast
  ring

theorem Reach.high_eq (m : Nat) (e : Int) :
    ((Reach.of m e).high / (Reach.of m e).den : ℚ) = (m + 1 / 2) * 2 ^ e := by
  have hunit := Reach.unit_eq e
  show (((4 * m + 2) * (scaled 1 (e - 2)).1 : Nat) / ((scaled 1 (e - 2)).2 : Nat) : ℚ) =
    (m + 1 / 2) * 2 ^ e
  rw [Nat.cast_mul, mul_div_assoc, hunit]
  push_cast
  ring

theorem Reach.low_eq {m : Nat} (hm : 0 < m) (e : Int) :
    ((Reach.of m e).low / (Reach.of m e).den : ℚ) = (m - gap m e) * 2 ^ e := by
  have hunit := Reach.unit_eq e
  have hgap : ((4 * m - (if m == pow2 52 && decide (e > -1074) then 1 else 2) : Nat) : ℚ) =
      4 * (m - gap m e) := by
    unfold gap
    by_cases h : m = 2 ^ 52 ∧ -1074 < e
    · rw [if_pos h, if_pos (by simpa [pow2] using h), Nat.cast_sub (by omega)]
      push_cast
      ring
    · rw [if_neg h, if_neg (by simpa [pow2] using h), Nat.cast_sub (by omega)]
      push_cast
      ring
  show (((4 * m - (if m == pow2 52 && decide (e > -1074) then 1 else 2)) *
    (scaled 1 (e - 2)).1 : Nat) / ((scaled 1 (e - 2)).2 : Nat) : ℚ) = (m - gap m e) * 2 ^ e
  rw [Nat.cast_mul, mul_div_assoc, hunit, hgap]
  ring

/-- Two quotients compare as their whole numbers do after clearing the denominators. -/
theorem cross_le {a b c d : Nat} (hb : 0 < b) (hd : 0 < d) :
    a * d ≤ c * b ↔ (a / b : ℚ) ≤ c / d := by
  rw [div_le_div_iff₀ (by exact_mod_cast hb) (by exact_mod_cast hd)]
  exact_mod_cast Iff.rfl

theorem cross_lt {a b c d : Nat} (hb : 0 < b) (hd : 0 < d) :
    a * d < c * b ↔ (a / b : ℚ) < c / d := by
  rw [div_lt_div_iff₀ (by exact_mod_cast hb) (by exact_mod_cast hd)]
  exact_mod_cast Iff.rfl

/-- The comparison in whole numbers decides which decimals are rounded to the double. -/
theorem Reach.holds_iff {m : Nat} (hm : 0 < m) (e : Int) (d : Digits) :
    (Reach.of m e).holds d = true ↔ Reads m e d.value := by
  have hden := Reach.den_pos m e
  have hpow := pow10_pos (-d.exponent).toNat
  have hlow := Reach.low_eq hm e
  have hhigh := Reach.high_eq m e
  have hclosed : (Reach.of m e).closed = (m % 2 == 0) := rfl
  unfold Reach.holds
  dsimp only
  rw [hclosed]
  obtain heven | hodd : m % 2 = 0 ∨ m % 2 = 1 := by omega
  · rw [if_pos (by simpa using heven), Bool.and_eq_true, decide_eq_true_eq, decide_eq_true_eq,
      cross_le hden hpow, cross_le hpow hden, hlow, hhigh, ← Digits.value_eq_div]
    exact ⟨fun h => ⟨h.1, h.2, fun hodd => absurd heven (by omega)⟩, fun h => ⟨h.low, h.high⟩⟩
  · rw [if_neg (by simp [hodd]), Bool.and_eq_true, decide_eq_true_eq, decide_eq_true_eq,
      cross_lt hden hpow, cross_lt hpow hden, hlow, hhigh, ← Digits.value_eq_div]
    exact ⟨fun h => ⟨h.1.le, h.2.le, fun _ => h⟩, fun h => h.odd hodd⟩

/-! ## The grids -/

/-- What a grid gives lies in the reach. -/
theorem Reach.holds_of_onGrid? {r : Reach} {exponent : Int} {d : Digits}
    (h : r.onGrid? exponent = some d) : r.holds d = true := by
  unfold Reach.onGrid? at h
  dsimp only at h
  split at h
  · next hbelow habove =>
    split at h <;> cases h <;> assumption
  · next hbelow habove =>
    cases h
    exact hbelow
  · next hbelow habove =>
    cases h
    exact habove
  · cases h

/-- A grid gives a decimal if one of the two around the double lies in the reach. -/
theorem Reach.isSome_onGrid? {r : Reach} {exponent : Int} {q : Nat}
    (hq : r.middle * pow10 (-exponent).toNat / (r.den * pow10 exponent.toNat) = q)
    (h : r.holds ⟨q, exponent⟩ = true ∨ r.holds ⟨q + 1, exponent⟩ = true) :
    (r.onGrid? exponent).isSome = true := by
  unfold Reach.onGrid?
  dsimp only
  rw [hq]
  split
  · rfl
  · rfl
  · rfl
  · next hbelow habove =>
    rw [hbelow, habove] at h
    simp at h

/-- The two decimals of a grid around the double. -/
theorem Reach.grid_bounds {m q : Nat} {e g : Int}
    (hq : (Reach.of m e).middle * pow10 (-g).toNat /
      ((Reach.of m e).den * pow10 g.toNat) = q) :
    (q * 10 ^ g : ℚ) ≤ m * 2 ^ e ∧ (m * 2 ^ e : ℚ) < (q + 1) * 10 ^ g := by
  have hden := Reach.den_pos m e
  have hpow := pow10_pos g.toNat
  have hpow' := pow10_pos (-g).toNat
  have hdiv : 0 < (Reach.of m e).den * pow10 g.toNat := Nat.mul_pos hden hpow
  -- the double in units of the grid, as the quotient that is rounded down
  have hquotient : (((Reach.of m e).middle * pow10 (-g).toNat : Nat) /
      ((Reach.of m e).den * pow10 g.toNat : Nat) : ℚ) = m * 2 ^ e / 10 ^ g := by
    rw [← Reach.middle_eq, ten_zpow]
    push_cast
    field_simp
  have hdiv' : (0 : ℚ) < ((Reach.of m e).den * pow10 g.toNat : Nat) := by
    exact_mod_cast hdiv
  constructor
  · rw [← le_div_iff₀ (by positivity), ← hquotient, le_div_iff₀ hdiv', ← hq]
    exact_mod_cast Nat.div_mul_le_self _ _
  · rw [← div_lt_iff₀ (by positivity), ← hquotient, div_lt_iff₀ hdiv', ← hq]
    exact_mod_cast Nat.lt_mul_of_div_lt (Nat.lt_succ_self _) hdiv

/-! ## Seventeen digits suffice -/

/-- A number has as many digits as the power of ten above it says. -/
theorem toDigits_length_bounds {n : Nat} (hn : 0 < n) :
    10 ^ ((Nat.toDigits 10 n).length - 1) ≤ n ∧ n < 10 ^ (Nat.toDigits 10 n).length := by
  have hpos : 0 < (Nat.toDigits 10 n).length := Nat.length_toDigits_pos
  refine ⟨?_, (Nat.length_toDigits_le_iff (by decide) hpos).1 le_rfl⟩
  obtain hone | hmore : (Nat.toDigits 10 n).length - 1 = 0 ∨ 0 < (Nat.toDigits 10 n).length - 1 :=
    by omega
  · rw [hone]
    exact hn
  · by_contra hlt
    have hle := (Nat.length_toDigits_le_iff (b := 10) (by decide) hmore).2 (not_le.1 hlt)
    omega

theorem two_pow_le_ten_pow {n k : Nat} (h : n ≤ 3 * k) : (2 : ℚ) ^ n ≤ 10 ^ k :=
  calc (2 : ℚ) ^ n ≤ 2 ^ (3 * k) := pow_le_pow_right₀ (by norm_num) h
    _ = (2 ^ 3) ^ k := pow_mul 2 3 k
    _ ≤ 10 ^ k := by
      gcongr
      norm_num

theorem ten_zpow_neg_le {n k : Nat} (h : n ≤ 3 * k) : (10 : ℚ) ^ (-k : Int) ≤ 2 ^ (-n : Int) := by
  rw [zpow_neg, zpow_neg, zpow_natCast, zpow_natCast]
  exact inv_anti₀ (by positivity) (two_pow_le_ten_pow h)

/-- The leading digit of a double stands for no more than the double. -/
theorem Reach.leading_le {m : Nat} {e : Int} (hm : 0 < m) (he : -1074 ≤ e) :
    (10 : ℚ) ^ (Reach.of m e).leading ≤ m * 2 ^ e := by
  unfold Reach.leading
  dsimp only
  generalize hn : (Reach.of m e).middle * pow10 400 / (Reach.of m e).den = n
  have hden : (0 : ℚ) < (Reach.of m e).den := by exact_mod_cast Reach.den_pos m e
  have hm' : (1 : ℚ) ≤ m := by exact_mod_cast hm
  have hscaled : (((Reach.of m e).middle * pow10 400 : Nat) / (Reach.of m e).den : ℚ) =
      m * 2 ^ e * 10 ^ 400 := by
    rw [← Reach.middle_eq, Nat.cast_mul, cast_pow10, mul_div_right_comm]
  have hle : (n : ℚ) ≤ m * 2 ^ e * 10 ^ 400 := by
    rw [← hscaled, le_div_iff₀ hden, ← hn]
    exact_mod_cast Nat.div_mul_le_self _ _
  -- four hundred places show a digit of the least double, too
  have hpos : 0 < n := by
    have hone : (1 : ℚ) ≤ m * 2 ^ e * 10 ^ 400 :=
      calc (1 : ℚ) = 10 ^ (-(400 : Nat) : Int) * 10 ^ 400 := by
            rw [zpow_neg, zpow_natCast, inv_mul_cancel₀ (by positivity)]
        _ ≤ 2 ^ (-(1074 : Nat) : Int) * 10 ^ 400 := by
            gcongr ?_ * _
            exact ten_zpow_neg_le (by decide)
        _ ≤ 1 * 2 ^ e * 10 ^ 400 := by
            rw [one_mul]
            gcongr ?_ * _
            exact zpow_le_zpow_right₀ (by norm_num) he
        _ ≤ m * 2 ^ e * 10 ^ 400 := by gcongr
    rw [← hn]
    apply Nat.div_pos _ (Reach.den_pos m e)
    rw [← hscaled, le_div_iff₀ hden, one_mul] at hone
    exact_mod_cast hone
  have hlength := (toDigits_length_bounds hpos).1
  have hlength' : 0 < (Nat.toDigits 10 n).length := Nat.length_toDigits_pos
  generalize (Nat.toDigits 10 n).length = k at hlength hlength'
  have hcast : ((10 : ℚ) ^ (k - 1)) ≤ n := by exact_mod_cast hlength
  have hsplit : (10 : ℚ) ^ ((k : Int) - 1 - (400 : Nat)) * 10 ^ 400 = 10 ^ (k - 1) := by
    rw [← zpow_natCast, ← zpow_natCast, ← zpow_add₀ (by norm_num)]
    congr 1
    omega
  have hten : (0 : ℚ) < 10 ^ 400 := by positivity
  refine le_of_mul_le_mul_right ?_ hten
  rw [hsplit]
  exact hcast.trans hle

theorem Reads.of_lt {m : Nat} {e : Int} {v : ℚ} (hlow : (m - gap m e) * 2 ^ e < v)
    (hhigh : v < (m + 1 / 2) * 2 ^ e) : Reads m e v :=
  ⟨hlow.le, hhigh.le, fun _ => ⟨hlow, hhigh⟩⟩

/-- On a grid as fine as the seventeenth digit, one of the two decimals around a double is in its
reach: the step is less than a unit, and at a power of two less than half a unit. -/
theorem Reads.on_fine_grid {m q : Nat} {e : Int} {step : ℚ} (hm : m < 2 ^ 53) (hstep : 0 < step)
    (hfine : step * 10 ^ 16 ≤ m * 2 ^ e) (hlow : q * step ≤ m * 2 ^ e)
    (hhigh : m * 2 ^ e < (q + 1) * step) :
    Reads m e (q * step) ∨ Reads m e ((q + 1) * step) := by
  have hunit : (0 : ℚ) < 2 ^ e := by positivity
  by_cases hpower : m = 2 ^ 52 ∧ -1074 < e
  · -- below a power of two the reach is half as wide, so the decimal above is taken
    have hgap : gap m e = 1 / 4 := if_pos hpower
    have hm' : (m : ℚ) = 2 ^ 52 := by exact_mod_cast hpower.1
    rw [hm'] at hfine hlow hhigh
    right
    apply Reads.of_lt
    · rw [hgap, hm']
      linarith
    · rw [hm']
      linarith
  · have hgap : gap m e = 1 / 2 := if_neg hpower
    have hm' : (m : ℚ) < 2 ^ 53 := by exact_mod_cast hm
    have hsmall : step < 2 ^ e := by nlinarith
    -- otherwise the nearer one of the two
    by_cases hnear : m * 2 ^ e - q * step < 2 ^ e / 2
    · left
      apply Reads.of_lt
      · rw [hgap]
        linarith
      · linarith
    · right
      apply Reads.of_lt
      · rw [hgap]
        linarith
      · linarith

/-- The search for the shortest decimal ends with one that is rounded to the double. -/
theorem Reach.holds_shortest {m : Nat} {e : Int} (hcanonical : Canonical m e) (hm : 0 < m) :
    (Reach.of m e).holds (Reach.of m e).shortest = true := by
  unfold Reach.shortest
  dsimp only
  generalize htop : (Reach.of m e).leading = top
  have hleading := Reach.leading_le hm hcanonical.exponent_ge
  rw [htop] at hleading
  -- the last grid has a hit
  have hlast : ((Reach.of m e).onGrid? (top - 16)).isSome = true := by
    obtain ⟨hlow, hhigh⟩ := Reach.grid_bounds (m := m) (e := e) (g := top - 16) rfl
    have hfine : (10 : ℚ) ^ (top - 16) * 10 ^ 16 ≤ m * 2 ^ e := by
      rw [← zpow_natCast, ← zpow_add₀ (by norm_num)]
      simpa using hleading
    apply Reach.isSome_onGrid? rfl
    rw [Reach.holds_iff hm, Reach.holds_iff hm, Digits.value, Digits.value, Nat.cast_succ]
    exact Reads.on_fine_grid hcanonical.mantissa_lt (by positivity) hfine hlow hhigh
  cases hfound : List.findSome? (Reach.of m e).onGrid?
      ((List.range enoughDigits).map fun (n : Nat) => top - (n : Int)) with
  | none =>
    have hnone := List.findSome?_eq_none_iff.1 hfound (top - 16)
      (List.mem_map.2 ⟨16, by decide, rfl⟩)
    rw [hnone] at hlast
    cases hlast
  | some d =>
    obtain ⟨exponent, -, hgrid⟩ := List.exists_of_findSome?_eq_some hfound
    exact Reach.holds_of_onGrid? hgrid

/-- The shortest decimal of a double is rounded to it. -/
theorem reads_shortest {m : Nat} {e : Int} (hcanonical : Canonical m e) (hm : 0 < m) :
    Reads m e (Reach.of m e).shortest.value :=
  (Reach.holds_iff hm e _).1 (Reach.holds_shortest hcanonical hm)

/-! ## Reading a decimal -/

/-- Every rational in the reach of a double lies between `10 ^ -400` and `10 ^ 400`. -/
theorem Reads.bounds {m : Nat} {e : Int} {v : ℚ} (hcanonical : Canonical m e) (hm : 0 < m)
    (h : Reads m e v) :
    (10 : ℚ) ^ (-(400 : Nat) : Int) ≤ v ∧ v < 10 ^ ((400 : Nat) : Int) := by
  have hm' : (1 : ℚ) ≤ m := by exact_mod_cast hm
  have hgap := gap_le m e
  constructor
  · have hunit : (2 : ℚ) ^ (-(1074 : Nat) : Int) ≤ 2 ^ e :=
      zpow_le_zpow_right₀ (by norm_num) hcanonical.exponent_ge
    have hhalf : (2 : ℚ) ^ (-(1074 : Nat) : Int) = 2 ^ 1 * 2 ^ (-(1075 : Nat) : Int) :=
      two_zpow_eq _ _ 1 (by decide)
    calc (10 : ℚ) ^ (-(400 : Nat) : Int) ≤ 2 ^ (-(1075 : Nat) : Int) := ten_zpow_neg_le (by decide)
      _ ≤ 1 / 2 * 2 ^ e := by
        rw [hhalf, pow_one] at hunit
        generalize (2 : ℚ) ^ (-(1075 : Nat) : Int) = least at hunit
        linarith
      _ ≤ (m - gap m e) * 2 ^ e := by
        gcongr
        linarith
      _ ≤ v := h.low
  · calc v < 2 ^ (e + 53) := h.lt hcanonical.mantissa_lt
      _ ≤ 2 ^ ((1024 : Nat) : Int) := by
        apply zpow_le_zpow_right₀ (by norm_num)
        have := hcanonical.exponent_le
        omega
      _ ≤ 10 ^ ((400 : Nat) : Int) := by
        rw [zpow_natCast, zpow_natCast]
        exact two_pow_le_ten_pow (by decide)

/-- A decimal in the reach of a double is read as that double. -/
theorem nearestDecimal_eq {m digits : Nat} {e exponent : Int} (hcanonical : Canonical m e)
    (hm : 0 < m) (h : Reads m e (digits * 10 ^ exponent)) :
    nearestDecimal digits exponent = Float.ofBits (Binary.bits m e).toUInt64 := by
  obtain ⟨hlow, hhigh⟩ := h.bounds hcanonical hm
  have hdigits : digits ≠ 0 := by
    rintro rfl
    simpa using h.pos hm
  obtain ⟨hfew, hmany⟩ := toDigits_length_bounds (Nat.pos_of_ne_zero hdigits)
  have hlength : 0 < (Nat.toDigits 10 digits).length := Nat.length_toDigits_pos
  unfold nearestDecimal
  rw [if_neg (by simpa using hdigits)]
  dsimp only
  generalize (Nat.toDigits 10 digits).length = k at hfew hmany hlength
  have hpow : (0 : ℚ) < 10 ^ exponent := by positivity
  -- the shortcuts for very large and very small decimals are out of reach
  rw [if_neg, if_neg]
  · have hvalue : (digits * 10 ^ exponent : ℚ) =
        (digits * pow10 exponent.toNat : Nat) / (pow10 (-exponent).toNat : Nat) := by
      rw [ten_zpow, Nat.cast_mul, mul_div_assoc]
    rw [hvalue] at h
    rw [nearest?_eq hcanonical hm (pow10_pos _).ne' h]
    rfl
  · intro hsmall
    have hmany' : (digits : ℚ) < 10 ^ k := by exact_mod_cast hmany
    have hle : (10 : ℚ) ^ ((k : Int) + exponent) ≤ 10 ^ (-(400 : Nat) : Int) := by
      apply zpow_le_zpow_right₀ (by norm_num)
      omega
    rw [zpow_add₀ (by norm_num), zpow_natCast] at hle
    have : (digits * 10 ^ exponent : ℚ) < 10 ^ k * 10 ^ exponent := by gcongr
    linarith
  · intro hlarge
    have hfew' : (10 : ℚ) ^ (k - 1) ≤ digits := by exact_mod_cast hfew
    have hle : (10 : ℚ) ^ ((400 : Nat) : Int) ≤ 10 ^ (((k - 1 : Nat) : Int) + exponent) := by
      apply zpow_le_zpow_right₀ (by norm_num)
      omega
    rw [zpow_add₀ (by norm_num), zpow_natCast 10 (k - 1)] at hle
    have : (10 : ℚ) ^ (k - 1) * 10 ^ exponent ≤ digits * 10 ^ exponent := by gcongr
    linarith

end StackShell.Decimal
