import Mathlib
import StackShell.Decimal.Binary

/-!
# Doubles and their words

A double is stored as a word of 64 bits: a sign, eleven bits of exponent and 52 of mantissa. What
the rest of the theory needs of the words is here:

* `ofBits_toBits`: the word of a double gives the double back;
* `neg_ofBits`: turning the sign of a double sets the highest bit of its word;
* `Binary.ofFloat_finite`, `Binary.ofFloat_infinite`, `Binary.ofFloat_nan`: the parts a double is
  taken into are `Canonical`, and they give the double back.
-/

namespace StackShell.Decimal

open Float.Model Float.Model.UnpackedFloat

/-- The word of a double. -/
abbrev Word := BitVec Format.binary64.numBits

/-! ## The fields of a word -/

theorem unpackSign_toNat (b : Word) : (unpackSign b).toNat = b.toNat / 2 ^ 63 % 2 := by
  simp only [unpackSign, BitVec.toNat_cast, BitVec.extractLsb_toNat, Nat.shiftRight_eq_div_pow]

theorem unpackExponent_toNat (b : Word) :
    (unpackExponent b).toNat = b.toNat / 2 ^ 52 % 2 ^ 11 := by
  simp only [unpackExponent, BitVec.toNat_cast, BitVec.extractLsb_toNat, Nat.shiftRight_eq_div_pow]

theorem unpackMantissa_toNat (b : Word) : (unpackMantissa b).toNat = b.toNat % 2 ^ 52 := by
  simp only [unpackMantissa, BitVec.toNat_cast, BitVec.extractLsb_toNat, Nat.shiftRight_eq_div_pow]
  rw [Nat.pow_zero, Nat.div_one]

/-- A sign bit is the bit of its sign. -/
theorem toBitVec_ofBitVec (s : BitVec 1) : (Sign.ofBitVec s).toBitVec = s := by
  revert s
  decide

/-- The fields of a word, put side by side, are the word. -/
theorem packComponents_unpack (b : Word) :
    packComponents Format.binary64 (Sign.ofBitVec (unpackSign b)) (unpackExponent b)
      (unpackMantissa b) = b := by
  have hlt : b.toNat < 2 ^ 64 := b.isLt
  unfold packComponents
  rw [toBitVec_ofBitVec]
  apply BitVec.eq_of_toNat_eq
  simp only [BitVec.toNat_append, unpackSign, unpackExponent, unpackMantissa, BitVec.toNat_cast,
    BitVec.extractLsb_toNat]
  rw [← Nat.shiftLeft_add_eq_or_of_lt, ← Nat.shiftLeft_add_eq_or_of_lt]
  · simp only [Nat.shiftLeft_eq, Nat.shiftRight_eq_div_pow]
    omega
  · simp; omega
  · simp; omega

/-! ## Packing and unpacking -/

/-- A double with another sign. -/
def withSign (turn : Sign → Sign) : UnpackedFloat → UnpackedFloat
  | .notANumber => .notANumber
  | .infinity s => .infinity (turn s)
  | .zero s => .zero (turn s)
  | .finite s m e h => .finite (turn s) m e h

/-- The word of a number, an infinity included: with the highest exponent there is no mantissa. -/
def Numeric (b : Word) : Prop :=
  unpackExponent b = -1#_ → unpackMantissa b = 0#_

theorem Numeric.valid {b : Word} (hb : Numeric b) : Format.binary64.Valid b :=
  ⟨fun hexponent hmantissa => absurd (hb hexponent) hmantissa⟩

/-- The words up to that of an infinity, whatever their sign. -/
theorem numeric_of_le {b : Word} (hb : b.toNat % 2 ^ 63 ≤ 2047 * 2 ^ 52) : Numeric b := by
  intro h
  have hnat := congrArg BitVec.toNat h
  rw [unpackExponent_toNat] at hnat
  have hones : (-BitVec.ofNat Format.binary64.exponentBits 1).toNat = 2047 := by decide
  apply BitVec.eq_of_toNat_eq
  rw [unpackMantissa_toNat, BitVec.toNat_ofNat, Nat.zero_mod]
  omega

section Pack

variable (s : Sign) (m : BitVec Format.binary64.mantissaBitsWithoutImplicit)

/-- A subnormal number has fewer bits than a mantissa, so its exponent field stays zero. -/
theorem pack_subnormal {e : Int} (hm : 0 < m.toNat)
    (he : (e + Format.binary64.exponentBias + Format.binary64.mantissaBitsWithoutImplicit).toNat + 1
      < 2 ^ Format.binary64.exponentBits) :
    pack Format.binary64 (.finite s m.toNat e hm) = packComponents Format.binary64 s 0#_ m := by
  have hlog : m.toNat.log2 < 52 := (Nat.log2_lt hm.ne').2 m.isLt
  simp only [UnpackedFloat.pack]
  rw [if_neg (Nat.not_le.2 he), if_neg]
  · rw [BitVec.ofNat_toNat, BitVec.setWidth_eq]
  · simp only [Format.mantissaBits]
    omega

/-- A normal number has a leading bit, which is dropped on packing. -/
theorem pack_normal (e : BitVec Format.binary64.exponentBits) (he : e.toNat < 2047)
    (hm : 0 < (1#1 ++ m).toNat) :
    pack Format.binary64 (.finite s (1#1 ++ m).toNat
      (e.toNat - ((Format.binary64.exponentBias : Int) +
        Format.binary64.mantissaBitsWithoutImplicit)) hm) =
      packComponents Format.binary64 s e m := by
  have hlt : m.toNat < 2 ^ 52 := m.isLt
  have hnat : (1#1 ++ m).toNat = 2 ^ 52 + m.toNat := by
    rw [BitVec.toNat_append, ← Nat.shiftLeft_add_eq_or_of_lt hlt]
    rfl
  have hlog : (1#1 ++ m).toNat.log2 = 52 := by
    rw [hnat, Nat.log2_eq_iff (by omega)]
    omega
  have hbiased : (e.toNat - ((Format.binary64.exponentBias : Int) +
      Format.binary64.mantissaBitsWithoutImplicit) + Format.binary64.exponentBias +
        Format.binary64.mantissaBitsWithoutImplicit : Int).toNat = e.toNat := by
    omega
  simp only [UnpackedFloat.pack]
  rw [hbiased, if_neg, if_pos]
  · rw [hnat, BitVec.ofNat_toNat, BitVec.setWidth_eq]
    congr 1
    apply BitVec.eq_of_toNat_eq
    simp
    omega
  · rw [hlog]
    rfl
  · omega

end Pack

/-- Turning the sign of a number turns the sign field of its word and leaves the others. -/
theorem pack_withSign_unpack (turn : Sign → Sign) {b : Word} (hb : Numeric b) :
    pack Format.binary64 (withSign turn (unpack Format.binary64 b)) =
      packComponents Format.binary64 (turn (Sign.ofBitVec (unpackSign b))) (unpackExponent b)
        (unpackMantissa b) := by
  unfold UnpackedFloat.unpack
  simp only
  by_cases hexp : unpackExponent b = -1#_
  · rw [if_pos hexp, if_pos (hb hexp), hexp, hb hexp]
    rfl
  · rw [if_neg hexp]
    by_cases hzero : unpackExponent b = 0#_
    · rw [if_pos hzero]
      by_cases hm : unpackMantissa b = 0#_
      · rw [dif_pos hm, hzero, hm]
        rfl
      · rw [dif_neg hm, withSign, pack_subnormal _ _ _ (by rw [hzero]; decide), hzero]
    · have hexp' : (unpackExponent b).toNat < 2047 := by
        have hbound : (unpackExponent b).toNat < 2 ^ 11 := (unpackExponent b).isLt
        have hne : (unpackExponent b).toNat ≠ 2047 := by
          intro h
          exact hexp (BitVec.eq_of_toNat_eq h)
        omega
      rw [if_neg hzero, withSign]
      exact pack_normal _ _ _ hexp' _

theorem withSign_id (f : UnpackedFloat) : withSign id f = f := by
  cases f <;> rfl

theorem neg_eq_withSign (f : UnpackedFloat) : f.neg = withSign Neg.neg f := by
  cases f <;> rfl

/-- Packing undoes unpacking on every word of a double. -/
theorem pack_unpack {b : Word} (hb : Format.binary64.Valid b) :
    UnpackedFloat.pack Format.binary64 (UnpackedFloat.unpack Format.binary64 b) = b := by
  by_cases hnumeric : Numeric b
  · have h := pack_withSign_unpack id hnumeric
    rw [withSign_id, id, packComponents_unpack] at h
    exact h
  · obtain ⟨hexponent, hmantissa⟩ := Classical.not_imp.1 hnumeric
    rw [hb.eq_packedNaN hexponent hmantissa]
    decide

/-- The word of a double gives the double back. -/
theorem ofBits_toBits (x : Float) : Float.ofBits x.toBits = x := by
  obtain ⟨⟨bits, hvalid⟩⟩ := x
  have h := pack_unpack hvalid
  simp only [Float.ofBits, Float.Model.ofBits, Float.toBits, Float.Model.pack]
  congr 2
  rw [h]

/-! ## Signs -/

/-- Turning the sign of a word that is not negative sets its highest bit. -/
theorem pack_neg_unpack {b c : Word} (hb : b.toNat ≤ 2047 * 2 ^ 52)
    (hc : c.toNat = b.toNat + 2 ^ 63) :
    UnpackedFloat.pack Format.binary64 (UnpackedFloat.unpack Format.binary64 b).neg = c := by
  have hpositive : unpackSign b = 0#1 := by
    apply BitVec.eq_of_toNat_eq
    rw [unpackSign_toNat, BitVec.toNat_ofNat]
    omega
  have hnegative : unpackSign c = 1#1 := by
    apply BitVec.eq_of_toNat_eq
    rw [unpackSign_toNat, BitVec.toNat_ofNat]
    omega
  have hexponent : unpackExponent b = unpackExponent c := by
    apply BitVec.eq_of_toNat_eq
    rw [unpackExponent_toNat, unpackExponent_toNat]
    omega
  have hmantissa : unpackMantissa b = unpackMantissa c := by
    apply BitVec.eq_of_toNat_eq
    rw [unpackMantissa_toNat, unpackMantissa_toNat]
    omega
  rw [neg_eq_withSign, pack_withSign_unpack _ (numeric_of_le (by omega)), hpositive, hexponent,
    hmantissa]
  conv_rhs => rw [← packComponents_unpack c, hnegative]
  rfl

/-- Turning the sign of a double that is not negative sets the highest bit of its word. -/
theorem neg_ofBits {w v : UInt64} (hw : w.toNat ≤ 2047 * 2 ^ 52)
    (hv : v.toNat = w.toNat + 2 ^ 63) : -Float.ofBits w = Float.ofBits v := by
  have hw' : w.toBitVec.toNat ≤ 2047 * 2 ^ 52 := hw
  have hv' : v.toBitVec.toNat = w.toBitVec.toNat + 2 ^ 63 := hv
  have hpack := pack_unpack (b := w.toBitVec) (numeric_of_le (by omega)).valid
  have hpack' := pack_unpack (b := v.toBitVec) (numeric_of_le (by omega)).valid
  have hturned := pack_neg_unpack hw' hv'
  show Float.ofModel (Float.Model.pack (UnpackedFloat.unpack Format.binary64
    (UnpackedFloat.pack Format.binary64 (UnpackedFloat.unpack Format.binary64 w.toBitVec))).neg) =
      Float.ofModel (Float.Model.pack (UnpackedFloat.unpack Format.binary64 v.toBitVec))
  rw [hpack]
  simp only [Float.Model.pack]
  congr 3
  rw [hturned, hpack']

/-- A number is made of its sign and the lower bits of its word. -/
theorem eq_ofBits_of_parts (x : Float) {n : Nat} (hn : n = x.toBits.toNat % 2 ^ 63)
    (hle : n ≤ 2047 * 2 ^ 52) :
    x = if x.toBits.toNat / 2 ^ 63 == 1 then -Float.ofBits n.toUInt64
      else Float.ofBits n.toUInt64 := by
  have hlt : x.toBits.toNat < 2 ^ 64 := x.toBits.toNat_lt
  have hnat : n.toUInt64.toNat = n := by
    rw [Nat.toUInt64_eq, UInt64.toNat_ofNat']
    omega
  by_cases hsign : x.toBits.toNat / 2 ^ 63 = 1
  · have hturned : -Float.ofBits n.toUInt64 = Float.ofBits x.toBits :=
      neg_ofBits (by omega) (by omega)
    rw [hsign, hturned, ofBits_toBits]
    rfl
  · have hsame : n.toUInt64 = x.toBits := by
      apply UInt64.toNat_inj.1
      omega
    rw [hsame, ofBits_toBits, if_neg]
    rw [beq_iff_eq]
    exact hsign

/-! ## The parts of a double -/

/-- The mantissas and exponents that doubles are taken into: below `2 ^ 52` a mantissa stands with
the least exponent. -/
structure Canonical (mantissa : Nat) (exponent : Int) : Prop where
  mantissa_lt : mantissa < 2 ^ 53
  exponent_ge : -1074 ≤ exponent
  exponent_le : exponent ≤ 971
  subnormal : mantissa < 2 ^ 52 → exponent = -1074

/-- The word of the double `mantissa · 2 ^ exponent`. -/
def Binary.bits (mantissa : Nat) (exponent : Int) : Nat :=
  if mantissa < pow2 52 then mantissa
  else (exponent + 1075).toNat * pow2 52 + (mantissa - pow2 52)

/-- A double with a sign. -/
def signed (negative : Bool) (x : Float) : Float :=
  if negative then -x else x

/-- The finite doubles are those of canonical parts. -/
theorem Binary.ofFloat_finite {x : Float} {negative : Bool} {mantissa : Nat} {exponent : Int}
    (h : Binary.ofFloat x = .finite negative mantissa exponent) :
    Canonical mantissa exponent ∧
      x = signed negative (Float.ofBits (bits mantissa exponent).toUInt64) := by
  have h52 : pow2 52 = 2 ^ 52 := rfl
  have h11 : pow2 11 = 2 ^ 11 := rfl
  have hfraction : x.toBits.toNat % pow2 52 < pow2 52 := Nat.mod_lt _ (by decide)
  unfold Binary.ofFloat at h
  dsimp only at h
  split at h
  · next hsubnormal =>
    rw [beq_iff_eq, h52, h11] at hsubnormal
    cases h
    -- the fields of a subnormal number: its exponent is zero
    have hbits : bits (x.toBits.toNat % pow2 52) (-1074) = x.toBits.toNat % 2 ^ 63 := by
      rw [bits, if_pos hfraction, h52]
      omega
    rw [h52] at hfraction
    refine ⟨⟨?_, by omega, by omega, fun _ => rfl⟩, ?_⟩
    · rw [h52]
      omega
    · rw [hbits]
      exact eq_ofBits_of_parts x rfl (by omega)
  · next hnormal =>
    rw [beq_iff_eq, h52, h11] at hnormal
    split at h
    · split at h <;> cases h
    · next hfinite =>
      rw [beq_iff_eq, h52, h11] at hfinite
      cases h
      -- those of a normal number, with the leading bit put back
      have hbits : bits (x.toBits.toNat % pow2 52 + pow2 52)
          ((x.toBits.toNat / pow2 52 % pow2 11 : Nat) - 1075) = x.toBits.toNat % 2 ^ 63 := by
        rw [bits, if_neg (by omega), h52, h11]
        omega
      rw [h52] at hfraction
      refine ⟨⟨?_, ?_, ?_, ?_⟩, ?_⟩
      · rw [h52]
        omega
      · rw [h52, h11]
        omega
      · rw [h52, h11]
        omega
      · rw [h52]
        omega
      · rw [hbits]
        exact eq_ofBits_of_parts x rfl (by omega)

/-- There are two infinite doubles. -/
theorem Binary.ofFloat_infinite {x : Float} {negative : Bool}
    (h : Binary.ofFloat x = .infinite negative) : x = signed negative infinity := by
  have h52 : pow2 52 = 2 ^ 52 := rfl
  have h11 : pow2 11 = 2 ^ 11 := rfl
  unfold Binary.ofFloat at h
  dsimp only at h
  split at h
  · cases h
  · split at h
    · next hhighest =>
      rw [beq_iff_eq, h52, h11] at hhighest
      split at h
      · next hfraction =>
        rw [beq_iff_eq, h52] at hfraction
        cases h
        exact eq_ofBits_of_parts x (n := 0x7ff0000000000000) (by omega) (by omega)
      · cases h
    · cases h

/-- The one word with the highest exponent and a mantissa that is the word of a double. -/
theorem eq_packedNaN {b : Word} (hb : Format.binary64.Valid b)
    (hhighest : b.toNat / 2 ^ 52 % 2 ^ 11 = 2047) (hfraction : ¬b.toNat % 2 ^ 52 = 0) :
    b = packedNaN Format.binary64 := by
  apply hb.eq_packedNaN
  · apply BitVec.eq_of_toNat_eq
    rw [unpackExponent_toNat]
    exact hhighest
  · intro h
    have hnat := congrArg BitVec.toNat h
    rw [unpackMantissa_toNat] at hnat
    exact hfraction hnat

/-- There is one double that is no number. -/
theorem Binary.ofFloat_nan {x : Float} (h : Binary.ofFloat x = .nan) : x = notANumber := by
  have h52 : pow2 52 = 2 ^ 52 := rfl
  have h11 : pow2 11 = 2 ^ 11 := rfl
  unfold Binary.ofFloat at h
  dsimp only at h
  split at h
  · cases h
  · split at h
    · next hhighest =>
      rw [beq_iff_eq, h52, h11] at hhighest
      split at h
      · cases h
      · next hfraction =>
        rw [beq_iff_eq, h52] at hfraction
        obtain ⟨⟨⟨word⟩, hvalid⟩⟩ := x
        have hword : word = packedNaN Format.binary64 :=
          eq_packedNaN hvalid hhighest hfraction
        subst hword
        rfl
    · cases h

end StackShell.Decimal
