/-!
# Code points

Texts are rows of code points. A code point is a character or a surrogate that stands alone: an
escape can write one, but no encoding has a place for it.
-/

namespace StackShell

/-- A character, or a surrogate that is no part of one. -/
inductive CodePoint where
  | char (c : Char)
  /-- The surrogate that lies so far behind U+D800. -/
  | lone (offset : Fin 0x800)
deriving DecidableEq

namespace CodePoint

instance : Coe Char CodePoint := ⟨char⟩

/-- The number of a code point. -/
def toNat : CodePoint → Nat
  | char c => c.toNat
  | lone offset => 0xd800 + offset

/-- The code point of a number that has one. -/
def ofNat (n : Nat) : CodePoint :=
  if h : 0xd800 ≤ n ∧ n < 0xe000 then lone ⟨n - 0xd800, by omega⟩ else char (Char.ofNat n)

theorem toNat_char (c : Char) : (char c).toNat = c.toNat :=
  rfl

theorem toNat_le (c : CodePoint) : c.toNat ≤ 0x10ffff := by
  cases c with
  | char c =>
    have hvalid : c.toNat.isValidChar := c.valid
    obtain h | ⟨-, h⟩ := hvalid <;> rw [toNat_char] <;> omega
  | lone offset =>
    have hbound := offset.isLt
    rw [toNat]
    omega

theorem ofNat_toNat (c : CodePoint) : ofNat c.toNat = c := by
  cases c with
  | char c =>
    have hvalid : ¬(0xd800 ≤ c.toNat ∧ c.toNat < 0xe000) := by
      have := c.valid
      simp only [UInt32.isValidChar, Nat.isValidChar] at this
      change ¬(0xd800 ≤ c.val.toNat ∧ c.val.toNat < 0xe000)
      omega
    rw [toNat_char, ofNat, dif_neg hvalid, Char.ofNat_toNat]
  | lone offset =>
    have hbound := offset.isLt
    have hrange : 0xd800 ≤ (lone offset).toNat ∧ (lone offset).toNat < 0xe000 := by
      simp only [toNat]
      omega
    have hback : (lone offset).toNat - 0xd800 = offset := by
      simp only [toNat]
      omega
    rw [ofNat, dif_pos hrange]
    exact congrArg lone (Fin.ext hback)

instance : LE CodePoint := ⟨fun a b => a.toNat ≤ b.toNat⟩

instance (a b : CodePoint) : Decidable (a ≤ b) :=
  inferInstanceAs (Decidable (a.toNat ≤ b.toNat))

/-- Whether a code point is a digit of ASCII. -/
def isDigit : CodePoint → Bool
  | char c => c.isDigit
  | lone _ => false

/-- Whether a code point is a letter of ASCII. -/
def isAlpha : CodePoint → Bool
  | char c => c.isAlpha
  | lone _ => false

/-- Whether a code point is a letter or a digit of ASCII. -/
def isAlphanum (c : CodePoint) : Bool :=
  c.isAlpha || c.isDigit

theorem isDigit_iff_toNat {c : CodePoint} :
    c.isDigit = true ↔ 0x30 ≤ c.toNat ∧ c.toNat ≤ 0x39 := by
  cases c with
  | char c => exact Char.isDigit_iff_toNat
  | lone offset =>
    simp only [isDigit, toNat, Bool.false_eq_true, false_iff]
    omega

end CodePoint

end StackShell
