import Mathlib.Algebra.Group.Nat.Defs
import ShaderUniforms.Binary

/-!
# Equality of binary numbers

Bit patterns are compared as the numbers that they stand for.  This changes little:
patterns are equal as numbers if they are the same pattern, or the patterns of the
two zeros, and neither is a NaN.  A pattern is a NaN if its exponent bits are all
set and some fraction bit is.
-/

namespace ShaderUniforms

namespace Binary

variable {e f : Nat} {x y z : Binary e f}

/-!
## Fields of a pattern
-/

def exponent (x : Binary e f) : BitVec e :=
  x.bits.extractLsb' f e

def fraction (x : Binary e f) : BitVec f :=
  x.bits.extractLsb' 0 f

theorem magnitude_eq_mod (x : Binary e f) : x.magnitude = x.bits.toNat % 2 ^ (e + f) :=
  BitVec.toNat_setWidth (e + f) x.bits

theorem magnitude_eq (x : Binary e f) :
    x.magnitude = x.exponent.toNat * 2 ^ f + x.fraction.toNat := by
  have hexponent : x.exponent.toNat = x.bits.toNat / 2 ^ f % 2 ^ e := by
    simp [exponent, Nat.shiftRight_eq_div_pow]
  have hfraction : x.fraction.toNat = x.bits.toNat % 2 ^ f := by
    simp [fraction]
  calc
    x.magnitude = x.bits.toNat % (2 ^ f * 2 ^ e) := by
      rw [magnitude_eq_mod, Nat.pow_add, Nat.mul_comm]
    _ = x.bits.toNat % 2 ^ f + 2 ^ f * (x.bits.toNat / 2 ^ f % 2 ^ e) := Nat.mod_mul
    _ = x.exponent.toNat * 2 ^ f + x.fraction.toNat := by
      rw [hexponent, hfraction, Nat.add_comm, Nat.mul_comm]

theorem infinityMagnitude_eq (e f : Nat) : infinityMagnitude e f = (2 ^ e - 1) * 2 ^ f := by
  unfold infinityMagnitude
  rw [BitVec.toNat_allOnes, Nat.shiftLeft_eq]

/-- All exponent bits are set, and some fraction bit is. -/
def HasNaNFields (x : Binary e f) : Prop :=
  x.exponent = BitVec.allOnes e ∧ x.fraction ≠ 0

theorem isNaN_iff : x.isNaN = true <-> x.HasNaNFields := by
  have hexponent : x.exponent.toNat < 2 ^ e := x.exponent.isLt
  have hfraction : x.fraction.toNat < 2 ^ f := x.fraction.isLt
  have hones : x.exponent = BitVec.allOnes e <-> x.exponent.toNat = 2 ^ e - 1 := by
    rw [<- BitVec.toNat_inj, BitVec.toNat_allOnes]
  have hzero : x.fraction ≠ 0 <-> 0 < x.fraction.toNat := by
    rw [Nat.pos_iff_ne_zero, ne_eq, ne_eq, <- BitVec.toNat_inj]
    rfl
  unfold isNaN HasNaNFields
  rw [decide_eq_true_iff, infinityMagnitude_eq, magnitude_eq, hones, hzero]
  constructor
  · intro h
    have hlarge : 2 ^ e - 1 ≤ x.exponent.toNat := by
      apply Nat.le_of_not_lt
      intro hsmall
      have hbelow : (x.exponent.toNat + 1) * 2 ^ f ≤ (2 ^ e - 1) * 2 ^ f :=
        Nat.mul_le_mul_right (2 ^ f) hsmall
      rw [Nat.succ_mul] at hbelow
      omega
    have heq : x.exponent.toNat = 2 ^ e - 1 := by omega
    rw [heq] at h
    exact ⟨heq, by omega⟩
  · intro h
    rw [h.left]
    omega

/-!
## Sign and magnitude
-/

theorem toNat_bits (x : Binary e f) :
    x.bits.toNat = (if x.isNegative then 2 ^ (e + f) else 0) + x.magnitude := by
  have hlt : x.bits.toNat < 2 ^ (e + f) * 2 := by
    rw [<- Nat.pow_succ]
    exact Nat.lt_of_lt_of_eq x.bits.isLt (by congr 1; omega)
  have hwidth : 1 + e + f - 1 = e + f := by omega
  unfold isNegative
  rw [magnitude_eq_mod, BitVec.msb_eq_decide, hwidth]
  by_cases hsign : 2 ^ (e + f) ≤ x.bits.toNat
  · rw [if_pos (decide_eq_true hsign), Nat.mod_eq_sub_mod hsign, Nat.mod_eq_of_lt (by omega)]
    omega
  · rw [if_neg (by simpa using hsign), Nat.mod_eq_of_lt (Nat.lt_of_not_le hsign), Nat.zero_add]

theorem eq_of_sign_of_magnitude (hsign : x.isNegative = y.isNegative)
    (hmagnitude : x.magnitude = y.magnitude) : x = y := by
  apply Binary.ext
  apply BitVec.eq_of_toNat_eq
  rw [toNat_bits, toNat_bits, hsign, hmagnitude]

/-!
### Zeros
-/

/-- The zero with the sign bit. -/
def negativeZero : Binary e f :=
  ⟨BitVec.twoPow (1 + e + f) (e + f)⟩

theorem isNegative_zero : (0 : Binary e f).isNegative = false :=
  BitVec.msb_zero

theorem magnitude_zero : (0 : Binary e f).magnitude = 0 := by
  rw [magnitude_eq_mod]
  exact Nat.zero_mod _

theorem isNegative_negativeZero : (negativeZero : Binary e f).isNegative = true := by
  have hlt : e + f < 1 + e + f := by omega
  have hwidth : 1 + e + f - 1 = e + f := by omega
  unfold isNegative negativeZero
  rw [BitVec.msb_eq_decide, BitVec.toNat_twoPow_of_lt hlt, hwidth]
  exact decide_eq_true (Nat.le_refl _)

theorem magnitude_negativeZero : (negativeZero : Binary e f).magnitude = 0 := by
  have hlt : e + f < 1 + e + f := by omega
  rw [magnitude_eq_mod]
  show (BitVec.twoPow (1 + e + f) (e + f)).toNat % 2 ^ (e + f) = 0
  rw [BitVec.toNat_twoPow_of_lt hlt, Nat.mod_self]

theorem eq_zero_of_magnitude (hsign : x.isNegative = false) (h : x.magnitude = 0) : x = 0 :=
  eq_of_sign_of_magnitude (hsign.trans isNegative_zero.symm) (h.trans magnitude_zero.symm)

theorem eq_negativeZero_of_magnitude (hsign : x.isNegative = true) (h : x.magnitude = 0) :
    x = negativeZero :=
  eq_of_sign_of_magnitude (hsign.trans isNegative_negativeZero.symm)
    (h.trans magnitude_negativeZero.symm)

/-- One is the zero with the sign bit, and the other one the zero without. -/
def OppositeZeros (x y : Binary e f) : Prop :=
  (x = 0 ∧ y = negativeZero) ∨ (x = negativeZero ∧ y = 0)

theorem OppositeZeros.symm (h : x.OppositeZeros y) : y.OppositeZeros x := by
  rcases h with ⟨hx, hy⟩ | ⟨hx, hy⟩
  · exact Or.inr ⟨hy, hx⟩
  · exact Or.inl ⟨hy, hx⟩

/-- There are two zeros only, so the opposite of the opposite is the first one again. -/
theorem OppositeZeros.eq_of_opposite (hxy : x.OppositeZeros y) (hyz : y.OppositeZeros z) :
    x = z := by
  rcases hxy with ⟨hx, hy⟩ | ⟨hx, hy⟩ <;> rcases hyz with ⟨hy', hz⟩ | ⟨hy', hz⟩
  · rw [hx, hz, <- hy, hy']
  · rw [hx, hz]
  · rw [hx, hz]
  · rw [hx, hz, <- hy, hy']

/-!
## Equality of numbers
-/

theorem signed_of_positive (hsign : x.isNegative = false) : x.signed = x.magnitude := by
  simp [signed, hsign]

theorem signed_of_negative (hsign : x.isNegative = true) : x.signed = -x.magnitude := by
  simp [signed, hsign]

theorem signed_zero : (0 : Binary e f).signed = 0 := by
  rw [signed_of_positive isNegative_zero, magnitude_zero]
  rfl

theorem signed_negativeZero : (negativeZero : Binary e f).signed = 0 := by
  rw [signed_of_negative isNegative_negativeZero, magnitude_negativeZero]
  rfl

/-- Of two numbers with different signs, only zeros are equal. -/
theorem eq_or_oppositeZeros_of_signed (h : x.signed = y.signed) : x = y ∨ x.OppositeZeros y := by
  cases hx : x.isNegative with
  | false =>
      rw [signed_of_positive hx] at h
      cases hy : y.isNegative with
      | false =>
          rw [signed_of_positive hy] at h
          exact Or.inl (eq_of_sign_of_magnitude (hx.trans hy.symm) (Int.ofNat.inj h))
      | true =>
          rw [signed_of_negative hy] at h
          apply Or.inr
          exact Or.inl ⟨eq_zero_of_magnitude hx (by omega),
            eq_negativeZero_of_magnitude hy (by omega)⟩
  | true =>
      rw [signed_of_negative hx] at h
      cases hy : y.isNegative with
      | false =>
          rw [signed_of_positive hy] at h
          apply Or.inr
          exact Or.inr ⟨eq_negativeZero_of_magnitude hx (by omega),
            eq_zero_of_magnitude hy (by omega)⟩
      | true =>
          rw [signed_of_negative hy] at h
          exact Or.inl (eq_of_sign_of_magnitude (hx.trans hy.symm) (by omega))

theorem signed_eq_iff : x.signed = y.signed <-> x = y ∨ x.OppositeZeros y := by
  constructor
  · exact eq_or_oppositeZeros_of_signed
  · intro h
    rcases h with h | ⟨hx, hy⟩ | ⟨hx, hy⟩
    · rw [h]
    · rw [hx, hy, signed_zero, signed_negativeZero]
    · rw [hx, hy, signed_zero, signed_negativeZero]

theorem beq_iff : (x == y) = true <->
    ¬ x.HasNaNFields ∧ ¬ y.HasNaNFields ∧ (x = y ∨ x.OppositeZeros y) := by
  rw [beq_eq, <- signed_eq_iff, <- isNaN_iff, <- isNaN_iff]
  simp [and_assoc]

end Binary

end ShaderUniforms
