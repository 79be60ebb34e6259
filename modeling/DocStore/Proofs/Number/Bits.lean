import DocStore.Number
import Mathlib

/-!
# Numbers and their bits

A number is nothing but its bits, and its bits are a sign and a magnitude.
-/

namespace DocStore.Number

-- ---------------------------------------------------------------------------
-- Sign and magnitude
-- ---------------------------------------------------------------------------

theorem pow2_eq (n : Nat) : pow2 n = 2 ^ n := rfl

theorem bits_lt (x : Number) : x.bits < 2 ^ 64 := x.toBits.toNat_lt

theorem magnitude_eq (x : Number) : x.magnitude = x.bits % 2 ^ 63 := rfl

theorem isNegative_iff (x : Number) : x.isNegative = true ↔ 2 ^ 63 ≤ x.bits :=
  decide_eq_true_iff

theorem isFinite_iff (x : Number) : x.isFinite = true ↔ x.magnitude < 2047 * 2 ^ 52 :=
  decide_eq_true_iff

theorem ofMagnitude_magnitude (x : Number) : ofMagnitude x.isNegative x.magnitude = x := by
  have bound := x.bits_lt
  have sign := x.isNegative_iff
  have whole : x.magnitude + (if x.isNegative then 2 ^ 63 else 0) = x.bits := by
    rw [magnitude_eq]
    by_cases h : 2 ^ 63 ≤ x.bits
    · rw [if_pos (sign.mpr h)]
      omega
    · rw [if_neg (mt sign.mp h)]
      omega
  simp only [ofMagnitude, pow2_eq]
  rw [whole, bits, UInt64.ofNat_toNat, Float.ofBits_toBits]

-- ---------------------------------------------------------------------------
-- Significand and exponent
-- ---------------------------------------------------------------------------

theorem significand_eq (x : Number) : x.significand =
    if x.magnitude / 2 ^ 52 = 0 then x.magnitude else 2 ^ 52 + x.magnitude % 2 ^ 52 := by
  simp only [significand, beq_iff_eq]
  rfl

theorem exponent_eq (x : Number) :
    x.exponent = (max (x.magnitude / 2 ^ 52) 1 : Nat) - 1075 := by
  have field : x.exponentField = x.magnitude / 2 ^ 52 := rfl
  simp only [exponent, field]
  omega

theorem exponent_ge (x : Number) : -1074 ≤ x.exponent := by
  rw [exponent_eq]
  omega

/-- The magnitude counts the numbers below. -/
theorem magnitude_eq_significand (x : Number) :
    (x.magnitude : Int) = x.significand + (x.exponent + 1074) * 2 ^ 52 := by
  rw [significand_eq, exponent_eq]
  split <;> omega

theorem significand_lt (x : Number) : x.significand < 2 ^ 53 := by
  rw [significand_eq]
  split <;> omega

theorem exponent_of_significand_lt {x : Number} (h : x.significand < 2 ^ 52) :
    x.exponent = -1074 := by
  rw [significand_eq] at h
  rw [exponent_eq]
  split at h <;> omega

theorem isZero_iff (x : Number) : x.isZero = true ↔ x.significand = 0 := by
  have zero : x.isZero = true ↔ x.magnitude = 0 := beq_iff_eq
  rw [zero, significand_eq]
  split <;> omega

end DocStore.Number
