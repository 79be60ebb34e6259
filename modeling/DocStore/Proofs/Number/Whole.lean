import DocStore.Proofs.Number.Round

/-!
# Negation and whole numbers

Negation turns the sign over and nothing else, and dropping the fraction a second time drops
nothing.
-/

namespace DocStore.Number

open Float.Model (UnpackedFloat)
open Float.Model.UnpackedFloat

variable {x : Number} {u : UnpackedFloat} {n m : Nat} {negative : Bool}

-- ---------------------------------------------------------------------------
-- Negation
-- ---------------------------------------------------------------------------

theorem toNat_packComponents (s : Sign) (e : BitVec 11) (m : BitVec 52) :
    (packComponents .binary64 s e m).toNat =
      s.toBitVec.toNat * 2 ^ 63 + (e.toNat * 2 ^ 52 + m.toNat) := by
  have joined : (s.toBitVec ++ e ++ m : BitVec 64).toNat =
      (s.toBitVec.toNat * 2 ^ 11 + e.toNat) * 2 ^ 52 + m.toNat := by
    rw [BitVec.toNat_append, BitVec.toNat_append, ← Nat.shiftLeft_add_eq_or_of_lt e.isLt,
      ← Nat.shiftLeft_add_eq_or_of_lt m.isLt, Nat.shiftLeft_eq, Nat.shiftLeft_eq]
  refine joined.trans ?_
  rw [Nat.add_mul, Nat.add_assoc, Nat.mul_assoc, ← Nat.pow_add]

theorem toNat_toBitVec_neg (s : Sign) : (-s).toBitVec.toNat = 1 - s.toBitVec.toNat := by
  cases s <;> rfl

/-- A datum and its negation are packed from the same exponent and mantissa. -/
theorem pack_neg (real : u ≠ .notANumber) : ∃ s e m,
    pack .binary64 u = packComponents .binary64 s e m ∧
      pack .binary64 u.neg = packComponents .binary64 (-s) e m := by
  cases u with
  | notANumber => exact absurd rfl real
  | infinity s | zero s => exact ⟨s, _, _, rfl, rfl⟩
  | finite s m e positive =>
    simp only [neg, pack]
    split
    · exact ⟨s, _, _, rfl, rfl⟩
    · split <;> exact ⟨s, _, _, rfl, rfl⟩

theorem bits_eq_pack (x : Number) :
    x.bits = (pack .binary64 (unpack .binary64 x.toBits.toBitVec)).toNat :=
  congrArg bits (Float.ofBits_toBits x).symm

theorem bits_neg_eq_pack (x : Number) :
    (-x).bits = (pack .binary64 (unpack .binary64 x.toBits.toBitVec).neg).toNat :=
  rfl

theorem unpack_ne_notANumber (real : x.isNaN = false) :
    unpack .binary64 x.toBits.toBitVec ≠ .notANumber := by
  intro unreal
  have bits := x.bits_eq_pack
  rw [unreal] at bits
  have packed : x.bits = 0x7FF8 * 2 ^ 48 := bits.trans (by decide)
  have isNaN : x.isNaN = true := decide_eq_true (by rw [magnitude_eq, packed]; decide)
  simp [real] at isNaN

/-- Negation turns the sign over and keeps the magnitude. -/
theorem neg_eq (real : x.isNaN = false) :
    (-x).isNegative = !x.isNegative ∧ (-x).magnitude = x.magnitude := by
  obtain ⟨s, e, m, packed, turned⟩ := pack_neg (unpack_ne_notANumber real)
  have bits := x.bits_eq_pack
  have bits' := x.bits_neg_eq_pack
  rw [packed, toNat_packComponents] at bits
  rw [turned, toNat_packComponents, toNat_toBitVec_neg] at bits'
  have exponent := e.isLt
  have mantissa := m.isLt
  have single := s.toBitVec.isLt
  constructor
  · rw [Bool.eq_iff_iff, isNegative_iff, Bool.not_eq_true', ← Bool.not_eq_true, isNegative_iff]
    omega
  · rw [magnitude_eq, magnitude_eq]
    omega

theorem isNaN_of_isFinite (finite : x.isFinite = true) : x.isNaN = false := by
  have below := of_decide_eq_true finite
  exact decide_eq_false (by omega)

theorem isFinite_neg (finite : x.isFinite = true) : (-x).isFinite = true := by
  rw [isFinite_iff, (neg_eq (isNaN_of_isFinite finite)).2]
  exact x.isFinite_iff.mp finite

theorem toInt_neg (finite : x.isFinite = true) : (-x).toInt = -x.toInt := by
  obtain ⟨sign, magnitude⟩ := neg_eq (isNaN_of_isFinite finite)
  have whole : (-x).wholePart = x.wholePart := by
    simp [wholePart, significand, exponent, exponentField, magnitude]
  simp only [toInt, sign, whole]
  cases x.isNegative <;> simp

-- ---------------------------------------------------------------------------
-- Numbers of a sign and a magnitude
-- ---------------------------------------------------------------------------

theorem toNat_unpackExponent (b : BitVec 64) :
    (@unpackExponent .binary64 b).toNat = b.toNat / 2 ^ 52 % 2 ^ 11 := by
  have field : (@unpackExponent .binary64 b).toNat = b.toNat >>> 52 % 2 ^ 11 := by
    simp [unpackExponent, BitVec.extractLsb_toNat]
  rw [field, Nat.shiftRight_eq_div_pow]

theorem isNaNBits_eq_false {b : BitVec 64} (finite : b.toNat / 2 ^ 52 % 2 ^ 11 < 2047) :
    @isNaNBits .binary64 b = false := by
  refine decide_eq_false fun ⟨top, _⟩ => ?_
  have ones : (@unpackExponent .binary64 b).toNat = 2047 := congrArg BitVec.toNat top
  rw [toNat_unpackExponent] at ones
  omega

theorem bits_ofBits {b : UInt64} (finite : b.toNat / 2 ^ 52 % 2 ^ 11 < 2047) :
    bits (Float.ofBits b) = b.toNat := by
  have packed : bits (Float.ofBits b) = (pack .binary64 (unpack .binary64 b.toBitVec)).toNat := rfl
  rw [packed, pack_unpack, isNaNBits_eq_false finite]
  rfl

/-- Below infinity every magnitude is the magnitude of a number of either sign. -/
theorem ofMagnitude_eq (finite : m < 2047 * 2 ^ 52) :
    (ofMagnitude negative m).isNegative = negative ∧ (ofMagnitude negative m).magnitude = m := by
  have held : (UInt64.ofNat (m + if negative then pow2 63 else 0)).toNat =
      m + if negative then 2 ^ 63 else 0 :=
    UInt64.toNat_ofNat_of_lt' (by simp only [pow2_eq, UInt64.size]; split <;> omega)
  have bits : (ofMagnitude negative m).bits = m + if negative then 2 ^ 63 else 0 :=
    (bits_ofBits (by rw [held]; split <;> omega)).trans held
  constructor
  · rw [Bool.eq_iff_iff, isNegative_iff, bits]
    cases negative
    · simp
      omega
    · simp
  · rw [magnitude_eq, bits]
    split <;> omega

-- ---------------------------------------------------------------------------
-- Truncation
-- ---------------------------------------------------------------------------

theorem isIntegral_of_magnitude (zero : x.magnitude = 0) : x.isIntegral = true :=
  x.isIntegral_iff.mpr ⟨x.isFinite_iff.mpr (by omega), by simp [x.significand_eq, zero]⟩

/-- A whole number below the exact bound is made without rounding. -/
theorem isIntegral_ofQuotient (small : n < 2 ^ 53) :
    (ofQuotient negative n 1).isIntegral = true := by
  by_cases none : n = 0
  · have made : ofQuotient negative n 1 = ofMagnitude negative 0 := by simp [ofQuotient, none]
    exact made ▸ isIntegral_of_magnitude (ofMagnitude_eq (by decide)).2
  · -- the significand is shifted up to its full width
    obtain ⟨k, low, high, short⟩ : ∃ k, 2 ^ 52 ≤ n * 2 ^ k ∧ n * 2 ^ k < 2 ^ 53 ∧ k ≤ 52 := by
      have wide : n.log2 ≤ 52 := Nat.le_of_lt_succ ((Nat.log2_lt none).mpr small)
      refine ⟨52 - n.log2, ?_, ?_, Nat.sub_le ..⟩
      · calc 2 ^ 52 = 2 ^ n.log2 * 2 ^ (52 - n.log2) := by rw [← Nat.pow_add]; congr 1; omega
          _ ≤ n * 2 ^ (52 - n.log2) := Nat.mul_le_mul_right _ (Nat.log2_self_le none)
      · calc n * 2 ^ (52 - n.log2) < 2 ^ (n.log2 + 1) * 2 ^ (52 - n.log2) :=
              Nat.mul_lt_mul_of_pos_right Nat.lt_log2_self (Nat.two_pow_pos _)
          _ = 2 ^ 53 := by rw [← Nat.pow_add]; congr 1; omega
    let y := ofMagnitude negative (n * 2 ^ k + (1074 - k) * 2 ^ 52)
    obtain ⟨sign, magnitude⟩ : y.isNegative = negative ∧ y.magnitude = _ :=
      ofMagnitude_eq (by omega)
    have finite : y.isFinite = true := y.isFinite_iff.mpr (by omega)
    have significand : y.significand = n * 2 ^ k := by
      rw [y.significand_eq, magnitude]
      split <;> omega
    have exponent : y.exponent = -(k : Int) := by
      rw [y.exponent_eq, magnitude]
      omega
    have made : ofQuotient negative n 1 = y := by
      refine sign ▸ ofQuotient_of_eq finite Nat.one_pos ?_
      simp [significand, exponent]
    refine made ▸ y.isIntegral_iff.mpr ⟨finite, ?_⟩
    simp [significand, exponent]

theorem truncate_of_not_isFinite (infinite : x.isFinite = false) : x.truncate = x := by
  simp [truncate, infinite]

/-- Only numbers below the exact bound have fractions. -/
theorem wholePart_lt (finite : x.isFinite = true) (fraction : ¬ x.isIntegral = true) :
    x.wholePart < 2 ^ 53 := by
  have negative : x.exponent < 0 := by
    refine Int.not_le.mp fun nonneg => fraction (x.isIntegral_iff.mpr ⟨finite, ?_⟩)
    rw [Int.toNat_of_nonpos (Int.neg_nonpos_of_nonneg nonneg), Nat.pow_zero, Nat.mod_one]
  have whole : x.wholePart = x.significand / 2 ^ (-x.exponent).toNat := by
    simp [wholePart, pow2_eq, Int.toNat_of_nonpos negative.le]
  rw [whole]
  exact (Nat.div_le_self ..).trans_lt x.significand_lt

/-- What is left without its fraction has none to drop. -/
theorem truncate_truncate (x : Number) : x.truncate.truncate = x.truncate := by
  cases finite : x.isFinite with
  | false => rw [truncate_of_not_isFinite finite, truncate_of_not_isFinite finite]
  | true =>
    by_cases integral : x.isIntegral = true
    · rw [truncate_of_isIntegral integral, truncate_of_isIntegral integral]
    · have made : x.truncate = ofQuotient x.isNegative x.wholePart 1 := by simp [truncate, finite]
      rw [made, truncate_of_isIntegral (isIntegral_ofQuotient (wholePart_lt finite integral))]

end DocStore.Number
