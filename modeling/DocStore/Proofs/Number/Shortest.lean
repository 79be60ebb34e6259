import DocStore.Proofs.Number.Round

/-!
# Shortest decimals

The search for a shortest decimal ends with one in the rounding interval of its number, so that the
number is found again from it.
-/

namespace DocStore.Number

variable {i : Interval} {tie : Tie} {k : Nat} {s : Int} {x : Number}

/-- The decimal `k * 10 ^ s` lies in a rounding interval. -/
def Interval.ContainsDecimal (i : Interval) (k : Nat) (s : Int) : Prop :=
  i.Contains (k * 10 ^ s.toNat) (10 ^ (-s).toNat)

-- ---------------------------------------------------------------------------
-- Equal quotients
-- ---------------------------------------------------------------------------

theorem numer_congr {n d n' d' : Nat} (hd : 0 < d) (hd' : 0 < d') (same : n * d' = n' * d)
    (a : Nat) (c : Int) :
    (a * denom d c ≤ numer n c ↔ a * denom d' c ≤ numer n' c) ∧
      (numer n c ≤ a * denom d c ↔ numer n' c ≤ a * denom d' c) := by
  have left : a * denom d c * d' = a * denom d' c * d := by
    simp only [denom]
    ring
  have right : numer n c * d' = numer n' c * d := by
    calc numer n c * d' = n * d' * 2 ^ (-c).toNat := by
          simp only [numer]
          ring
      _ = numer n' c * d := by
          rw [same, numer]
          ring
  constructor
  · rw [← Nat.mul_le_mul_right_iff hd', left, right, Nat.mul_le_mul_right_iff hd]
  · rw [← Nat.mul_le_mul_right_iff hd', left, right, Nat.mul_le_mul_right_iff hd]

theorem Interval.contains_congr {n d n' d' : Nat} (hd : 0 < d) (hd' : 0 < d')
    (same : n * d' = n' * d) : i.Contains n d ↔ i.Contains n' d' := by
  have low := numer_congr hd hd' same i.low i.unit
  have high := numer_congr hd hd' same i.high i.unit
  simp only [Contains, low.1, high.2, ← Nat.not_le, low.2, high.1]

theorem Interval.containsDecimal_shift (z : Nat) :
    i.ContainsDecimal (k * 10 ^ z) (s - z) ↔ i.ContainsDecimal k s := by
  refine contains_congr (Nat.pow_pos (by omega)) (Nat.pow_pos (by omega)) ?_
  have exponents : z + (s - z).toNat + (-s).toNat = s.toNat + (-(s - z)).toNat := by omega
  calc k * 10 ^ z * 10 ^ (s - z).toNat * 10 ^ (-s).toNat
      = k * 10 ^ (z + (s - z).toNat + (-s).toNat) := by
        simp only [Nat.pow_add]
        ring
    _ = k * 10 ^ s.toNat * 10 ^ (-(s - z)).toNat := by
        rw [exponents, Nat.pow_add]
        ring

-- ---------------------------------------------------------------------------
-- Grids
-- ---------------------------------------------------------------------------

theorem Tie.of_takesUpper_eq_false (h : tie.takesUpper k r n = false) : 2 * r ≤ n := by
  simp only [Tie.takesUpper] at h
  split at h
  · exact Nat.le_of_lt (Nat.compare_eq_lt.mp ‹_›)
  · simp at h
  · exact Nat.le_of_eq (Nat.compare_eq_eq.mp ‹_›)

theorem Tie.of_takesUpper (h : tie.takesUpper k r n = true) : n ≤ 2 * r := by
  simp only [Tie.takesUpper] at h
  split at h
  · simp at h
  · exact Nat.le_of_lt (Nat.compare_eq_gt.mp ‹_›)
  · exact Nat.le_of_eq (Nat.compare_eq_eq.mp ‹_›).symm

namespace Interval

theorem den_pos (i : Interval) (s : Int) : 0 < i.den s :=
  Nat.mul_pos (Nat.two_pow_pos _) (Nat.pow_pos (by omega))

theorem up_pos (i : Interval) (s : Int) : 0 < i.up s :=
  Nat.mul_pos (Nat.two_pow_pos _) (Nat.pow_pos (by omega))

theorem den_add (i : Interval) (s : Int) (n : Nat) :
    i.den (s + n) * i.up s = 10 ^ n * (i.den s * i.up (s + n)) := by
  have exponents : (s + n).toNat + (-s).toNat = n + s.toNat + (-(s + n)).toNat := by omega
  calc i.den (s + n) * i.up s
      = pow2 (-i.unit).toNat * pow2 i.unit.toNat * 10 ^ ((s + n).toNat + (-s).toNat) := by
        simp only [den, up, pow10, Nat.pow_eq, Nat.pow_add]
        ring
    _ = 10 ^ n * (i.den s * i.up (s + n)) := by
        rw [exponents]
        simp only [den, up, pow10, Nat.pow_eq, Nat.pow_add]
        ring

theorem containsDecimal_iff : i.ContainsDecimal k s ↔
    i.low * i.up s ≤ k * i.den s ∧ k * i.den s ≤ i.high * i.up s ∧
      (i.closed = false → i.low * i.up s < k * i.den s ∧ k * i.den s < i.high * i.up s) := by
  have up : denom (10 ^ (-s).toNat) i.unit = i.up s := Nat.mul_comm ..
  have den : numer (k * 10 ^ s.toNat) i.unit = k * i.den s := by
    simp only [numer, Interval.den, pow2_eq, pow10, Nat.pow_eq]
    ring
  simp only [ContainsDecimal, Contains, up, den]

theorem contains_of_holds (h : i.holds s k = true) : i.ContainsDecimal k s := by
  rw [containsDecimal_iff]
  simp only [holds] at h
  split at h
  · rename_i closed
    simp only [Bool.and_eq_true, decide_eq_true_eq] at h
    exact ⟨h.1, h.2, by simp [closed]⟩
  · simp only [Bool.and_eq_true, decide_eq_true_eq] at h
    exact ⟨Nat.le_of_lt h.1, Nat.le_of_lt h.2, fun _ => h⟩

theorem holds_of_lt (low : i.low * i.up s < k * i.den s) (high : k * i.den s < i.high * i.up s) :
    i.holds s k = true := by
  simp only [holds]
  split <;> simp only [Bool.and_eq_true, decide_eq_true_eq] <;> omega

theorem of_first_or_second {p : Nat → Bool}
    (h : (if p a then some a else if p b then some b else none) = some k) : p k = true := by
  split at h
  · obtain rfl := Option.some.inj h
    assumption
  · split at h
    · obtain rfl := Option.some.inj h
      assumption
    · simp at h

theorem contains_of_nearest? (h : i.nearest? tie s = some k) : i.ContainsDecimal k s :=
  contains_of_holds (of_first_or_second h)

/-- A grid that is fine enough has a point in the interval. -/
theorem exists_nearest? (tie : Tie) {gap : Nat} (low : i.low + gap ≤ i.value)
    (high : i.value + gap ≤ i.high)
    (fine : i.den s < 2 * gap * i.up s) : ∃ k, i.nearest? tie s = some k := by
  have whole := Nat.div_add_mod (i.value * i.up s) (i.den s)
  have rest := Nat.mod_lt (i.value * i.up s) (i.den_pos s)
  have low := Nat.mul_le_mul_right (i.up s) low
  have high := Nat.mul_le_mul_right (i.up s) high
  rw [Nat.add_mul] at low high
  rw [Nat.mul_assoc] at fine
  rw [Nat.mul_comm] at whole
  simp only [nearest?]
  generalize i.value * i.up s / i.den s = q at *
  generalize i.value * i.up s % i.den s = r at *
  have step : (q + 1) * i.den s = q * i.den s + i.den s := Nat.succ_mul ..
  refine ⟨_, if_pos ?_⟩
  cases side : tie.takesUpper q r (i.den s) with
  | false =>
    have near := Tie.of_takesUpper_eq_false side
    exact holds_of_lt (by simp; omega) (by simp; omega)
  | true =>
    have near := Tie.of_takesUpper side
    exact holds_of_lt (by simp; omega) (by simp; omega)

end Interval

-- ---------------------------------------------------------------------------
-- The first digit
-- ---------------------------------------------------------------------------

/-- A little less than `log 10 / log 2`. -/
theorem two_pow_le_ten_pow {e k : Nat} (h : 28 * e ≤ 93 * k) : 2 ^ e ≤ 10 ^ k := by
  refine (Nat.pow_le_pow_iff_left (show 28 ≠ 0 by decide)).mp ?_
  calc (2 ^ e) ^ 28 = 2 ^ (28 * e) := by rw [← Nat.pow_mul, Nat.mul_comm]
    _ ≤ 2 ^ (93 * k) := Nat.pow_le_pow_right (by decide) h
    _ = (2 ^ 93) ^ k := Nat.pow_mul ..
    _ ≤ (10 ^ 28) ^ k := Nat.pow_le_pow_left (by decide) k
    _ = (10 ^ k) ^ 28 := by rw [← Nat.pow_mul, ← Nat.pow_mul, Nat.mul_comm]

/-- A little more than `log 10 / log 2`. -/
theorem ten_pow_le_two_pow {e k : Nat} (h : 196 * k ≤ 59 * e) : 10 ^ k ≤ 2 ^ e := by
  refine (Nat.pow_le_pow_iff_left (show 59 ≠ 0 by decide)).mp ?_
  calc (10 ^ k) ^ 59 = (10 ^ 59) ^ k := by rw [← Nat.pow_mul, ← Nat.pow_mul, Nat.mul_comm]
    _ ≤ (2 ^ 196) ^ k := Nat.pow_le_pow_left (by decide) k
    _ = 2 ^ (196 * k) := (Nat.pow_mul ..).symm
    _ ≤ 2 ^ (59 * e) := Nat.pow_le_pow_right (by decide) h
    _ = (2 ^ e) ^ 59 := by rw [← Nat.pow_mul, Nat.mul_comm]

namespace Interval

/-- The value is at least `10 ^ s`. -/
def IsAtLeast (i : Interval) (s : Int) : Prop := i.den s ≤ i.value * i.up s

/-- The guess is at most one too high. -/
theorem isAtLeast_of_log2 (pos : i.value ≠ 0) (low : -2000 ≤ (i.value.log2 : Int) + i.unit)
    (high : (i.value.log2 : Int) + i.unit ≤ 2000)
    (guess : 100000 * s ≤ ((i.value.log2 : Int) + i.unit) * 30103 - 100000) : i.IsAtLeast s := by
  have bits : 2 ^ i.value.log2 ≤ i.value := Nat.log2_self_le pos
  have split : 2 ^ (-i.unit).toNat * 10 ^ s.toNat
      ≤ 2 ^ i.value.log2 * 2 ^ i.unit.toNat * 10 ^ (-s).toNat := by
    rw [← Nat.pow_add]
    by_cases nonneg : 0 ≤ s
    · have ten : 10 ^ s.toNat ≤ 2 ^ (i.value.log2 + i.unit.toNat - (-i.unit).toNat) :=
        ten_pow_le_two_pow (by omega)
      have flat : (-s).toNat = 0 := by omega
      calc 2 ^ (-i.unit).toNat * 10 ^ s.toNat
          ≤ 2 ^ (-i.unit).toNat * 2 ^ (i.value.log2 + i.unit.toNat - (-i.unit).toNat) := by gcongr
        _ ≤ 2 ^ (i.value.log2 + i.unit.toNat) * 10 ^ (-s).toNat := by
          rw [flat, Nat.pow_zero, Nat.mul_one, ← Nat.pow_add]
          exact Nat.pow_le_pow_right (by decide) (by omega)
    · have two : 2 ^ ((-i.unit).toNat - (i.value.log2 + i.unit.toNat)) ≤ 10 ^ (-s).toNat :=
        two_pow_le_ten_pow (by omega)
      have flat : s.toNat = 0 := by omega
      calc 2 ^ (-i.unit).toNat * 10 ^ s.toNat
          ≤ 2 ^ (i.value.log2 + i.unit.toNat)
            * 2 ^ ((-i.unit).toNat - (i.value.log2 + i.unit.toNat)) := by
            rw [flat, Nat.pow_zero, Nat.mul_one, ← Nat.pow_add]
            exact Nat.pow_le_pow_right (by decide) (by omega)
        _ ≤ 2 ^ (i.value.log2 + i.unit.toNat) * 10 ^ (-s).toNat := by gcongr
  calc i.den s = 2 ^ (-i.unit).toNat * 10 ^ s.toNat := rfl
    _ ≤ 2 ^ i.value.log2 * 2 ^ i.unit.toNat * 10 ^ (-s).toNat := split
    _ ≤ i.value * 2 ^ i.unit.toNat * 10 ^ (-s).toNat := by gcongr
    _ = i.value * i.up s := Nat.mul_assoc ..

theorem decimalExponent_isAtLeast (pos : i.value ≠ 0) (low : -2000 ≤ (i.value.log2 : Int) + i.unit)
    (high : (i.value.log2 : Int) + i.unit ≤ 2000) : i.IsAtLeast i.decimalExponent := by
  have reaches (k : Int) : pow10 k.toNat * pow2 (-i.unit).toNat
      ≤ i.value * pow2 i.unit.toNat * pow10 (-k).toNat ↔ i.IsAtLeast k := by
    rw [IsAtLeast, den, up, Nat.mul_comm (pow10 _), Nat.mul_assoc]
  simp only [decimalExponent]
  split
  · exact (reaches _).mp (of_decide_eq_true ‹_›)
  · split
    · exact (reaches _).mp (of_decide_eq_true ‹_›)
    · refine isAtLeast_of_log2 pos low high ?_
      rw [Int.fdiv_eq_ediv_of_nonneg _ (by decide)]
      omega

/-- Sixteen digits after the first one are fine enough for a value below `gap * 2 * 10 ^ 16`. -/
theorem fine_of_isAtLeast {gap : Nat} (h : i.IsAtLeast (s + 16))
    (small : i.value < 2 * gap * 10 ^ 16) :
    i.den s < 2 * gap * i.up s := by
  have pos := i.up_pos s
  have scaled : i.den s * 10 ^ 16 ≤ i.value * i.up s := by
    refine Nat.le_of_mul_le_mul_right ?_ (i.up_pos (s + 16))
    calc i.den s * 10 ^ 16 * i.up (s + 16)
        = i.den (s + 16) * i.up s := by
          rw [show (16 : Int) = (16 : Nat) from rfl, i.den_add s 16]
          ring
      _ ≤ i.value * i.up (s + 16) * i.up s := Nat.mul_le_mul_right _ h
      _ = i.value * i.up s * i.up (s + 16) := by ring
  refine Nat.lt_of_mul_lt_mul_right (a := 10 ^ 16) ?_
  calc i.den s * 10 ^ 16 ≤ i.value * i.up s := scaled
    _ < 2 * gap * 10 ^ 16 * i.up s := Nat.mul_lt_mul_of_pos_right small pos
    _ = 2 * gap * i.up s * 10 ^ 16 := by ring

end Interval

-- ---------------------------------------------------------------------------
-- The decimal of a number
-- ---------------------------------------------------------------------------

theorem exponent_le {x : Number} (finite : x.isFinite = true) : x.exponent ≤ 971 := by
  have bound := x.isFinite_iff.mp finite
  rw [exponent_eq]
  omega

/-- Half the width of a rounding interval, where it is narrower. -/
theorem exists_gap (x : Number) (nonzero : x.significand ≠ 0) :
    ∃ gap, x.interval.low + gap ≤ x.interval.value ∧ x.interval.value + gap ≤ x.interval.high ∧
      x.interval.value < 2 * gap * 10 ^ 16 := by
  have bound := x.significand_lt
  by_cases narrow : (x.significand == pow2 52 && decide (-1074 < x.exponent)) = true
  · have power : x.significand = 2 ^ 52 := by simp_all [pow2_eq]
    refine ⟨1, ?_, ?_, ?_⟩ <;> simp only [interval, if_pos narrow] <;> omega
  · refine ⟨2, ?_, ?_, ?_⟩ <;> simp only [interval, if_neg narrow] <;> omega

theorem interval_log2 {x : Number} (finite : x.isFinite = true) (nonzero : x.significand ≠ 0) :
    -2000 ≤ (x.interval.value.log2 : Int) + x.interval.unit ∧
      (x.interval.value.log2 : Int) + x.interval.unit ≤ 2000 := by
  have bound := x.significand_lt
  have least := x.exponent_ge
  have most := exponent_le finite
  have unit : x.interval.unit = x.exponent - 2 := rfl
  have value : x.interval.value = 4 * x.significand := rfl
  have bits : x.interval.value.log2 < 55 := (Nat.log2_lt (by omega)).mpr (by omega)
  omega

theorem trim_contains (fuel : Nat) (d : Decimal) :
    i.ContainsDecimal (d.trim fuel).digits (d.trim fuel).scale ↔
      i.ContainsDecimal d.digits d.scale := by
  induction fuel generalizing d with
  | zero => rfl
  | succ fuel ih =>
    simp only [Decimal.trim]
    split
    · rename_i final
      simp only [Bool.and_eq_true, beq_iff_eq] at final
      rw [ih]
      have shift :=
        Interval.containsDecimal_shift (i := i) (k := d.digits / 10) (s := d.scale + 1) 1
      have whole : d.digits / 10 * 10 ^ 1 = d.digits := by omega
      have scale : d.scale + 1 - (1 : Nat) = d.scale := by omega
      rw [whole, scale] at shift
      exact shift.symm
    · rfl

/-- The shortest decimal of a number lies in its rounding interval. -/
theorem shortest_contains {x : Number} (finite : x.isFinite = true) (nonzero : x.significand ≠ 0)
    (tie : Tie) : x.interval.ContainsDecimal (x.shortest tie).digits (x.shortest tie).scale := by
  simp only [shortest]
  rw [trim_contains]
  have log2 := interval_log2 finite nonzero
  have atLeast := Interval.decimalExponent_isAtLeast (i := x.interval)
    (show 4 * x.significand ≠ 0 by omega) log2.1 log2.2
  generalize x.interval.decimalExponent = top at atLeast
  obtain ⟨gap, low, high, small⟩ := exists_gap x nonzero
  have last : x.interval.IsAtLeast (top - 16 + 16) := by
    rwa [show top - 16 + 16 = top by omega]
  obtain ⟨k, hk⟩ := Interval.exists_nearest? tie low high
    (Interval.fine_of_isAtLeast last small)
  cases found : (List.range 17).findSome? fun (n : Nat) =>
      (x.interval.nearest? tie (top - n)).map fun k => Decimal.mk k (top - n) with
  | none =>
    have none := List.findSome?_eq_none_iff.mp found 16 (by simp)
    rw [show top - (16 : Nat) = top - 16 from rfl, hk] at none
    cases none
  | some d =>
    obtain ⟨n, -, hn⟩ := List.exists_of_findSome?_eq_some found
    obtain ⟨k, hk, rfl⟩ := Option.map_eq_some_iff.mp hn
    exact Interval.contains_of_nearest? hk

theorem digits_ne_zero {x : Number} (nonzero : x.significand ≠ 0)
    (inside : x.interval.ContainsDecimal k s) : k ≠ 0 :=
  Nat.ne_zero_of_mul_ne_zero_left
    (ne_zero_of_contains nonzero (Nat.pow_pos (by omega)) inside)

end DocStore.Number
