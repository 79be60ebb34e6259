import DocStore.Proofs.Number.Bits
import DocStore.Number.Shortest

/-!
# Rounding

A quotient is rounded to the number whose interval it lies in. So rounding gives back every number
from any quotient that stands for it.
-/

namespace DocStore.Number

-- ---------------------------------------------------------------------------
-- Rounding to integers
-- ---------------------------------------------------------------------------

/-- The nearest integer is found; an even one also when another is as near. -/
theorem roundQuotient_eq {n d q : Nat} (pos : 0 < d) (low : 2 * (q * d) ≤ 2 * n + d)
    (high : 2 * n ≤ 2 * (q * d) + d)
    (strict : q % 2 = 1 → 2 * (q * d) < 2 * n + d ∧ 2 * n < 2 * (q * d) + d) :
    roundQuotient n d = q := by
  have whole : n / d * d + n % d = n := by
    rw [Nat.mul_comm]
    exact Nat.div_add_mod n d
  have rest : n % d < d := Nat.mod_lt n pos
  simp only [roundQuotient]
  generalize n / d = k at whole
  generalize n % d = r at whole rest
  have below : q ≤ k + 1 := by
    refine Nat.le_of_not_lt fun h => ?_
    have := Nat.mul_le_mul_right d (show k + 2 ≤ q from h)
    have : (k + 2) * d = k * d + 2 * d := by ring
    omega
  have above : k ≤ q := by
    refine Nat.le_of_not_lt fun h => ?_
    have := Nat.mul_le_mul_right d (show q + 1 ≤ k from h)
    have : (q + 1) * d = q * d + d := by ring
    omega
  rcases Nat.lt_or_eq_of_le above with lt | rfl
  · obtain rfl : q = k + 1 := by omega
    have : (k + 1) * d = k * d + d := by ring
    split
    · omega
    · split
      · rfl
      · omega
  · split
    · rfl
    · split <;> omega

-- ---------------------------------------------------------------------------
-- Quotients in units of a power of two
-- ---------------------------------------------------------------------------

/-- The numerator of `n / d` in units of `2 ^ c`. -/
def numer (n : Nat) (c : Int) : Nat := n * 2 ^ (-c).toNat

/-- The denominator of `n / d` in units of `2 ^ c`. -/
def denom (d : Nat) (c : Int) : Nat := d * 2 ^ c.toNat

theorem denom_pos {d : Nat} (pos : 0 < d) (c : Int) : 0 < denom d c :=
  Nat.mul_pos pos (Nat.two_pow_pos _)

theorem numer_add (n d : Nat) (c : Int) (k : Nat) :
    numer n (c + k) * (2 ^ k * denom d c) = numer n c * denom d (c + k) := by
  have exponents : (-(c + k)).toNat + k + c.toNat = (-c).toNat + (c + k).toNat := by omega
  calc numer n (c + k) * (2 ^ k * denom d c)
      = n * d * 2 ^ ((-(c + k)).toNat + k + c.toNat) := by
        simp only [numer, denom, Nat.pow_add]
        ring
    _ = numer n c * denom d (c + k) := by
        rw [exponents, Nat.pow_add]
        simp only [numer, denom]
        ring

/-- Comparisons with a multiple may be made in either unit. -/
theorem le_numer_add {n d : Nat} (pos : 0 < d) (a : Nat) (c : Int) (k : Nat) :
    (a * denom d c ≤ numer n c ↔ a * denom d (c + k) ≤ 2 ^ k * numer n (c + k)) ∧
      (numer n c ≤ a * denom d c ↔ 2 ^ k * numer n (c + k) ≤ a * denom d (c + k)) := by
  have fine := denom_pos pos c
  have coarse := denom_pos pos (c + k)
  have scale : 2 ^ k * numer n (c + k) * denom d c = numer n c * denom d (c + k) := by
    rw [← numer_add]
    ring
  have swap : a * denom d (c + k) * denom d c = a * denom d c * denom d (c + k) := by ring
  rw [← Nat.mul_le_mul_right_iff fine (m := a * denom d (c + k)), scale, swap,
    ← Nat.mul_le_mul_right_iff fine (m := 2 ^ k * numer n (c + k)), scale, swap,
    Nat.mul_le_mul_right_iff coarse, Nat.mul_le_mul_right_iff coarse]
  exact ⟨Iff.rfl, Iff.rfl⟩

/-- The quotient `n / d` is at least `2 ^ c`. -/
def Reaches (n d : Nat) (c : Int) : Prop := denom d c ≤ numer n c

theorem reaches_add {n d : Nat} (pos : 0 < d) (c : Int) (k : Nat) :
    Reaches n d (c + k) ↔ 2 ^ k * denom d c ≤ numer n c := by
  rw [(le_numer_add pos (2 ^ k) c k).1, Reaches, Nat.mul_le_mul_left_iff (Nat.two_pow_pos k)]

theorem Reaches.mono {n d : Nat} (pos : 0 < d) (h : Reaches n d c) (le : b ≤ c) :
    Reaches n d b := by
  obtain ⟨k, rfl⟩ := Int.le.dest le
  have := (reaches_add pos b k).mp h
  exact Nat.le_trans (Nat.le_mul_of_pos_left _ (Nat.two_pow_pos k)) this

theorem le_binaryExponent {n d : Nat} (hn : 0 < n) (hd : 0 < d) (c : Int) :
    c ≤ binaryExponent n d ↔ Reaches n d c := by
  have hln := Nat.log2_self_le (Nat.ne_of_gt hn)
  have hln' := Nat.lt_log2_self (n := n)
  have hld := Nat.log2_self_le (Nat.ne_of_gt hd)
  have hld' := Nat.lt_log2_self (n := d)
  have low : Reaches n d (n.log2 - d.log2 - 1) := by
    have split : (n.log2 - d.log2 - 1 : Int) = -(d.log2 + 1 : Nat) + n.log2 := by omega
    rw [split, reaches_add hd]
    simp only [denom, numer, Int.toNat_neg_natCast, Int.neg_neg, Int.toNat_natCast, Nat.pow_zero,
      Nat.mul_one]
    exact Nat.mul_le_mul hln (Nat.le_of_lt hld')
  have high : ¬Reaches n d (n.log2 - d.log2 + 1) := by
    have split : (n.log2 - d.log2 + 1 : Int) = -(d.log2 : Nat) + (n.log2 + 1 : Nat) := by omega
    rw [split, reaches_add hd]
    simp only [denom, numer, Int.toNat_neg_natCast, Int.neg_neg, Int.toNat_natCast, Nat.pow_zero,
      Nat.mul_one, Nat.not_le]
    exact Nat.mul_lt_mul_of_lt_of_le hln' hld hd
  have reaches : d * pow2 ((n.log2 : Int) - d.log2).toNat ≤ n * pow2 (-((n.log2 : Int) - d.log2)).toNat
      ↔ Reaches n d (n.log2 - d.log2) := Iff.rfl
  simp only [binaryExponent]
  generalize (n.log2 : Int) - d.log2 = g at low high reaches
  split <;> rename_i h <;> rw [reaches] at h
  · refine ⟨fun le => h.mono hd le, fun hc => ?_⟩
    exact Int.not_lt.mp fun lt => high (hc.mono hd (by omega))
  · refine ⟨fun le => low.mono hd le, fun hc => ?_⟩
    exact Int.not_lt.mp fun lt => h (hc.mono hd (by omega))

-- ---------------------------------------------------------------------------
-- Rounding to numbers
-- ---------------------------------------------------------------------------

/-- The quotient `n / d` lies in a rounding interval. -/
def Interval.Contains (i : Interval) (n d : Nat) : Prop :=
  i.low * denom d i.unit ≤ numer n i.unit ∧ numer n i.unit ≤ i.high * denom d i.unit ∧
    (i.closed = false → i.low * denom d i.unit < numer n i.unit ∧
      numer n i.unit < i.high * denom d i.unit)

theorem ofQuotient_of_round {x : Number} {n d : Nat} {t : Int} (finite : x.isFinite = true)
    (pos : n ≠ 0) (unit : max (binaryExponent n d - 52) (-1074) = t)
    (round : (roundQuotient (numer n t) (denom d t) : Int) + (t + 1074) * 2 ^ 52 = x.magnitude) :
    ofQuotient x.isNegative n d = x := by
  have bound := x.isFinite_iff.mp finite
  have low : -1074 ≤ t := unit ▸ Int.le_max_right ..
  have infinite : infinityBits = 2047 * 2 ^ 52 := rfl
  have whole : roundQuotient (n * pow2 (-t).toNat) (d * pow2 t.toNat) + (t + 1074).toNat * pow2 52
      = x.magnitude := by
    have lift : ((t + 1074).toNat : Int) = t + 1074 := Int.toNat_of_nonneg (by omega)
    refine Int.ofNat_inj.mp ?_
    rw [← round]
    push_cast
    rw [lift]
    rfl
  simp only [ofQuotient, beq_iff_eq, pos, if_false, unit, whole]
  rw [Nat.min_eq_right (by omega), ofMagnitude_magnitude]

theorem round_self {x : Number} {n d : Nat} (hd : 0 < d) (inside : x.interval.Contains n d) :
    roundQuotient (numer n x.exponent) (denom d x.exponent) = x.significand := by
  have unit : x.interval.unit + (2 : Nat) = x.exponent := by
    simp only [interval]
    omega
  have scale (a : Nat) := le_numer_add hd (n := n) a x.interval.unit 2
  simp only [unit] at scale
  obtain ⟨low, high, open'⟩ := inside
  have below : 4 * x.significand ≤ x.interval.low + 2 := by
    simp only [interval]
    split <;> omega
  have above : x.interval.high = 4 * x.significand + 2 := rfl
  have low' := (scale _).1.mp low
  have high' := (scale _).2.mp high
  have reach := Nat.mul_le_mul_right (denom d x.exponent) below
  rw [above] at high'
  have expand : (4 * x.significand + 2) * denom d x.exponent
    = 4 * (x.significand * denom d x.exponent) + 2 * denom d x.exponent := by ring
  have expand' : 4 * x.significand * denom d x.exponent
    = 4 * (x.significand * denom d x.exponent) := by ring
  have expand'' : (x.interval.low + 2) * denom d x.exponent
    = x.interval.low * denom d x.exponent + 2 * denom d x.exponent := by ring
  refine roundQuotient_eq (denom_pos hd _) (by omega) (by omega) fun odd => ?_
  have opened : x.interval.closed = false := by simp [interval, odd]
  obtain ⟨lt, gt⟩ := open' opened
  have lt' := mt (scale _).2.mpr (Nat.not_le.mpr lt)
  have gt' := mt (scale _).1.mpr (Nat.not_le.mpr gt)
  rw [above] at gt'
  omega

theorem low_pos {x : Number} (nonzero : x.significand ≠ 0) : 0 < x.interval.low := by
  simp only [interval]
  split <;> omega

theorem ne_zero_of_contains {x : Number} {n d : Nat} (nonzero : x.significand ≠ 0) (hd : 0 < d)
    (inside : x.interval.Contains n d) : n ≠ 0 := by
  rintro rfl
  have zero : numer 0 x.interval.unit = 0 := Nat.zero_mul _
  have pos := Nat.mul_pos (low_pos nonzero) (denom_pos hd x.interval.unit)
  have low := inside.1
  omega

/-- The quotient is below the next power of two above the number. -/
theorem binaryExponent_lt {x : Number} {n d : Nat} (hn : 0 < n) (hd : 0 < d)
    (inside : x.interval.Contains n d) : binaryExponent n d < x.exponent + 53 := by
  have bound := x.significand_lt
  have unit : x.interval.unit = x.exponent - 2 := rfl
  have high : x.interval.high = 4 * x.significand + 2 := rfl
  have split : x.exponent + 53 = x.interval.unit + (55 : Nat) := by omega
  refine Int.not_le.mp ?_
  rw [le_binaryExponent hn hd, split, reaches_add hd, Nat.not_le]
  refine Nat.lt_of_le_of_lt inside.2.1 (Nat.mul_lt_mul_of_pos_right ?_ (denom_pos hd _))
  omega

/-- Only below a power of two is there room for quotients with a lesser exponent. -/
theorem significand_of_low_lt {x : Number} (normal : x.exponent ≠ -1074)
    (lowLt : x.interval.low < 2 ^ 54) :
    x.significand = 2 ^ 52 ∧ x.interval.low = 2 ^ 54 - 1 := by
  have least := x.exponent_ge
  have short : 2 ^ 52 ≤ x.significand :=
    Nat.le_of_not_lt fun lt => normal (exponent_of_significand_lt lt)
  simp only [interval] at lowLt ⊢
  by_cases same : x.significand = 2 ^ 52
  · have below : (x.significand == pow2 52 && decide (-1074 < x.exponent)) = true := by
      simp only [Bool.and_eq_true, beq_iff_eq, decide_eq_true_eq]
      exact ⟨same, by omega⟩
    rw [if_pos below]
    omega
  · split at lowLt <;> omega

theorem ofQuotient_of_lt {x : Number} {n d : Nat} (finite : x.isFinite = true) (hn : 0 < n)
    (hd : 0 < d) (inside : x.interval.Contains n d) (normal : x.exponent ≠ -1074)
    (less : binaryExponent n d < x.exponent + 52) : ofQuotient x.isNegative n d = x := by
  have least := x.exponent_ge
  have unit : x.interval.unit = x.exponent - 2 := rfl
  have just : numer n x.interval.unit < 2 ^ 54 * denom d x.interval.unit := by
    have split : x.exponent + 52 = x.interval.unit + (54 : Nat) := by omega
    have beyond := Int.not_le.mpr less
    rwa [le_binaryExponent hn hd, split, reaches_add hd, Nat.not_le] at beyond
  obtain ⟨power, low⟩ := significand_of_low_lt normal
    (Nat.lt_of_mul_lt_mul_right (Nat.lt_of_le_of_lt inside.1 just))
  have reached : x.exponent + 51 ≤ binaryExponent n d := by
    have split : x.exponent + 51 = x.interval.unit + (53 : Nat) := by omega
    rw [le_binaryExponent hn hd, split, reaches_add hd]
    exact Nat.le_trans (Nat.mul_le_mul_right _ (by omega)) inside.1
  refine ofQuotient_of_round finite (Nat.ne_of_gt hn) (t := x.exponent - 1) (by omega) ?_
  -- in half the unit of the number the nearest integer is twice its significand
  have half : x.exponent - 1 = x.interval.unit + (1 : Nat) := by omega
  have scale (a : Nat) := le_numer_add hd (n := n) a x.interval.unit 1
  have low' := (scale _).1.mp inside.1
  have just' := mt (scale _).1.mpr (Nat.not_le.mpr just)
  rw [low] at low'
  have upper : roundQuotient (numer n (x.exponent - 1)) (denom d (x.exponent - 1)) = 2 ^ 53 := by
    rw [half]
    refine roundQuotient_eq (denom_pos hd _) ?_ ?_ (by simp)
    · omega
    · omega
  rw [upper, x.magnitude_eq_significand, power]
  omega

/-- A quotient is rounded to the number whose rounding interval it lies in. -/
theorem ofQuotient_of_contains {x : Number} {n d : Nat} (finite : x.isFinite = true)
    (nonzero : x.significand ≠ 0) (hd : 0 < d) (inside : x.interval.Contains n d) :
    ofQuotient x.isNegative n d = x := by
  have least := x.exponent_ge
  have pos := ne_zero_of_contains nonzero hd inside
  have hn := Nat.pos_of_ne_zero pos
  have less := binaryExponent_lt hn hd inside
  by_cases less' : binaryExponent n d < x.exponent + 52 ∧ x.exponent ≠ -1074
  · exact ofQuotient_of_lt finite hn hd inside less'.2 less'.1
  · refine ofQuotient_of_round finite pos (t := x.exponent) (by omega) ?_
    rw [round_self hd inside, x.magnitude_eq_significand]

theorem contains_of_eq {x : Number} {n d : Nat} (nonzero : x.significand ≠ 0) (hd : 0 < d)
    (exact : n * 2 ^ (-x.exponent).toNat = x.significand * (d * 2 ^ x.exponent.toNat)) :
    x.interval.Contains n d := by
  have unit : x.interval.unit + (2 : Nat) = x.exponent := by
    simp only [interval]
    omega
  have scale (a : Nat) := le_numer_add hd (n := n) a x.interval.unit 2
  simp only [unit] at scale
  have value : numer n x.exponent = x.significand * denom d x.exponent := exact
  have wide := denom_pos hd x.exponent
  have four : 2 ^ 2 * numer n x.exponent = 4 * x.significand * denom d x.exponent := by
    rw [value]
    ring
  have lowLt : x.interval.low < 4 * x.significand := by
    simp only [interval]
    split <;> omega
  have lt : x.interval.low * denom d x.interval.unit < numer n x.interval.unit := by
    refine Nat.not_le.mp (mt (scale _).2.mp (Nat.not_le.mpr ?_))
    rw [four]
    exact Nat.mul_lt_mul_of_pos_right lowLt wide
  have gt : numer n x.interval.unit < x.interval.high * denom d x.interval.unit := by
    refine Nat.not_le.mp (mt (scale _).1.mp (Nat.not_le.mpr ?_))
    rw [four]
    exact Nat.mul_lt_mul_of_pos_right (show 4 * x.significand < 4 * x.significand + 2 by omega) wide
  exact ⟨Nat.le_of_lt lt, Nat.le_of_lt gt, fun _ => ⟨lt, gt⟩⟩

theorem ofQuotient_of_eq {x : Number} {n d : Nat} (finite : x.isFinite = true) (hd : 0 < d)
    (exact : n * 2 ^ (-x.exponent).toNat = x.significand * (d * 2 ^ x.exponent.toNat)) :
    ofQuotient x.isNegative n d = x := by
  by_cases zero : x.significand = 0
  · have none : n = 0 := by
      rw [zero, Nat.zero_mul] at exact
      exact (Nat.mul_eq_zero.mp exact).resolve_right (Nat.ne_of_gt (Nat.two_pow_pos _))
    have magnitude := x.magnitude_eq_significand
    have flat := exponent_of_significand_lt (x := x) (by omega)
    have nought : x.magnitude = 0 := by omega
    calc ofQuotient x.isNegative n d = ofMagnitude x.isNegative x.magnitude := by
          simp [ofQuotient, none, nought]
      _ = x := x.ofMagnitude_magnitude
  · exact ofQuotient_of_contains finite zero hd (contains_of_eq zero hd exact)

theorem isIntegral_iff (x : Number) : x.isIntegral = true ↔ x.isFinite = true ∧
    x.significand * 2 ^ x.exponent.toNat % 2 ^ (-x.exponent).toNat = 0 := by
  simp only [isIntegral, Bool.and_eq_true, beq_iff_eq]
  exact Iff.rfl

theorem wholePart_of_isIntegral {x : Number} (h : x.isIntegral = true) :
    x.wholePart * 2 ^ (-x.exponent).toNat = x.significand * (1 * 2 ^ x.exponent.toNat) := by
  rw [Nat.one_mul]
  exact Nat.div_mul_cancel (Nat.dvd_of_mod_eq_zero (x.isIntegral_iff.mp h).2)

theorem truncate_of_isIntegral {x : Number} (h : x.isIntegral = true) : x.truncate = x := by
  have finite := (x.isIntegral_iff.mp h).1
  simp only [truncate, finite, if_true]
  exact ofQuotient_of_eq finite Nat.one_pos (wholePart_of_isIntegral h)

end DocStore.Number
