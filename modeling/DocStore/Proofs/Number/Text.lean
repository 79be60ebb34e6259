import DocStore.FieldType.Coerce
import DocStore.Proofs.Number.Shortest

/-!
# Numbers as texts

The text of a number reads back as that number. Only the sign of a zero is lost, and what is not
finite has no text of its own.
-/

namespace DocStore.Number

open DocStore.Text

variable {x : Number} {k n : Nat} {s e : Int} {negative : Bool} {whole fraction digits : List Char}

-- ---------------------------------------------------------------------------
-- Decimals
-- ---------------------------------------------------------------------------

theorem ten_pow_le (nonzero : k ≠ 0) : 10 ^ (k.repr.length - 1) ≤ k := by
  by_cases single : k.repr.length = 1
  · rw [single]
    exact Nat.pos_of_ne_zero nonzero
  · have pos := Nat.length_repr_pos (n := k)
    refine Nat.not_lt.mp fun lt => ?_
    have := (Nat.length_repr_le_iff (by omega)).mpr lt
    omega

theorem lt_ten_pow (k : Nat) : k < 10 ^ k.repr.length :=
  (Nat.length_repr_le_iff Nat.length_repr_pos).mp (Nat.le_refl _)

theorem unit_bounds (finite : x.isFinite = true) :
    -1076 ≤ x.interval.unit ∧ x.interval.unit ≤ 969 := by
  have unit : x.interval.unit = x.exponent - 2 := rfl
  have least := x.exponent_ge
  have most := exponent_le finite
  omega

theorem le_lead_of_contains (finite : x.isFinite = true) (nonzero : x.significand ≠ 0)
    (inside : x.interval.ContainsDecimal k s) : -400 ≤ s + k.repr.length := by
  have low := (Interval.containsDecimal_iff.mp inside).1
  simp only [Interval.up, Interval.den, pow2_eq, pow10, Nat.pow_eq] at low
  have unit := unit_bounds finite
  have digits := lt_ten_pow k
  generalize k.repr.length = count at digits ⊢
  refine Int.not_lt.mp fun below => ?_
  have unscaled : s.toNat = 0 := by omega
  have small : 10 ^ (-s).toNat < 10 ^ (-s).toNat := by
    calc 10 ^ (-s).toNat
        ≤ x.interval.low * (2 ^ x.interval.unit.toNat * 10 ^ (-s).toNat) := by
          rw [← Nat.mul_assoc]
          exact Nat.le_mul_of_pos_left _ (Nat.mul_pos (low_pos nonzero) (Nat.two_pow_pos _))
      _ ≤ k * 2 ^ (-x.interval.unit).toNat := by simpa [unscaled] using low
      _ < 10 ^ count * 2 ^ (-x.interval.unit).toNat :=
          Nat.mul_lt_mul_of_pos_right digits (Nat.two_pow_pos _)
      _ ≤ 10 ^ count * 10 ^ 401 := Nat.mul_le_mul_left _ (two_pow_le_ten_pow (by omega))
      _ ≤ 10 ^ (-s).toNat := by
          rw [← Nat.pow_add]
          exact Nat.pow_le_pow_right (by decide) (by omega)
  exact Nat.lt_irrefl _ small

theorem lead_le_of_contains (finite : x.isFinite = true) (nonzero : x.significand ≠ 0)
    (inside : x.interval.ContainsDecimal k s) : s + k.repr.length ≤ 400 := by
  have high := (Interval.containsDecimal_iff.mp inside).2.1
  simp only [Interval.up, Interval.den, pow2_eq, pow10, Nat.pow_eq] at high
  have top : x.interval.high = 4 * x.significand + 2 := rfl
  have bound := x.significand_lt
  have unit := unit_bounds finite
  have digits := ten_pow_le (digits_ne_zero nonzero inside)
  have pos := Nat.length_repr_pos (n := k)
  generalize k.repr.length = count at digits pos ⊢
  refine Int.not_lt.mp fun above => ?_
  have large : 10 ^ (count - 1 + s.toNat) < 10 ^ (count - 1 + s.toNat) := by
    calc 10 ^ (count - 1 + s.toNat)
        ≤ k * 10 ^ s.toNat := by
          rw [Nat.pow_add]
          exact Nat.mul_le_mul_right _ digits
      _ ≤ k * (2 ^ (-x.interval.unit).toNat * 10 ^ s.toNat) :=
          Nat.mul_le_mul_left _ (Nat.le_mul_of_pos_left _ (Nat.two_pow_pos _))
      _ ≤ x.interval.high * (2 ^ x.interval.unit.toNat * 10 ^ (-s).toNat) := high
      _ ≤ 2 ^ 55 * (2 ^ x.interval.unit.toNat * 10 ^ (-s).toNat) :=
          Nat.mul_le_mul_right _ (by omega)
      _ = 2 ^ (55 + x.interval.unit.toNat) * 10 ^ (-s).toNat := by
          rw [← Nat.mul_assoc, ← Nat.pow_add]
      _ ≤ 10 ^ 399 * 10 ^ (-s).toNat := Nat.mul_le_mul_right _ (two_pow_le_ten_pow (by omega))
      _ < 10 ^ (count - 1 + s.toNat) := by
          rw [← Nat.pow_add]
          exact Nat.pow_lt_pow_right (by decide) (by omega)
  exact Nat.lt_irrefl _ large

/-- A decimal in the interval of a number is read as that number. -/
theorem ofDecimal_of_contains (finite : x.isFinite = true) (nonzero : x.significand ≠ 0)
    (inside : x.interval.ContainsDecimal k s) : ofDecimal x.isNegative k s = x := by
  have low := le_lead_of_contains finite nonzero inside
  have high := lead_le_of_contains finite nonzero inside
  have digits := digits_ne_zero nonzero inside
  simp only [ofDecimal, Nat.toString_eq_repr]
  rw [if_neg (by simpa only [beq_iff_eq, digits, Bool.or_eq_true, decide_eq_true_eq, false_or,
    Int.not_lt] using low), if_neg (Int.not_lt.mpr high)]
  exact ofQuotient_of_contains finite nonzero (Nat.pow_pos (by omega)) inside

-- ---------------------------------------------------------------------------
-- Characters
-- ---------------------------------------------------------------------------

theorem isDigit_iff {c : Char} : isDigit c = true ↔ 48 ≤ c.toNat ∧ c.toNat ≤ 57 := by
  simp only [isDigit, Bool.and_eq_true, decide_eq_true_eq]
  exact Iff.rfl

theorem toLower_of_isDigit {c : Char} (h : isDigit c = true) : c.toLower = c := by
  have bounds := isDigit_iff.mp h
  simp only [Char.toLower]
  split
  · rename_i upper
    have least : 65 ≤ c.toNat := UInt32.le_iff_toNat_le.mp upper.1
    omega
  · rfl

theorem isBlank_of_isDigit {c : Char} (h : isDigit c = true) : isBlank c = false := by
  have bounds := isDigit_iff.mp h
  simp only [isBlank]
  simp
  omega

theorem isDigit_of_mem_toDigits {c : Char} (h : c ∈ Nat.toDigits 10 n) : isDigit c = true := by
  have digit := Nat.isDigit_of_mem_toDigits (by decide) (by decide) h
  simp only [Char.isDigit, Bool.and_eq_true, decide_eq_true_eq, ge_iff_le,
    UInt32.le_iff_toNat_le] at digit
  exact isDigit_iff.mpr digit

theorem trim_eq_self (h : ∀ c ∈ digits, isBlank c = false) : trim digits = digits := by
  have drop : ∀ s : List Char, (∀ c ∈ s, isBlank c = false) → dropBlanks s = s := by
    intro s hs
    cases s with
    | nil => rfl
    | cons c s => simp [dropBlanks, hs c (by simp)]
  simp [trim, drop digits h, drop digits.reverse (by simpa using h)]

-- ---------------------------------------------------------------------------
-- Numerals
-- ---------------------------------------------------------------------------

def signText (negative : Bool) : List Char := if negative then ['-'] else []

def pointText (fraction : List Char) : List Char := if fraction = [] then [] else '.' :: fraction

inductive IsExponent : List Char → Int → Prop
  | none : IsExponent [] 0
  | plus (n : Nat) : IsExponent ('e' :: '+' :: Nat.toDigits 10 n) n
  | minus (n : Nat) : IsExponent ('e' :: '-' :: Nat.toDigits 10 n) (-n)

/-- A numeral: digits, a fraction if there is one, an exponent if there is one. -/
structure IsNumeral (whole fraction tail : List Char) (e : Int) : Prop where
  nonempty : whole ≠ []
  whole : ∀ c ∈ whole, isDigit c = true
  fraction : ∀ c ∈ fraction, isDigit c = true
  tail : IsExponent tail e

theorem natOfDigits_eq (digits : List Char) :
    natOfDigits digits = Nat.ofDigitChars 10 digits 0 := rfl

theorem splitDigits_append (all : ∀ c ∈ digits, isDigit c = true)
    (stop : ∀ c ∈ rest.head?, isDigit c = false) :
    splitDigits (digits ++ rest) = (digits, rest) := by
  simp only [splitDigits, List.takeWhile_append_of_pos all, List.dropWhile_append_of_pos all]
  cases rest with
  | nil => simp
  | cons c rest => simp [stop c rfl]

theorem splitSign_of_isDigit (first : isDigit c = true) :
    splitSign (c :: rest) = (false, c :: rest) := by
  have bounds := isDigit_iff.mp first
  simp only [splitSign]
  split
  · simp_all
  · simp_all
  · rfl

theorem splitSign_signText (first : isDigit c = true) :
    splitSign (signText negative ++ c :: rest) = (negative, c :: rest) := by
  cases negative with
  | false => exact splitSign_of_isDigit first
  | true => rfl

theorem exponentPart?_eq (h : IsExponent tail e) : exponentPart? tail = some e := by
  have all (n : Nat) : (Nat.toDigits 10 n).all isDigit = true :=
    List.all_eq_true.mpr fun c hc => isDigit_of_mem_toDigits hc
  cases h with
  | none => rfl
  | plus n => simp [exponentPart?, splitSign, all, natOfDigits_eq]
  | minus n => simp [exponentPart?, splitSign, all, natOfDigits_eq]

theorem isDigit_head_tail (h : IsExponent tail e) : ∀ c ∈ tail.head?, isDigit c = false := by
  cases h <;> simp [isDigit]

theorem word_ne (first : isDigit c = true) (w : String)
    (letter : ∀ d ∈ w.toList.head?, 57 < d.toNat) :
    (String.ofList ((c :: rest).map Char.toLower) == w) = false := by
  refine beq_eq_false_iff_ne.mpr fun same => ?_
  have bounds := isDigit_iff.mp first
  have chars := congrArg String.toList same
  rw [String.toList_ofList, List.map_cons, toLower_of_isDigit first] at chars
  have := letter c (by simp [← chars])
  omega

theorem splitFraction_eq (h : IsNumeral whole fraction tail e) :
    splitFraction (pointText fraction ++ tail) = (fraction, tail) := by
  have stop := isDigit_head_tail h.tail
  by_cases empty : fraction = []
  · rw [pointText, if_pos empty, empty, List.nil_append]
    cases h.tail <;> rfl
  · rw [pointText, if_neg empty]
    exact splitDigits_append h.fraction stop

theorem isDigit_head_pointText (fraction : List Char) (h : IsExponent tail e) :
    ∀ c ∈ (pointText fraction ++ tail).head?, isDigit c = false := by
  by_cases empty : fraction = []
  · rw [pointText, if_pos empty, List.nil_append]
    exact isDigit_head_tail h
  · rw [pointText, if_neg empty]
    simp [isDigit]

theorem ofNumeral?_eq (h : IsNumeral whole fraction tail e) :
    ofNumeral? (signText negative ++ (whole ++ (pointText fraction ++ tail))) =
      some (ofDecimal negative (natOfDigits (whole ++ fraction)) (e - fraction.length)) := by
  have split := splitDigits_append h.whole (isDigit_head_pointText fraction h.tail)
  obtain ⟨c, rest, hbody⟩ : ∃ c rest, whole ++ (pointText fraction ++ tail) = c :: rest :=
    List.exists_cons_of_ne_nil (by simp [h.nonempty])
  have first : isDigit c = true := by
    obtain ⟨d, digits, rfl⟩ := List.exists_cons_of_ne_nil h.nonempty
    obtain rfl : d = c := (List.cons.inj hbody).1
    exact h.whole d (by simp)
  have nonempty : whole.isEmpty = false := by simp [h.nonempty]
  rw [hbody] at split ⊢
  simp only [ofNumeral?, splitSign_signText first, split, splitFraction_eq h, nonempty,
    word_ne first "inf" (by simp), word_ne first "infinity" (by simp),
    word_ne first "nan" (by simp), exponentPart?_eq h.tail, Bool.or_false, Bool.false_and,
    Bool.false_eq_true, if_false, Option.map_some]

theorem isBlank_numeral (h : IsNumeral whole fraction tail e) :
    ∀ c ∈ signText negative ++ (whole ++ (pointText fraction ++ tail)), isBlank c = false := by
  have ofDigits : ∀ digits : List Char, (∀ c ∈ digits, isDigit c = true) →
      ∀ c ∈ digits, isBlank c = false := fun digits all c mem => isBlank_of_isDigit (all c mem)
  have sign : ∀ c ∈ signText negative, isBlank c = false := by
    cases negative <;> simp [signText, isBlank]
  have point : ∀ c ∈ pointText fraction, isBlank c = false := by
    simp only [pointText]
    split
    · simp
    · exact List.forall_mem_cons.mpr ⟨by decide, ofDigits fraction h.fraction⟩
  have exponent : ∀ c ∈ tail, isBlank c = false := by
    have all (n : Nat) := ofDigits (Nat.toDigits 10 n) fun c => isDigit_of_mem_toDigits
    cases h.tail with
    | none => simp
    | plus n =>
      exact List.forall_mem_cons.mpr ⟨by decide, List.forall_mem_cons.mpr ⟨by decide, all n⟩⟩
    | minus n =>
      exact List.forall_mem_cons.mpr ⟨by decide, List.forall_mem_cons.mpr ⟨by decide, all n⟩⟩
  intro c mem
  simp only [List.mem_append] at mem
  rcases mem with mem | mem | mem | mem
  · exact sign c mem
  · exact ofDigits whole h.whole c mem
  · exact point c mem
  · exact exponent c mem

-- ---------------------------------------------------------------------------
-- Layouts
-- ---------------------------------------------------------------------------

/-- A text is a numeral for `k * 10 ^ s`, maybe with more zeros than that. -/
def Spells (text : List Char) (k : Nat) (s : Int) : Prop :=
  ∃ whole fraction tail e, ∃ z : Nat, IsNumeral whole fraction tail e ∧
    text = whole ++ (pointText fraction ++ tail) ∧
    natOfDigits (whole ++ fraction) = k * 10 ^ z ∧ e - fraction.length = s - z

theorem toList_zeros (n : Nat) : (zeros n).toList = List.replicate n '0' := by
  have push : ∀ n : Nat, (n.repeat (fun s => s.push '0') "").toList = List.replicate n '0' := by
    intro n
    induction n with
    | zero => rfl
    | succ n ih => rw [Nat.repeat, String.toList_push, ih, List.replicate_succ']
  exact push n

theorem isDigit_of_mem_zeros (mem : c ∈ List.replicate n '0') : isDigit c = true := by
  rw [List.eq_of_mem_replicate mem]
  rfl

theorem isExponent_text (lead : Int) : IsExponent ('e' ::
    ((if 0 ≤ lead then interchange.positiveExponent else "").toList ++ (toString lead).toList))
    lead := by
  rw [Int.toString_eq_repr, Int.repr_eq_if]
  split
  · have lift : ((lead.toNat : Nat) : Int) = lead := by omega
    have plus := IsExponent.plus lead.toNat
    rw [lift] at plus
    simpa [interchange] using plus
  · have lift : -(((-lead).toNat : Nat) : Int) = lead := by omega
    have minus := IsExponent.minus (-lead).toNat
    rw [lift] at minus
    simpa using minus

section

variable {ds : String} (all : ∀ c ∈ ds.toList, isDigit c = true) (nonempty : ds ≠ "")
  (value : natOfDigits ds.toList = k) (lead : Int)

include all value

theorem zeroPoint_spells (n : Nat) (nonempty : ds ≠ "") :
    Spells ("0." ++ zeros n ++ ds).toList k (-(n + ds.length : Nat)) := by
  refine ⟨['0'], List.replicate n '0' ++ ds.toList, [], 0, 0,
    ⟨by simp, by simp [isDigit], fun c mem => ?_, .none⟩, ?_, ?_, ?_⟩
  · rcases List.mem_append.mp mem with mem | mem
    · exact isDigit_of_mem_zeros mem
    · exact all c mem
  · simp [toList_zeros, pointText, nonempty]
  · rw [← value]
    simp [natOfDigits_eq, Nat.ofDigitChars_append, Nat.ofDigitChars_cons]
  · simp [String.length_toList]

theorem pointZero_spells (n : Nat) (nonempty : ds ≠ "") :
    Spells (ds ++ zeros n ++ ".0").toList k n := by
  refine ⟨ds.toList ++ List.replicate n '0', ['0'], [], 0, n + 1,
    ⟨by simp [nonempty], fun c mem => ?_, by simp [isDigit], .none⟩, ?_, ?_, ?_⟩
  · rcases List.mem_append.mp mem with mem | mem
    · exact all c mem
    · exact isDigit_of_mem_zeros mem
  · simp [toList_zeros, pointText]
  · rw [← value]
    simp [natOfDigits_eq, Nat.ofDigitChars_append, Nat.ofDigitChars_cons, Nat.pow_succ]
    ring
  · simp

theorem splitAt_spells (p : Nat) (front : ds.toList.take p ≠ []) (exponent : IsExponent tail e) :
    Spells (ds.toList.take p ++ (pointText (ds.toList.drop p) ++ tail)) k
      (e - (ds.length - p : Nat)) := by
  refine ⟨_, _, tail, e, 0, ⟨front, fun c mem => all c (List.mem_of_mem_take mem),
    fun c mem => all c (List.mem_of_mem_drop mem), exponent⟩, rfl, ?_, ?_⟩
  · rw [List.take_append_drop, value]
    simp
  · simp [String.length_toList]

include nonempty

/-- The digits with a point behind the one for `10 ^ lead`. -/
theorem positionalText_spells :
    Spells (positionalText interchange ds lead).toList k (lead + 1 - ds.length) := by
  have length : ds.toList.length = ds.length := String.length_toList
  simp only [positionalText]
  split
  · have scale : lead + 1 - ds.length = -((-lead - 1).toNat + ds.length : Nat) := by omega
    rw [scale]
    exact zeroPoint_spells all value (-lead - 1).toNat nonempty
  · split
    · have scale : lead + 1 - ds.length = (lead + 1 - ds.length).toNat := by omega
      rw [scale]
      exact pointZero_spells all value (lead + 1 - ds.length).toNat nonempty
    · have behind : ds.toList.drop (lead + 1).toNat ≠ [] := by
        simp
        omega
      have before : ds.toList.take (lead + 1).toNat ≠ [] := by
        simp [nonempty]
        omega
      have scale : lead + 1 - ds.length = 0 - (ds.length - (lead + 1).toNat : Nat) := by omega
      rw [scale]
      have spells := splitAt_spells all value (lead + 1).toNat before .none
      rw [pointText, if_neg behind] at spells
      simpa using spells

/-- One digit before the point, and `lead` as the exponent. -/
theorem scientificText_spells :
    Spells (scientificText interchange ds lead).toList k (lead + 1 - ds.length) := by
  have some := mt String.length_eq_zero_iff.mp nonempty
  have scale : lead + 1 - ds.length = lead - (ds.length - 1 : Nat) := by omega
  have spells := splitAt_spells all value 1 (by simp [nonempty]) (isExponent_text lead)
  rw [scale]
  by_cases single : ds.toList.drop 1 = []
  · have none : (ds.drop 1).copy = "" := by
      rw [← String.toList_inj, String.toList_copy_drop, single]
      rfl
    simpa [scientificText, pointText, single, none] using spells
  · have more : (ds.drop 1).copy ≠ "" := by
      rw [← String.toList_inj.ne, String.toList_copy_drop]
      exact single
    rw [pointText, if_neg single] at spells
    simpa [scientificText, more] using spells

end

theorem decimal_spells (d : Decimal) : Spells (interchange.decimal d).toList d.digits d.scale := by
  have all : ∀ c ∈ d.digits.repr.toList, isDigit c = true := by
    rw [Nat.toList_repr]
    exact fun _ => isDigit_of_mem_toDigits
  have value : natOfDigits d.digits.repr.toList = d.digits := by
    rw [Nat.toList_repr, natOfDigits_eq, Nat.ofDigitChars_ten_toDigits]
  have scale : d.scale + d.digits.repr.length - 1 + 1 - d.digits.repr.length = d.scale := by omega
  have positional := positionalText_spells all Nat.repr_ne_empty value
    (d.scale + d.digits.repr.length - 1)
  have scientific := scientificText_spells all Nat.repr_ne_empty value
    (d.scale + d.digits.repr.length - 1)
  rw [scale] at positional scientific
  have layout : interchange.positional = some (-5, 15) := rfl
  simp only [Layout.decimal, layout]
  split
  · exact positional
  · exact scientific

theorem ofNumeral?_of_spells {text : List Char} (spells : Spells text k s)
    (finite : x.isFinite = true)
    (nonzero : x.significand ≠ 0) (inside : x.interval.ContainsDecimal k s) :
    ofNumeral? (trim (signText x.isNegative ++ text)) = some x := by
  obtain ⟨whole, fraction, tail, e, z, numeral, rfl, digits, scale⟩ := spells
  rw [trim_eq_self (isBlank_numeral numeral), ofNumeral?_eq numeral, digits, scale]
  exact congrArg some (ofDecimal_of_contains finite nonzero
    ((Interval.containsDecimal_shift z).mpr inside))

-- ---------------------------------------------------------------------------
-- Numbers
-- ---------------------------------------------------------------------------

theorem toDigits_spells (n : Nat) : Spells (Nat.toDigits 10 n) n 0 :=
  ⟨Nat.toDigits 10 n, [], [], 0, 0,
    ⟨Nat.toDigits_ne_nil, fun _ => isDigit_of_mem_toDigits, by simp, .none⟩, by simp [pointText],
    by simp [natOfDigits_eq], by simp⟩

theorem wholePart_eq_zero_iff (integral : x.isIntegral = true) :
    x.wholePart = 0 ↔ x.significand = 0 := by
  have value := wholePart_of_isIntegral integral
  have pos := Nat.two_pow_pos (-x.exponent).toNat
  have pos' := Nat.two_pow_pos x.exponent.toNat
  constructor <;> intro zero
  · simpa [zero, Nat.ne_of_gt pos'] using value.symm
  · simpa [zero, Nat.ne_of_gt pos] using value

theorem isIntegral_of_significand (zero : x.significand = 0) : x.isIntegral = true := by
  have flat := exponent_of_significand_lt (x := x) (by omega)
  have magnitude := x.magnitude_eq_significand
  exact x.isIntegral_iff.mpr ⟨x.isFinite_iff.mpr (by omega), by simp [zero]⟩

theorem exactInt?_eq_some (h : x.exactInt? = some i) :
    x.isIntegral = true ∧ i = if x.isNegative then -(x.wholePart : Int) else x.wholePart := by
  simp only [exactInt?] at h
  split at h
  · rename_i exact
    simp only [Bool.and_eq_true] at exact
    exact ⟨exact.1, (Option.some.inj h).symm⟩
  · simp at h

theorem significand_of_exactInt? (h : x.exactInt? = none) : x.significand ≠ 0 := by
  intro zero
  have integral := isIntegral_of_significand zero
  have whole := (wholePart_eq_zero_iff integral).mpr zero
  simp [exactInt?, integral, whole, exactBound, pow2_eq] at h

theorem toList_repr_int (n : Nat) (nonzero : n ≠ 0) :
    (if negative then -(n : Int) else n).repr.toList = signText negative ++ Nat.toDigits 10 n := by
  cases negative with
  | false => simp [Int.repr_eq_if, signText]
  | true =>
    have below : ¬ (0 : Int) ≤ -(n : Int) := by omega
    simp [Int.repr_eq_if, signText, nonzero]

theorem toList_text_real (finite : x.isFinite = true) (nonzero : x.significand ≠ 0) :
    (interchange.text x).toList =
      signText x.isNegative ++ (interchange.decimal (x.shortest .even)).toList := by
  have notNaN : x.isNaN = false := by
    have below := of_decide_eq_true finite
    exact decide_eq_false (by omega)
  have notZero : x.isZero = false := Bool.eq_false_iff.mpr (mt x.isZero_iff.mp nonzero)
  simp only [Layout.text, notNaN, finite, notZero]
  cases x.isNegative <;> simp [signText, interchange]

theorem text_of_not_finite (h : x.isFinite = false) : (Value.number x).text = "null" := by
  have fraction : x.isIntegral = false := by simp [isIntegral, h]
  simp [Value.text, Value.toJson, toJson, exactInt?, fraction, h, Json.text]

/-- The number without the sign of a zero. -/
def unsigned (x : Number) : Number := if x.isZero then zero else x

theorem unsigned_of_significand (nonzero : x.significand ≠ 0) : x.unsigned = x := by
  simp [unsigned, Bool.eq_false_iff.mpr (mt x.isZero_iff.mp nonzero)]

theorem exactInt?_of_isZero (isZero : x.isZero = true) : x.exactInt? = some 0 := by
  have nothing := x.isZero_iff.mp isZero
  have integral := isIntegral_of_significand nothing
  have whole := (wholePart_eq_zero_iff integral).mpr nothing
  simp [exactInt?, integral, whole, exactBound, toInt, pow2_eq]

theorem text_of_isZero (isZero : x.isZero = true) : (Value.number x).text = "0" := by
  simp only [Value.text, Value.toJson, toJson, exactInt?_of_isZero isZero]
  rfl

/-- The text of a number reads back as the number; only the sign of a zero gets lost. -/
theorem ofNumeral?_text (finite : x.isFinite = true) :
    ofNumeral? (trim (Value.number x).text.toList) = some x.unsigned := by
  cases exact : x.exactInt? with
  | some i =>
    obtain ⟨integral, rfl⟩ := exactInt?_eq_some exact
    by_cases whole : x.wholePart = 0
    · have isZero : x.isZero = true := x.isZero_iff.mpr ((wholePart_eq_zero_iff integral).mp whole)
      rw [text_of_isZero isZero, unsigned, isZero]
      rfl
    · have nonzero := mt (wholePart_eq_zero_iff integral).mpr whole
      have inside : x.interval.ContainsDecimal x.wholePart 0 := by
        have contains := contains_of_eq nonzero Nat.one_pos (wholePart_of_isIntegral integral)
        simpa [Interval.ContainsDecimal] using contains
      have text : (Value.number x).text.toList =
          signText x.isNegative ++ Nat.toDigits 10 x.wholePart := by
        rw [← toList_repr_int _ whole]
        simp only [Value.text, Value.toJson, toJson, exact, Json.text, Int.toString_eq_repr]
      rw [text, ofNumeral?_of_spells (toDigits_spells _) finite nonzero inside,
        unsigned_of_significand nonzero]
  | none =>
    have nonzero := significand_of_exactInt? exact
    have text : (Value.number x).text = interchange.text x := by
      simp [Value.text, Value.toJson, toJson, exact, finite, Json.text]
    rw [text, toList_text_real finite nonzero, ofNumeral?_of_spells (decimal_spells _) finite
      nonzero (shortest_contains finite nonzero .even), unsigned_of_significand nonzero]

theorem text_unsigned (x : Number) : (Value.number x.unsigned).text = (Value.number x).text := by
  rw [unsigned]
  split
  · rename_i isZero
    rw [text_of_isZero isZero, text_of_isZero rfl]
  · rfl

theorem text_ne_empty (x : Number) : (Value.number x).text ≠ "" := by
  cases finite : x.isFinite with
  | false => simp [text_of_not_finite finite]
  | true =>
    intro empty
    have read := ofNumeral?_text finite
    rw [empty] at read
    cases read

end DocStore.Number
