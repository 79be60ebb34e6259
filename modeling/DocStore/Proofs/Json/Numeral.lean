import DocStore.Json.Numeral
import DocStore.Proofs.Number.Text

/-!
# Numerals read back

A numeral is read up to its end whatever comes after it, as long as that is not more of a numeral.
A whole number that fits is read as itself.
-/

namespace DocStore.Json

open DocStore.Text DocStore.Number

variable {rest s whole fraction tail digits : List Char} {shift e : Int} {g : Gathered}
  {negative : Bool} {n : Nat}

/-- A text that does not go on with a numeral. -/
def Stops (rest : List Char) : Prop :=
  ∀ c ∈ rest.head?, isDigit c = false ∧ c ≠ '.' ∧ c ≠ 'e' ∧ c ≠ 'E'

theorem Stops.digit (stop : Stops rest) : ∀ c ∈ rest.head?, isDigit c = false :=
  fun c mem => (stop c mem).1

theorem stops_nil : Stops [] := by
  simp [Stops]

-- ---------------------------------------------------------------------------
-- Parts
-- ---------------------------------------------------------------------------

theorem gather_append (stop : ∀ c ∈ rest.head?, isDigit c = false) :
    gather shift g (s ++ rest) = ((gather shift g s).1, (gather shift g s).2 ++ rest) := by
  induction s generalizing g with
  | nil =>
    cases rest with
    | nil => rfl
    | cons c rest => simp [gather, stop c rfl]
  | cons c s ih =>
    rw [List.cons_append, gather, gather]
    split
    · exact ih
    · rfl

/-- What is left of digits is digits. -/
theorem isDigit_of_mem_gather (all : ∀ c ∈ s, isDigit c = true) :
    ∀ c ∈ (gather shift g s).2, isDigit c = true := by
  induction s generalizing g with
  | nil => simp [gather]
  | cons c s ih =>
    rw [gather]
    split
    · exact ih (List.forall_mem_cons.mp all).2
    · exact all

theorem splitDigits_self (all : ∀ c ∈ digits, isDigit c = true) :
    splitDigits digits = (digits, []) := by
  have stop : ∀ c ∈ ([] : List Char).head?, isDigit c = false := by simp
  simpa using splitDigits_append all stop

theorem dropWhile_append (all : ∀ c ∈ digits, isDigit c = true)
    (stop : ∀ c ∈ rest.head?, isDigit c = false) : (digits ++ rest).dropWhile isDigit = rest :=
  congrArg Prod.snd (splitDigits_append all stop)

/-- The outcome of a reader, with another text left. -/
def leaving (rest : List Char) (read : Option (Json × List Char)) : Option (Json × List Char) :=
  read.map fun r => (r.1, rest)

theorem finishExponent_append {sign : Char} (signed : sign = '+' ∨ sign = '-')
    (all : ∀ c ∈ digits, isDigit c = true) (stop : ∀ c ∈ rest.head?, isDigit c = false) :
    finishExponent negative g (sign :: (digits ++ rest)) =
      leaving rest (finishExponent negative g (sign :: digits)) := by
  rcases signed with rfl | rfl <;>
    simp only [finishExponent, splitDigits_append all stop, splitDigits_self all] <;>
    repeat' split
  all_goals first | rfl | simp [leaving]

theorem finishReal_append (exponent : IsExponent tail e) (stop : Stops rest) :
    finishReal negative g (tail ++ rest) = leaving rest (finishReal negative g tail) := by
  cases exponent with
  | none =>
    cases rest with
    | nil => simp [finishReal, leaving]
    | cons c rest =>
      obtain ⟨-, -, lower, upper⟩ := stop c rfl
      simp [finishReal, leaving, lower, upper]
  | plus n =>
    have all : ∀ c ∈ Nat.toDigits 10 n, isDigit c = true := fun _ => isDigit_of_mem_toDigits
    exact finishExponent_append (.inl rfl) all stop.digit
  | minus n =>
    have all : ∀ c ∈ Nat.toDigits 10 n, isDigit c = true := fun _ => isDigit_of_mem_toDigits
    exact finishExponent_append (.inr rfl) all stop.digit

theorem stop_tail (exponent : IsExponent tail e) (stop : Stops rest) :
    ∀ c ∈ (tail ++ rest).head?, isDigit c = false := by
  cases exponent with
  | none => exact stop.digit
  | _ => simp [isDigit]

theorem finishFraction_append (nonempty : fraction ≠ []) (all : ∀ c ∈ fraction, isDigit c = true)
    (exponent : IsExponent tail e) (stop : Stops rest) :
    finishFraction negative g (fraction ++ (tail ++ rest)) =
      leaving rest (finishFraction negative g (fraction ++ tail)) := by
  have stop' := stop_tail exponent stop
  have stop'' : ∀ c ∈ tail.head?, isDigit c = false := by
    simpa using stop_tail exponent stops_nil
  have left : ∀ c ∈ (gather (-1) g fraction).2, isDigit c = true := isDigit_of_mem_gather all
  obtain ⟨c, fraction, rfl⟩ := List.exists_cons_of_ne_nil nonempty
  have first := all c (.head _)
  simp only [finishFraction, List.cons_append, first, if_true]
  rw [← List.cons_append, ← List.cons_append, gather_append stop', gather_append stop'']
  simp only [dropWhile_append left stop', dropWhile_append left stop'']
  exact finishReal_append exponent stop

-- ---------------------------------------------------------------------------
-- Numerals
-- ---------------------------------------------------------------------------

/-- What becomes of the digits in front, given what comes after them and whether some of them did
not fit. -/
def finishWhole (negative : Bool) (g : Gathered) (long : Bool) (s : List Char) :
    Option (Json × List Char) :=
  match s with
  | '.' :: rest => finishFraction negative g rest
  | c :: _ =>
    if c == 'e' || c == 'E' || long then finishReal negative g s
    else some (Json.whole negative g.significand, s)
  | [] =>
    if long then finishReal negative g s else some (Json.whole negative g.significand, s)

/-- A zero in front of other digits. -/
def isPadded (digits : List Char) : Bool :=
  digits.head? == some '0' && digits.tail.head?.any isDigit

theorem readNumeral_eq (nonempty : digits ≠ []) (all : ∀ c ∈ digits, isDigit c = true)
    (stop : ∀ c ∈ rest.head?, isDigit c = false) :
    readNumeral negative (digits ++ rest) =
      if isPadded digits then none
      else
        let (g, extra) := gather 0 ⟨0, 0⟩ digits
        finishWhole negative { g with exponent := extra.length } (!extra.isEmpty) rest := by
  obtain ⟨c, more, rfl⟩ := List.exists_cons_of_ne_nil nonempty
  have left : ∀ d ∈ (gather 0 ⟨0, 0⟩ (c :: more)).2, isDigit d = true := isDigit_of_mem_gather all
  have second : (more ++ rest).head?.any isDigit = more.head?.any isDigit := by
    cases more with
    | nil => cases rest <;> simp_all
    | cons d more => rfl
  have padded : isPadded (c :: more) = (c == '0' && more.head?.any isDigit) := by
    simp [isPadded]
  rw [readNumeral, gather_append stop]
  simp only [List.cons_append, all c (.head _), Bool.not_true, Bool.false_eq_true, if_false, second,
    splitDigits_append left stop, padded]
  split
  · rfl
  · unfold finishWhole
    rfl

theorem finishWhole_of_stops {long : Bool} (stop : Stops rest) :
    finishWhole negative g long rest =
      if long then finishReal negative g rest
      else some (Json.whole negative g.significand, rest) := by
  cases rest with
  | nil => rfl
  | cons c rest =>
    obtain ⟨-, point, lower, upper⟩ := stop c rfl
    unfold finishWhole
    split
    · simp_all
    · simp_all
    · simp_all

theorem finishWhole_append {long : Bool} (all : ∀ c ∈ fraction, isDigit c = true)
    (exponent : IsExponent tail e) (stop : Stops rest) :
    finishWhole negative g long (pointText fraction ++ (tail ++ rest)) =
      leaving rest (finishWhole negative g long (pointText fraction ++ tail)) := by
  by_cases empty : fraction = []
  · have real : finishReal negative g (tail ++ rest) = leaving rest (finishReal negative g tail) :=
      finishReal_append exponent stop
    simp only [pointText, if_pos empty, List.nil_append]
    cases exponent with
    | none =>
      rw [List.nil_append, finishWhole_of_stops stop, finishWhole_of_stops stops_nil]
      cases long with
      | true => exact real
      | false => rfl
    | _ => exact real
  · simp only [pointText, if_neg empty, List.cons_append, finishWhole]
    exact finishFraction_append empty all exponent stop

/-- A numeral is read to its end. -/
theorem readNumeral_append (numeral : IsNumeral whole fraction tail e) (stop : Stops rest) :
    readNumeral negative (whole ++ (pointText fraction ++ (tail ++ rest))) =
      leaving rest (readNumeral negative (whole ++ (pointText fraction ++ tail))) := by
  have behind := isDigit_head_pointText fraction numeral.tail
  have behind' : ∀ c ∈ (pointText fraction ++ (tail ++ rest)).head?, isDigit c = false := by
    by_cases empty : fraction = []
    · simpa only [pointText, if_pos empty, List.nil_append] using stop_tail numeral.tail stop
    · simp [pointText, empty, isDigit]
  rw [readNumeral_eq numeral.nonempty numeral.whole behind',
    readNumeral_eq numeral.nonempty numeral.whole behind]
  split
  · rfl
  · exact finishWhole_append numeral.fraction numeral.tail stop

-- ---------------------------------------------------------------------------
-- Whole numbers
-- ---------------------------------------------------------------------------

theorem le_ofDigitChars (digits : List Char) (init : Nat) :
    init ≤ Nat.ofDigitChars 10 digits init := by
  rw [Nat.ofDigitChars_eq_ofDigitChars_zero]
  have := Nat.le_mul_of_pos_left init (Nat.pow_pos (n := digits.length) (by decide : 0 < 10))
  omega

/-- Digits that fit a word are all gathered. -/
theorem gather_of_fits (all : ∀ c ∈ digits, isDigit c = true)
    (small : Nat.ofDigitChars 10 digits g.significand < 2 ^ 64) :
    gather 0 g digits = (⟨Nat.ofDigitChars 10 digits g.significand, g.exponent⟩, []) := by
  induction digits generalizing g with
  | nil => rfl
  | cons c digits ih =>
    rw [Nat.ofDigitChars_cons] at small ⊢
    have fit : fits g.significand c = true :=
      decide_eq_true (Nat.lt_of_le_of_lt (le_ofDigitChars digits _) small)
    rw [gather, all c (.head _), fit, Bool.and_self, if_pos rfl,
      ih (fun d mem => all d (.tail _ mem)) small]
    simp [digitValue]

theorem head?_toDigits (pos : n ≠ 0) : (Nat.toDigits 10 n).head? ≠ some '0' := by
  induction n using Nat.strong_induction_on with
  | _ n ih =>
    rw [Nat.toDigits_eq_if (by decide)]
    split
    · rename_i small
      interval_cases n <;> simp_all [Nat.digitChar]
    · have front := ih (n / 10) (by omega) (by omega)
      rwa [List.head?_append_of_ne_nil _ Nat.toDigits_ne_nil]

theorem isPadded_toDigits (n : Nat) : isPadded (Nat.toDigits 10 n) = false := by
  rw [Nat.toDigits_eq_if (by decide)]
  split
  · simp [isPadded]
  · have front := head?_toDigits (n := n / 10) (by omega)
    simp [isPadded, List.head?_append_of_ne_nil _ Nat.toDigits_ne_nil, front]

/-- A whole number that fits a word is read as itself. -/
theorem readNumeral_toDigits (small : n < 2 ^ 64) (stop : Stops rest) :
    readNumeral negative (Nat.toDigits 10 n ++ rest) = some (Json.whole negative n, rest) := by
  have all : ∀ c ∈ Nat.toDigits 10 n, isDigit c = true := fun _ => isDigit_of_mem_toDigits
  have value : Nat.ofDigitChars 10 (Nat.toDigits 10 n) 0 = n := Nat.ofDigitChars_ten_toDigits
  have gathered := gather_of_fits (g := ⟨0, 0⟩) all (by simpa only [value] using small)
  rw [readNumeral_eq Nat.toDigits_ne_nil all stop.digit, isPadded_toDigits, gathered, value]
  exact finishWhole_of_stops stop

end DocStore.Json
