import DocStore.Calendar.Stamp
import DocStore.Proofs.Calendar.Date
import DocStore.Proofs.Text.Digits

/-!
# Time stamps read back

The strict form of an instant in whole milliseconds, of a year that has four digits, stands for that
instant again.
-/

namespace DocStore.Instant

open DocStore.Text

variable {t : Instant} {width n : Nat} {rest : List Char}

-- ---------------------------------------------------------------------------
-- Numbers of a fixed width
-- ---------------------------------------------------------------------------

theorem fixedNumber_padded (pos : 0 < width) (fits : n < 10 ^ width) :
    fixedNumber width ((padded width n).toList ++ rest) = some (n, rest) := by
  have length := length_padded pos fits
  have digits : (padded width n).toList.all isDigit = true :=
    List.all_eq_true.mpr (isDigit_padded width n)
  simp only [fixedNumber, List.take_left' length, List.drop_left' length, length, digits,
    natOfDigits_padded, beq_self_eq_true, Bool.and_self, if_true]

theorem fraction_padded (fits : n < 1000) :
    fraction ('.' :: ((padded 3 n).toList ++ 'Z' :: rest)) = some (n * 1000000, 'Z' :: rest) := by
  have length : (padded 3 n).toList.length = 3 := length_padded (by omega) fits
  have digits : splitDigits ((padded 3 n).toList ++ 'Z' :: rest)
      = ((padded 3 n).toList, 'Z' :: rest) :=
    Number.splitDigits_append (isDigit_padded 3 n) (by simp [isDigit])
  have nonempty : (padded 3 n).toList.isEmpty = false := by
    cases h : (padded 3 n).toList <;> simp_all
  have kept : (padded 3 n).toList.take 9 = (padded 3 n).toList :=
    List.take_of_length_le (by omega)
  simp only [fraction, digits, kept, nonempty, length, natOfDigits_padded]
  rfl

-- ---------------------------------------------------------------------------
-- The strict form
-- ---------------------------------------------------------------------------

/-- A whole number of milliseconds in a year of four digits. Only the last second of a minute can
be followed by a leap second. -/
structure IsStamped (t : Instant) : Prop where
  millis : t.nanos % 1000000 = 0
  nanos : t.nanos < 2 * billion
  leap : billion ≤ t.nanos → t.seconds % 60 = 59
  year : 0 ≤ (Calendar.Date.ofDayNumber t.dayNumber).year ∧
    (Calendar.Date.ofDayNumber t.dayNumber).year ≤ 9999

/-- The fields of an instant, as its text shows them. -/
def stamp (t : Instant) : Stamp :=
  let s := (t.seconds % secondsPerDay).toNat
  { date := Calendar.Date.ofDayNumber t.dayNumber
    hour := s / 3600
    minute := s / 60 % 60
    second := s % 60 + if billion ≤ t.nanos then 1 else 0
    nanos := t.nanos - if billion ≤ t.nanos then billion else 0 }

def Stamp.chars (s : Stamp) : List Char :=
  (padded 4 s.date.year.toNat).toList ++ '-' :: ((padded 2 s.date.month).toList ++ '-' ::
    ((padded 2 s.date.day).toList ++ 'T' :: ((padded 2 s.hour).toList ++ ':' ::
      ((padded 2 s.minute).toList ++ ':' :: ((padded 2 s.second).toList ++ '.' ::
        ((padded 3 (s.nanos / 1000000)).toList ++ ['Z']))))))

theorem toList_text (stamped : t.IsStamped) : t.text.toList = t.stamp.chars := by
  have year : yearText (Calendar.Date.ofDayNumber t.dayNumber).year
      = padded 4 (Calendar.Date.ofDayNumber t.dayNumber).year.toNat := by
    simp [yearText, stamped.year.1, stamped.year.2]
  simp [text, year, stamp, Stamp.chars]

theorem bind_of_eq_some {α β : Type} {x : Option α} {a : α} (h : x = some a)
    (f : α → Option β) : x >>= f = f a := by
  rw [h]
  rfl

theorem mark_self {c : Char} : mark c (c :: rest) = some rest := by
  simp [mark]

/-- The fields of a stamp fit into the widths of its text. -/
structure Stamp.Fits (s : Stamp) : Prop where
  year : 0 ≤ s.date.year ∧ s.date.year ≤ 9999
  month : s.date.month < 100
  day : s.date.day < 100
  hour : s.hour < 100
  minute : s.minute < 100
  second : s.second < 100
  nanos : s.nanos < 1000 * 1000000

theorem ofStrict?_chars {s : Stamp} (fits : s.Fits) (millis : s.nanos % 1000000 = 0)
    (utc : s.offset = 0) : ofStrict? s.chars = s.toInstant? := by
  obtain ⟨year, month, day, hour, minute, second, nanos⟩ := fits
  have four : ∀ rest, fixedNumber 4 ((padded 4 s.date.year.toNat).toList ++ rest)
      = some (s.date.year.toNat, rest) := fun _ => fixedNumber_padded (by omega) (by omega)
  have two : ∀ n < 100, ∀ rest, fixedNumber 2 ((padded 2 n).toList ++ rest) = some (n, rest) :=
    fun n fits _ => fixedNumber_padded (by omega) fits
  have part : ∀ rest, fraction ('.' :: ((padded 3 (s.nanos / 1000000)).toList ++ 'Z' :: rest))
      = some (s.nanos, 'Z' :: rest) := by
    intro rest
    rw [fraction_padded (by omega), show s.nanos / 1000000 * 1000000 = s.nanos by omega]
  have same : s = { s with date := { s.date with year := s.date.year.toNat }, offset := 0 } := by
    obtain ⟨⟨y, mo, d⟩, h, mi, sec, ns, offset⟩ := s
    simp_all
  have zulu : zone ['Z'] = some (0, []) := rfl
  refine Eq.trans ?_ (congrArg Stamp.toInstant? same.symm)
  rw [ofStrict?, Stamp.chars]
  refine (bind_of_eq_some (four _) _).trans ?_
  refine (bind_of_eq_some mark_self _).trans ?_
  refine (bind_of_eq_some (two _ month _) _).trans ?_
  refine (bind_of_eq_some mark_self _).trans ?_
  refine (bind_of_eq_some (two _ day _) _).trans ?_
  dsimp only
  rw [if_pos (by decide)]
  refine (bind_of_eq_some rfl _).trans ?_
  refine (bind_of_eq_some (two _ hour _) _).trans ?_
  refine (bind_of_eq_some mark_self _).trans ?_
  refine (bind_of_eq_some (two _ minute _) _).trans ?_
  refine (bind_of_eq_some mark_self _).trans ?_
  refine (bind_of_eq_some (two _ second _) _).trans ?_
  refine (bind_of_eq_some (part _) _).trans ?_
  exact bind_of_eq_some zulu _

theorem stamp_isValid (stamped : t.IsStamped) : t.stamp.date.isValid = true := by
  have year := stamped.year
  refine Calendar.Date.isValid_ofDayNumber ?_ ?_ <;>
    simp only [Calendar.minYear, Calendar.maxYear] <;> omega

theorem stamp_hour (t : Instant) : t.stamp.hour = (t.seconds % 86400).toNat / 3600 := rfl

theorem stamp_minute (t : Instant) : t.stamp.minute = (t.seconds % 86400).toNat / 60 % 60 := rfl

/-- A leap second is shown as second 60. -/
theorem stamp_second (stamped : t.IsStamped) :
    t.stamp.second = if billion ≤ t.nanos then 60 else (t.seconds % 86400).toNat % 60 := by
  have leap := stamped.leap
  simp only [stamp, secondsPerDay]
  split
  · have := leap (by assumption)
    omega
  · omega

theorem stamp_nanos (t : Instant) :
    t.stamp.nanos = t.nanos - if billion ≤ t.nanos then billion else 0 := rfl

theorem stamp_toInstant? (stamped : t.IsStamped) : t.stamp.toInstant? = some t := by
  have valid := stamp_isValid stamped
  have number : t.stamp.date.dayNumber = t.seconds / 86400 :=
    Calendar.Date.dayNumber_ofDayNumber _
  have hour := t.stamp_hour
  have minute := t.stamp_minute
  have second := stamp_second stamped
  have fits : (t.stamp.hour < 24 ∧ t.stamp.minute < 60) ∧ t.stamp.second ≤ 60 := by
    refine ⟨by omega, ?_⟩
    split at second <;> omega
  simp only [Stamp.toInstant?, valid, fits, Bool.true_and, decide_true, if_true, number,
    secondsPerDay, stamp_nanos, show t.stamp.offset = 0 from rfl]
  by_cases leap : billion ≤ t.nanos
  · have last := stamped.leap leap
    have seconds : t.seconds / 86400 * 86400 + (t.stamp.hour : Int) * 3600
        + (t.stamp.minute : Int) * 60 + (59 : Nat) - 0 = t.seconds := by omega
    rw [if_pos leap] at second
    simp only [second, leap, if_true, beq_self_eq_true]
    rw [seconds, Nat.sub_add_cancel leap]
  · rw [if_neg leap] at second
    have short : (t.stamp.second == 60) = false := beq_eq_false_iff_ne.mpr (by omega)
    have seconds : t.seconds / 86400 * 86400 + (t.stamp.hour : Int) * 3600
        + (t.stamp.minute : Int) * 60 + (t.stamp.second : Int) - 0 = t.seconds := by omega
    simp only [short, leap, if_false, Bool.false_eq_true, Nat.sub_zero, Nat.add_zero]
    rw [seconds]

theorem isBlank_chars (s : Stamp) : ∀ c ∈ s.chars, isBlank c = false := by
  have digits : ∀ width n, ∀ c ∈ (padded width n).toList, isBlank c = false :=
    fun width n c mem => Number.isBlank_of_isDigit (isDigit_padded width n c mem)
  simp only [Stamp.chars, List.forall_mem_append, List.forall_mem_cons]
  exact ⟨digits _ _, rfl, digits _ _, rfl, digits _ _, rfl, digits _ _, rfl, digits _ _, rfl,
    digits _ _, rfl, digits _ _, rfl, by simp⟩

theorem stamp_fits (stamped : t.IsStamped) : t.stamp.Fits := by
  have valid := stamp_isValid stamped
  simp only [Calendar.Date.isValid, Bool.and_eq_true, decide_eq_true_eq] at valid
  have days : ∀ year month, Calendar.monthLength year month ≤ 31 := by
    intro year month
    simp only [Calendar.monthLength]
    split <;> split <;> omega
  have day := days t.stamp.date.year t.stamp.date.month
  have hour := t.stamp_hour
  have minute := t.stamp_minute
  have second := stamp_second stamped
  have nanos := t.stamp_nanos
  have bound := stamped.nanos
  have unit : billion = 1000000000 := rfl
  refine ⟨stamped.year, by omega, by omega, by omega, by omega, ?_, ?_⟩
  · split at second <;> omega
  · split at nanos <;> omega

theorem stamp_millis (stamped : t.IsStamped) : t.stamp.nanos % 1000000 = 0 := by
  have whole := stamped.millis
  have unit : billion = 1000000000 := rfl
  rw [stamp_nanos]
  split <;> omega

/-- The text of an instant is read as that instant. -/
theorem ofText?_text (stamped : t.IsStamped) : ofText? t.text = some t := by
  have strict : ofStrict? t.stamp.chars = some t := by
    rw [ofStrict?_chars (stamp_fits stamped) (stamp_millis stamped) rfl, stamp_toInstant? stamped]
  rw [ofText?, toList_text stamped, Number.trim_eq_self (isBlank_chars _)]
  simp only [strict]
  rfl

end DocStore.Instant
