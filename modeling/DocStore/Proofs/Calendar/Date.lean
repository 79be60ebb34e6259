import DocStore.Calendar

/-!
# Days and dates

Every day number has a date, and that date has the day number. Years of a cycle begin in March here
as well, and a year ends with the leap day if the civil year that its last month lies in is a leap
year.
-/

namespace DocStore.Calendar

-- ---------------------------------------------------------------------------
-- The year of a day inside a cycle
-- ---------------------------------------------------------------------------

section Cycle

variable {day year : Int} (low : 0 ≤ day) (high : day < 146097)
  (h : year = (day - day / 1460 + day / 36524 - day / 146096) / 365)

include low high h

theorem year_bounds : 0 ≤ year ∧ year ≤ 399 := by
  subst h
  omega

theorem quarter_of_day : year / 4 = day / 1460 ∨ year / 4 = day / 1460 - 1 := by
  omega

theorem century_of_day : year / 100 = day / 36524 ∨ year / 100 = day / 36524 - 1 := by
  have quarter := quarter_of_day low high h
  omega

theorem dayOfYear_bounds :
    0 ≤ day - (365 * year + year / 4 - year / 100) ∧
      day - (365 * year + year / 4 - year / 100) ≤ 365 := by
  -- only the last day of a cycle has `day / 146096 = 1`
  by_cases last : day = 146096
  · subst last
    omega
  · have : day / 146096 = 0 := by omega
    rcases quarter_of_day low high h with quarter | quarter <;>
      rcases century_of_day low high h with century | century <;> omega

theorem year_of_leapDay (leapDay : day - (365 * year + year / 4 - year / 100) = 365) :
    year % 4 = 3 ∧ (year % 100 ≠ 99 ∨ year = 399) := by
  by_cases last : day = 146096
  · subst last
    omega
  · have : day / 146096 = 0 := by omega
    rcases quarter_of_day low high h with quarter | quarter <;>
      rcases century_of_day low high h with century | century <;> omega

end Cycle

-- ---------------------------------------------------------------------------
-- Dates by cycle, year of the cycle and day of the year
-- ---------------------------------------------------------------------------

namespace Date

/-- Where a day lies. The year begins in March. -/
structure Place where
  cycle : Int
  year : Int
  dayOfYear : Int

structure Place.IsProper (p : Place) : Prop where
  year : 0 ≤ p.year ∧ p.year ≤ 399
  dayOfYear : 0 ≤ p.dayOfYear ∧ p.dayOfYear ≤ 365
  leapDay : p.dayOfYear = 365 → p.year % 4 = 3 ∧ (p.year % 100 ≠ 99 ∨ p.year = 399)

/-- The months since March. -/
def Place.month (p : Place) : Int := (5 * p.dayOfYear + 2) / 153

def Place.date (p : Place) : Date :=
  { year := if p.month < 10 then p.cycle * 400 + p.year else p.cycle * 400 + p.year + 1
    month := (if p.month < 10 then p.month + 3 else p.month - 9).toNat
    day := (p.dayOfYear - (153 * p.month + 2) / 5 + 1).toNat }

def Place.dayNumber (p : Place) : Int :=
  p.cycle * 146097 + p.year * 365 + p.year / 4 - p.year / 100 + p.dayOfYear - 719468

variable {p : Place}

theorem exists_place (n : Int) :
    ∃ p : Place, p.IsProper ∧ p.dayNumber = n ∧ ofDayNumber n = p.date := by
  have low : 0 ≤ (n + 719468) % 146097 := by omega
  have high : (n + 719468) % 146097 < 146097 := by omega
  refine ⟨⟨(n + 719468) / 146097, _, _⟩, ⟨year_bounds low high rfl, dayOfYear_bounds low high rfl,
    year_of_leapDay low high rfl⟩, ?_, rfl⟩
  simp only [Place.dayNumber]
  omega

theorem Place.IsProper.month (h : p.IsProper) : 0 ≤ p.month ∧ p.month ≤ 11 := by
  have := h.dayOfYear
  simp only [Place.month]
  omega

theorem Place.IsProper.month_date (h : p.IsProper) :
    (p.month < 10 → (p.date.month : Int) = p.month + 3) ∧
      (¬ p.month < 10 → (p.date.month : Int) = p.month - 9) := by
  have := h.month
  simp only [Place.date]
  constructor
  · intro early
    rw [if_pos early]
    omega
  · intro late
    rw [if_neg late]
    omega

theorem Place.IsProper.day_date (h : p.IsProper) :
    (p.date.day : Int) = p.dayOfYear - (153 * p.month + 2) / 5 + 1 := by
  have := h.dayOfYear
  simp only [Place.date, Place.month]
  omega

theorem Place.IsProper.dayNumber_date (h : p.IsProper) : p.date.dayNumber = p.dayNumber := by
  obtain ⟨early, late⟩ := h.month_date
  have day := h.day_date
  have month := h.month
  have year := h.year
  have marchYear : (if p.date.month ≤ 2 then p.date.year - 1 else p.date.year)
      = p.cycle * 400 + p.year := by
    by_cases first : p.month < 10
    · have := early first
      rw [if_neg (by omega)]
      exact if_pos first
    · have := late first
      rw [if_pos (by omega), show p.date.year = p.cycle * 400 + p.year + 1 from if_neg first]
      omega
  have sinceMarch : ((p.date.month : Int) + 9) % 12 = p.month := by
    by_cases first : p.month < 10
    · rw [early first]
      omega
    · rw [late first]
      omega
  simp only [Date.dayNumber, Place.dayNumber, marchYear, sinceMarch, day]
  omega

theorem Place.IsProper.isValid_month (h : p.IsProper) :
    1 ≤ p.date.month ∧ p.date.month ≤ 12 := by
  obtain ⟨early, late⟩ := h.month_date
  have month := h.month
  by_cases first : p.month < 10
  · have := early first
    omega
  · have := late first
    omega

theorem Place.IsProper.isLeap_of_day (h : p.IsProper) (february : p.month = 11)
    (last : (p.date.day : Int) = 29) : isLeap p.date.year = true := by
  have day := h.day_date
  have leapDay := h.leapDay (by omega)
  have year : p.date.year = p.cycle * 400 + p.year + 1 := if_neg (by omega)
  simp only [isLeap, year, Bool.and_eq_true, Bool.or_eq_true, beq_iff_eq, bne_iff_ne]
  omega

theorem Place.IsProper.isValid_day (h : p.IsProper) :
    1 ≤ p.date.day ∧ p.date.day ≤ monthLength p.date.year p.date.month := by
  obtain ⟨early, late⟩ := h.month_date
  have day := h.day_date
  have bounds := h.dayOfYear
  have start : p.month = (5 * p.dayOfYear + 2) / 153 := rfl
  refine ⟨by omega, ?_⟩
  simp only [monthLength, beq_iff_eq, Bool.or_eq_true]
  split
  · have february : p.month = 11 := by omega
    split
    · omega
    · rename_i common
      have : (p.date.day : Int) ≠ 29 := fun last => common (h.isLeap_of_day february last)
      omega
  · split <;> omega

/-! ### Every day -/

variable {n : Int}

theorem dayNumber_ofDayNumber (n : Int) : (ofDayNumber n).dayNumber = n := by
  obtain ⟨p, proper, number, date⟩ := exists_place n
  rw [date, proper.dayNumber_date, number]

theorem isValid_ofDayNumber (low : minYear ≤ (ofDayNumber n).year)
    (high : (ofDayNumber n).year ≤ maxYear) : (ofDayNumber n).isValid = true := by
  obtain ⟨p, proper, -, date⟩ := exists_place n
  have month := proper.isValid_month
  have day := proper.isValid_day
  rw [date] at low high ⊢
  simp only [isValid, Bool.and_eq_true, decide_eq_true_eq]
  exact ⟨⟨⟨⟨⟨low, high⟩, month.1⟩, month.2⟩, day.1⟩, day.2⟩

end Date

end DocStore.Calendar
