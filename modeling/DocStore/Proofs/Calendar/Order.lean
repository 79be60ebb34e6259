import DocStore.Proofs.Calendar.Signed
import DocStore.Proofs.Text.Bytes
import Mathlib.Order.Monotone.Basic

/-!
# The order of time stamps

Days come in the order of their dates, and instants in the order of the fields that their texts
show. The fields have fixed widths, so the texts come in that order as well, byte by byte.
-/

namespace DocStore

namespace Calendar.Date

/-- The order of dates: by year, then by month, then by day. -/
def order (d e : Date) : Ordering :=
  (compare d.year e.year).then ((compare d.month e.month).then (compare d.day e.day))

theorem order_eq_lt {d e : Date} : d.order e = .lt ↔
    d.year < e.year ∨ d.year = e.year ∧
      (d.month < e.month ∨ d.month = e.month ∧ d.day < e.day) := by
  simp only [order, Ordering.then_eq_lt, Std.compare_eq_lt, Std.compare_eq_iff_eq]

theorem order_swap (d e : Date) : e.order d = (d.order e).swap := by
  simp only [order, Ordering.swap_then, ← Std.OrientedOrd.eq_swap]

-- ---------------------------------------------------------------------------
-- Places in the calendar
-- ---------------------------------------------------------------------------

/-- The days before a year that begins in March, from the first March of the calendar on. -/
def daysBefore (year : Int) : Int := 365 * year + year / 4 - year / 100 + year / 400

theorem daysBefore_succ (year : Int) : daysBefore year + 365 ≤ daysBefore (year + 1) := by
  have hundredth : (year + 1) / 100 - year / 100 ≤ (year + 1) / 4 - year / 4 := by omega
  simp only [daysBefore]
  omega

theorem daysBefore_succ_of_leap (year : Int) (fourth : year % 4 = 3)
    (leap : year % 100 ≠ 99 ∨ year % 400 = 399) :
    daysBefore year + 366 ≤ daysBefore (year + 1) := by
  simp only [daysBefore]
  omega

theorem daysBefore_mono : Monotone daysBefore :=
  monotone_int_of_le_succ fun year => by
    have := daysBefore_succ year
    omega

variable {p q : Place} {n m : Int}

/-- The years from the first March of the calendar on. -/
def Place.years (p : Place) : Int := p.cycle * 400 + p.year

theorem Place.IsProper.dayNumber_eq (h : p.IsProper) :
    p.dayNumber = daysBefore p.years + p.dayOfYear - 719468 := by
  have year := h.year
  simp only [Place.dayNumber, daysBefore, Place.years]
  omega

/-- A day lies before the first one of the next year. -/
theorem Place.IsProper.dayNumber_lt (h : p.IsProper) :
    daysBefore p.years + p.dayOfYear < daysBefore (p.years + 1) := by
  have next := daysBefore_succ p.years
  have bounds := h.dayOfYear
  by_cases last : p.dayOfYear = 365
  · obtain ⟨fourth, leap⟩ := h.leapDay last
    have year := h.year
    have same : p.years % 4 = p.year % 4 ∧ p.years % 100 = p.year % 100 ∧
        p.years % 400 = p.year := by
      simp only [Place.years]
      omega
    have next := daysBefore_succ_of_leap p.years (by omega) (by omega)
    omega
  · omega

/-- The earlier of two days lies in an earlier year, or earlier in the same one. -/
theorem Place.IsProper.lt_of_dayNumber (h : p.IsProper) (h' : q.IsProper)
    (less : p.dayNumber < q.dayNumber) :
    p.years < q.years ∨ p.years = q.years ∧ p.dayOfYear < q.dayOfYear := by
  rw [h.dayNumber_eq, h'.dayNumber_eq] at less
  rcases Int.lt_trichotomy p.years q.years with before | same | after
  · exact .inl before
  · rw [same] at less
    exact .inr ⟨same, by omega⟩
  · have mono := daysBefore_mono (Int.add_one_le_of_lt after)
    have inside := h'.dayNumber_lt
    have bounds := h.dayOfYear
    omega

theorem Place.month_mono (less : p.dayOfYear < q.dayOfYear) :
    p.month < q.month ∨ p.month = q.month ∧
      p.dayOfYear - (153 * p.month + 2) / 5 < q.dayOfYear - (153 * q.month + 2) / 5 := by
  have mono : p.month ≤ q.month := by
    simp only [Place.month]
    omega
  rcases Int.lt_or_eq_of_le mono with before | same
  · exact .inl before
  · rw [same]
    exact .inr ⟨rfl, by omega⟩

theorem Place.year_date (p : Place) :
    (p.month < 10 → p.date.year = p.years) ∧ (¬ p.month < 10 → p.date.year = p.years + 1) :=
  ⟨fun early => if_pos early, fun late => if_neg late⟩

/-- Its date comes before that of the later one. -/
theorem Place.IsProper.order_date (h : p.IsProper) (h' : q.IsProper)
    (less : p.dayNumber < q.dayNumber) : p.date.order q.date = .lt := by
  obtain ⟨early, late⟩ := h.month_date
  obtain ⟨early', late'⟩ := h'.month_date
  obtain ⟨yearEarly, yearLate⟩ := p.year_date
  obtain ⟨yearEarly', yearLate'⟩ := q.year_date
  have month := h.month
  have month' := h'.month
  rw [order_eq_lt]
  rcases h.lt_of_dayNumber h' less with before | ⟨same, before⟩
  · omega
  · have day := h.day_date
    have day' := h'.day_date
    rcases Place.month_mono before with sooner | ⟨same', sooner⟩
    · omega
    · rw [same'] at early late yearEarly yearLate day sooner
      omega

/-- Days come in the order of their dates. -/
theorem order_ofDayNumber (n m : Int) :
    (ofDayNumber n).order (ofDayNumber m) = compare n m := by
  have before : ∀ n m, n < m → (ofDayNumber n).order (ofDayNumber m) = .lt := by
    intro n m less
    obtain ⟨p, proper, number, date⟩ := exists_place n
    obtain ⟨q, proper', number', date'⟩ := exists_place m
    rw [date, date']
    exact proper.order_date proper' (by omega)
  rcases Int.lt_trichotomy n m with less | rfl | more
  · rw [before n m less, Std.compare_eq_lt.mpr less]
  · simp [order]
  · rw [order_swap, before m n more, Std.compare_eq_gt.mpr more]
    rfl

end Calendar.Date

namespace Instant

open DocStore.Text

variable {t u : Instant}

-- ---------------------------------------------------------------------------
-- The fields of a stamp
-- ---------------------------------------------------------------------------

/-- The order of stamps, field by field. Of a fraction the milliseconds count. -/
def Stamp.order (a b : Stamp) : Ordering :=
  (a.date.order b.date).then ((compare a.hour b.hour).then ((compare a.minute b.minute).then
    ((compare a.second b.second).then (compare (a.nanos / 1000000) (b.nanos / 1000000)))))

theorem Stamp.order_swap (a b : Stamp) : b.order a = (a.order b).swap := by
  simp only [order, Ordering.swap_then, ← a.date.order_swap, ← Std.OrientedOrd.eq_swap]

theorem order_eq_lt : t.order u = .lt ↔
    t.seconds < u.seconds ∨ t.seconds = u.seconds ∧ t.nanos < u.nanos := by
  simp only [order, Ordering.then_eq_lt, Std.compare_eq_lt, Std.compare_eq_iff_eq]

theorem stamp_date_order (t u : Instant) :
    t.stamp.date.order u.stamp.date = compare t.dayNumber u.dayNumber :=
  Calendar.Date.order_ofDayNumber ..

/-- The second of a minute and the part of it, with second 60 after second 59. -/
theorem stamp_second_lt (stamped : t.IsStamped) (stamped' : u.IsStamped)
    (before : (t.seconds % 86400).toNat % 60 < (u.seconds % 86400).toNat % 60 ∨
      (t.seconds % 86400).toNat % 60 = (u.seconds % 86400).toNat % 60 ∧ t.nanos < u.nanos) :
    t.stamp.second < u.stamp.second ∨ t.stamp.second = u.stamp.second ∧
      t.stamp.nanos / 1000000 < u.stamp.nanos / 1000000 := by
  have unit : billion = 1000000000 := rfl
  have leap := stamped.leap
  have leap' := stamped'.leap
  have whole := stamped.millis
  have whole' := stamped'.millis
  rw [stamp_second stamped, stamp_second stamped', stamp_nanos, stamp_nanos]
  split <;> split <;> omega

/-- An instant has earlier fields than a later one. -/
theorem stamp_order_of_lt (stamped : t.IsStamped) (stamped' : u.IsStamped)
    (before : t.order u = .lt) : t.stamp.order u.stamp = .lt := by
  have date := stamp_date_order t u
  simp only [dayNumber, secondsPerDay] at date
  rw [order_eq_lt] at before
  simp only [Stamp.order, Ordering.then_eq_lt, Std.compare_eq_lt, Std.compare_eq_iff_eq, date]
  by_cases day : t.seconds / 86400 < u.seconds / 86400
  · exact .inl day
  · refine .inr ⟨by omega, ?_⟩
    simp only [stamp_hour, stamp_minute]
    by_cases minute : (t.seconds % 86400).toNat / 60 < (u.seconds % 86400).toNat / 60
    · omega
    · have last := stamp_second_lt stamped stamped' (by omega)
      omega

/-- Instants come in the order of their fields. -/
theorem stamp_order (stamped : t.IsStamped) (stamped' : u.IsStamped) :
    t.stamp.order u.stamp = t.order u := by
  cases order : t.order u with
  | lt => exact stamp_order_of_lt stamped stamped' order
  | eq =>
    obtain rfl := order_eq_iff.mp order
    simp [Stamp.order, Calendar.Date.order]
  | gt =>
    have before : u.order t = .lt := by rw [t.order_swap, order]; rfl
    rw [u.stamp.order_swap, stamp_order_of_lt stamped' stamped before]
    rfl

-- ---------------------------------------------------------------------------
-- The text of a stamp
-- ---------------------------------------------------------------------------

theorem Stamp.Fits.orderChars {a b : Stamp} (fits : a.Fits) (fits' : b.Fits) :
    orderChars a.chars b.chars = a.order b := by
  have year : compare a.date.year.toNat b.date.year.toNat = compare a.date.year b.date.year := by
    have := fits.year
    have := fits'.year
    exact compare_congr (by omega) (by omega)
  have millis : ∀ {s : Stamp}, s.Fits → s.nanos / 1000000 < 10 ^ 3 := by
    intro s fits
    have := fits.nanos
    omega
  have four : ∀ {s : Stamp}, s.Fits → s.date.year.toNat < 10 ^ 4 := by
    intro s fits
    have := fits.year
    omega
  simp only [chars, orderChars_cons,
    orderChars_padded_append 4 (by decide) (four fits) (four fits'),
    orderChars_padded_append 2 (by decide) fits.month fits'.month,
    orderChars_padded_append 2 (by decide) fits.day fits'.day,
    orderChars_padded_append 2 (by decide) fits.hour fits'.hour,
    orderChars_padded_append 2 (by decide) fits.minute fits'.minute,
    orderChars_padded_append 2 (by decide) fits.second fits'.second,
    orderChars_padded_append 3 (by decide) (millis fits) (millis fits'),
    year, order, Calendar.Date.order, Ordering.then_assoc]
  simp [Text.orderChars, List.compareLex_nil_nil]

theorem isAscii_chars (s : Stamp) : ∀ c ∈ s.chars, IsAscii c := by
  simp only [Stamp.chars, List.forall_mem_append, List.forall_mem_cons]
  have mark : ∀ {c : Char}, c.toNat < 128 → IsAscii c := id
  exact ⟨isAscii_padded _ _, mark (by decide), isAscii_padded _ _, mark (by decide),
    isAscii_padded _ _, mark (by decide), isAscii_padded _ _, mark (by decide),
    isAscii_padded _ _, mark (by decide), isAscii_padded _ _, mark (by decide),
    isAscii_padded _ _, mark (by decide), by simp⟩

/-- Texts of instants come, byte by byte, in the order of the instants. -/
theorem orderBytes_text (stamped : t.IsStamped) (stamped' : u.IsStamped) :
    Value.orderBytes (utf8 t.text) (utf8 u.text) = t.order u := by
  have ascii : ∀ {t : Instant}, t.IsStamped → ∀ c ∈ t.text.toList, IsAscii c := by
    intro t stamped
    rw [toList_text stamped]
    exact isAscii_chars t.stamp
  rw [orderBytes_utf8 (ascii stamped) (ascii stamped'), toList_text stamped, toList_text stamped',
    (stamp_fits stamped).orderChars (stamp_fits stamped'), stamp_order stamped stamped']

end Instant

end DocStore
