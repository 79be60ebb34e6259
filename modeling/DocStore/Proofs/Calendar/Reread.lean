import DocStore.Proofs.Calendar.Order

/-!
# Time stamps read, written and read again

Whatever form a text has, it stands for an instant whose leap second, if it has one, ends a minute.
So the text of that instant stands for the same one, cut to whole milliseconds.
-/

namespace DocStore.Instant

open DocStore.Text

variable {s rest : List Char} {t u : Instant} {text : String}

/-- What the clock promises: a leap second follows second 59 and lasts no longer than others. -/
structure IsProper (t : Instant) : Prop where
  nanos : t.nanos < 2 * billion
  leap : billion ≤ t.nanos → t.seconds % 60 = 59

/-- The instant without what is less than a millisecond. -/
def truncated (t : Instant) : Instant := { t with nanos := t.nanos - t.nanos % 1000000 }

-- ---------------------------------------------------------------------------
-- What readers give
-- ---------------------------------------------------------------------------

/-- A fraction is less than a second. -/
theorem fraction_lt {n : Nat} (read : fraction s = some (n, rest)) : n < billion := by
  rw [fraction.eq_def] at read
  split at read
  · rename_i s
    simp only [Option.ite_none_left_eq_some, Option.some.injEq, Prod.mk.injEq] at read
    obtain ⟨-, rfl, -⟩ := read
    have digits : ∀ c ∈ (splitDigits s).1.take 9, isDigit c = true :=
      fun c mem => List.mem_takeWhile_imp (List.mem_of_mem_take mem)
    have short : ((splitDigits s).1.take 9).length ≤ 9 := List.length_take_le ..
    generalize (splitDigits s).1.take 9 = kept at digits short ⊢
    calc natOfDigits kept * pow10 (9 - kept.length)
        < 10 ^ kept.length * 10 ^ (9 - kept.length) :=
          Nat.mul_lt_mul_of_pos_right (natOfDigits_lt digits) (Nat.pow_pos (by decide))
      _ = 10 ^ 9 := by rw [← Nat.pow_add, Nat.add_sub_cancel' short]
  · obtain ⟨rfl, -⟩ : 0 = n ∧ s = rest := by simpa using read
    decide

/-- A zone is a number of minutes. -/
theorem zone_mod {offset : Int} (read : zone s = some (offset, rest)) : offset % 60 = 0 := by
  cases s with
  | nil => cases read
  | cons c s =>
    simp only [zone] at read
    split at read
    · obtain ⟨rfl, -⟩ := Prod.mk.inj (Option.some.inj read)
      rfl
    · simp only [Option.bind_eq_bind, Option.bind_eq_some_iff,
        Option.ite_none_right_eq_some] at read
      obtain ⟨sign, -, ⟨hours, _⟩, -, _, -, ⟨minutes, _⟩, -, -, same⟩ := read
      obtain ⟨rfl, -⟩ := Prod.mk.inj (Option.some.inj same)
      have whole : (60 : Int) ∣ hours * 3600 + minutes * 60 := by omega
      exact Int.emod_eq_zero_of_dvd (Int.dvd_mul_of_dvd_right whole)

theorem Stamp.isProper {stamp : Stamp} (small : stamp.nanos < billion)
    (minutes : stamp.offset % 60 = 0) (read : stamp.toInstant? = some t) : t.IsProper := by
  simp only [Stamp.toInstant?, Option.ite_none_right_eq_some, Option.some.injEq] at read
  obtain ⟨-, rfl⟩ := read
  cases leap : stamp.second == 60 with
  | false => exact ⟨by simp only [Bool.false_eq_true, if_false]; omega, fun last => by
      simp only [Bool.false_eq_true, if_false] at last; omega⟩
  | true =>
    refine ⟨by simp only [if_true]; omega, fun _ => ?_⟩
    simp only [secondsPerDay, if_true]
    omega

theorem isProper_of_ofStrict? (read : ofStrict? s = some t) : t.IsProper := by
  obtain ⟨⟨year, _⟩, -, read⟩ := Option.bind_eq_some_iff.mp read
  obtain ⟨_, -, read⟩ := Option.bind_eq_some_iff.mp read
  obtain ⟨⟨month, _⟩, -, read⟩ := Option.bind_eq_some_iff.mp read
  obtain ⟨_, -, read⟩ := Option.bind_eq_some_iff.mp read
  obtain ⟨⟨day, _⟩, -, read⟩ := Option.bind_eq_some_iff.mp read
  dsimp only at read
  -- what stands between the date and the time
  split at read
  case h_2 => cases read
  split at read
  case isFalse => cases read
  obtain ⟨_, -, read⟩ := Option.bind_eq_some_iff.mp read
  obtain ⟨⟨hour, _⟩, -, read⟩ := Option.bind_eq_some_iff.mp read
  obtain ⟨_, -, read⟩ := Option.bind_eq_some_iff.mp read
  obtain ⟨⟨minute, _⟩, -, read⟩ := Option.bind_eq_some_iff.mp read
  obtain ⟨_, -, read⟩ := Option.bind_eq_some_iff.mp read
  obtain ⟨⟨second, _⟩, -, read⟩ := Option.bind_eq_some_iff.mp read
  obtain ⟨⟨nanos, _⟩, part, read⟩ := Option.bind_eq_some_iff.mp read
  obtain ⟨⟨offset, _⟩, zoned, read⟩ := Option.bind_eq_some_iff.mp read
  obtain ⟨-, read⟩ := Option.ite_none_right_eq_some.mp read
  exact Stamp.isProper (fraction_lt part) (zone_mod zoned) read

theorem isProper_of_looseTime {separator : Option Char} {seconds : Bool}
    (read : looseTime separator seconds s = some t) : t.IsProper := by
  obtain ⟨⟨date, _⟩, -, read⟩ := Option.bind_eq_some_iff.mp read
  obtain ⟨_, -, read⟩ := Option.bind_eq_some_iff.mp read
  obtain ⟨⟨hour, _⟩, -, read⟩ := Option.bind_eq_some_iff.mp read
  obtain ⟨_, -, read⟩ := Option.bind_eq_some_iff.mp read
  obtain ⟨⟨minute, _⟩, -, read⟩ := Option.bind_eq_some_iff.mp read
  cases seconds with
  | false =>
    obtain ⟨-, read⟩ := Option.ite_none_right_eq_some.mp read
    exact Stamp.isProper (Nat.pow_pos (by decide)) rfl read
  | true =>
    obtain ⟨_, -, read⟩ := Option.bind_eq_some_iff.mp read
    obtain ⟨⟨second, _⟩, -, read⟩ := Option.bind_eq_some_iff.mp read
    obtain ⟨⟨nanos, _⟩, part, read⟩ := Option.bind_eq_some_iff.mp read
    obtain ⟨-, read⟩ := Option.ite_none_right_eq_some.mp read
    exact Stamp.isProper (fraction_lt part) rfl read

theorem isProper_of_looseDay (read : looseDay s = some t) : t.IsProper := by
  obtain ⟨⟨date, _⟩, -, read⟩ := Option.bind_eq_some_iff.mp read
  obtain ⟨-, read⟩ := Option.ite_none_right_eq_some.mp read
  exact Stamp.isProper (Nat.pow_pos (by decide)) rfl read

/-- Each of the forms gives an instant that the clock can show. -/
theorem isProper_of_ofText? (read : ofText? text = some t) : t.IsProper := by
  simp only [ofText?, Option.orElse_eq_orElse, Option.orElse_eq_or, Option.or_eq_some_iff] at read
  rcases read with read | ⟨-, read | ⟨-, read | ⟨-, read | ⟨-, read⟩⟩⟩⟩
  · exact isProper_of_ofStrict? read
  · exact isProper_of_looseTime read
  · exact isProper_of_looseTime read
  · exact isProper_of_looseTime read
  · exact isProper_of_looseDay read

-- ---------------------------------------------------------------------------
-- Whole milliseconds
-- ---------------------------------------------------------------------------

theorem billion_le_truncated : billion ≤ t.truncated.nanos ↔ billion ≤ t.nanos := by
  have unit : billion = 1000000000 := rfl
  simp only [truncated]
  omega

/-- What a text leaves out makes no difference to it. -/
theorem text_truncated (t : Instant) : t.truncated.text = t.text := by
  have unit : billion = 1000000000 := rfl
  have part : (t.truncated.nanos - if billion ≤ t.nanos then billion else 0) / 1000000 =
      (t.nanos - if billion ≤ t.nanos then billion else 0) / 1000000 := by
    simp only [truncated]
    split <;> omega
  simp only [text, billion_le_truncated, part]
  rfl

theorem IsProper.isStamped (proper : t.IsProper) (plain : t.HasPlainYear) :
    t.truncated.IsStamped where
  millis := by
    simp only [truncated]
    omega
  nanos := Nat.lt_of_le_of_lt (Nat.sub_le ..) proper.nanos
  leap last := proper.leap (billion_le_truncated.mp last)
  year := plain

theorem ofText?_text_truncated (proper : t.IsProper) (plain : t.HasPlainYear) :
    ofText? t.text = some t.truncated := by
  rw [← t.text_truncated, ofText?_text (proper.isStamped plain)]

/-- The text of an instant in whole milliseconds, of a year of four digits, is read as that instant;
the texts of two stand, byte by byte, in the order of the instants; and what any text is read as, it
is read as again from its own text, cut to whole milliseconds. -/
theorem text_faithful :
    (∀ t : Instant, t.IsStamped → ofText? t.text = some t) ∧
    (∀ t u : Instant, t.IsStamped → u.IsStamped →
      (t.order u = .lt ↔ Value.orderBytes (utf8 t.text) (utf8 u.text) = .lt)) ∧
    ∀ (text : String) (read : Instant), ofText? text = some read → read.HasPlainYear →
      ofText? read.text = some read.truncated := by
  refine ⟨fun t stamped => ofText?_text stamped, fun t u stamped stamped' => ?_,
    fun text read accepted plain => ofText?_text_truncated (isProper_of_ofText? accepted) plain⟩
  rw [orderBytes_text stamped stamped']

/-- A leap second, the second that follows it, and a text in a loose form that ends in one. -/
theorem text_faithful_leap :
    let t : Instant := { seconds := 1483228799, nanos := 1500000000 }
    let u : Instant := { seconds := 1483228800, nanos := 0 }
    let read : Instant := { seconds := 1483228799, nanos := 1123456789 }
    t.IsStamped ∧ u.IsStamped ∧ ofText? " 2016-12-31 23:59:60.123456789" = some read ∧
      read.HasPlainYear ∧
      ofText? t.text = some t ∧
      (t.order u = .lt ↔ Value.orderBytes (utf8 t.text) (utf8 u.text) = .lt) ∧
      ofText? read.text = some read.truncated ∧
      t.text = "2016-12-31T23:59:60.500Z" ∧ u.text = "2017-01-01T00:00:00.000Z" ∧
      read.truncated.nanos = 1123000000 := by
  intro t u read
  have stamped : t.IsStamped := ⟨by decide, by decide, by decide, by decide⟩
  have stamped' : u.IsStamped := ⟨by decide, by decide, by decide, by decide⟩
  have accepted : ofText? " 2016-12-31 23:59:60.123456789" = some read := by decide
  have plain : read.HasPlainYear := by
    unfold HasPlainYear
    decide
  obtain ⟨again, order, reread⟩ := text_faithful
  exact ⟨stamped, stamped', accepted, plain, again t stamped, order t u stamped stamped',
    reread _ read accepted plain, by decide, by decide, by decide⟩

end DocStore.Instant
