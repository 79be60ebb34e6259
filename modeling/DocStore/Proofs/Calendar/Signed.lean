import DocStore.Proofs.Calendar.Stamp

/-!
# Time stamps of years with a sign

Beyond four digits the text of an instant starts with the sign of its year, which the strict form
does not take, and ends in a zone, which no loose form takes. Such a text stands for no instant.
-/

namespace DocStore.Instant

open DocStore.Text

variable {s rest : List Char} {t : Instant}

-- ---------------------------------------------------------------------------
-- Loose forms leave a zone behind
-- ---------------------------------------------------------------------------

theorem mem_dropWhile {p : Char → Bool} (other : p 'Z' = false) (mem : 'Z' ∈ s) :
    'Z' ∈ s.dropWhile p := by
  rw [← List.takeWhile_append_dropWhile (p := p) (l := s)] at mem
  refine (List.mem_append.mp mem).resolve_left fun taken => ?_
  simp [List.mem_takeWhile_imp taken] at other

/-- What a reader takes from the front of a text is no letter Z. -/
def LeavesZone {α : Type} (read : List Char → Option (α × List Char)) : Prop :=
  ∀ s a rest, read s = some (a, rest) → 'Z' ∈ s → 'Z' ∈ rest

theorem mem_of_mark {c : Char} (other : c ≠ 'Z') (h : mark c s = some rest) (mem : 'Z' ∈ s) :
    'Z' ∈ rest := by
  cases s with
  | nil => simp [mark] at h
  | cons d s =>
    obtain ⟨rfl, rfl⟩ : c = d ∧ s = rest := by simpa [mark] using h
    exact (List.mem_cons.mp mem).resolve_left (Ne.symm other)

theorem shortNumber_leavesZone (width : Nat) : LeavesZone (shortNumber width) := by
  intro s n rest h mem
  simp only [shortNumber, Option.ite_none_left_eq_some, Option.some.injEq, Prod.mk.injEq] at h
  obtain ⟨-, -, rfl⟩ := h
  have front := (List.takeWhile_prefix isDigit).trans (List.take_prefix width s)
  rw [← List.prefix_iff_eq_append.mp front] at mem
  refine (List.mem_append.mp mem).resolve_left fun taken => ?_
  simpa [isDigit] using List.mem_takeWhile_imp taken

theorem looseNumber_leavesZone : LeavesZone looseNumber := fun _ n rest h mem =>
  shortNumber_leavesZone 2 _ n rest h (mem_dropWhile rfl mem)

theorem fraction_leavesZone : LeavesZone fraction := by
  intro s n rest h mem
  rw [fraction.eq_def] at h
  split at h
  · rename_i s
    simp only [Option.ite_none_left_eq_some, Option.some.injEq, Prod.mk.injEq] at h
    obtain ⟨-, -, rfl⟩ := h
    exact mem_dropWhile rfl (by simpa using mem)
  · obtain ⟨-, rfl⟩ : 0 = n ∧ s = rest := by simpa using h
    exact mem

theorem looseYear_leavesZone : LeavesZone looseYear := by
  intro s year rest h mem
  have mem : 'Z' ∈ dropBlanks s := mem_dropWhile rfl mem
  simp only [looseYear] at h
  split at h
  · rename_i s same
    rw [same] at mem
    simp only [Option.ite_none_left_eq_some, Option.some.injEq, Prod.mk.injEq] at h
    obtain ⟨-, -, rfl⟩ := h
    exact mem_dropWhile rfl (by simpa using mem)
  · rename_i s same
    rw [same] at mem
    simp only [Option.ite_none_left_eq_some, Option.some.injEq, Prod.mk.injEq] at h
    obtain ⟨-, -, rfl⟩ := h
    exact mem_dropWhile rfl (by simpa using mem)
  · obtain ⟨⟨n, left⟩, read, same⟩ := Option.map_eq_some_iff.mp h
    obtain ⟨-, rfl⟩ := Prod.mk.inj same
    exact shortNumber_leavesZone 4 _ n left read mem

theorem looseDate_leavesZone : LeavesZone looseDate := by
  intro s date rest h mem
  simp only [looseDate, Option.bind_eq_bind, Option.bind_eq_some_iff, Option.some.injEq,
    Prod.mk.injEq] at h
  obtain ⟨⟨year, s₁⟩, readYear, s₂, first, ⟨month, s₃⟩, readMonth, s₄, second, ⟨day, s₅⟩, readDay,
    -, rfl⟩ := h
  have mem := mem_of_mark (by decide) first (looseYear_leavesZone _ _ _ readYear mem)
  have mem := mem_of_mark (by decide) second (looseNumber_leavesZone _ _ _ readMonth mem)
  exact looseNumber_leavesZone _ _ _ readDay mem

theorem looseTime_eq_none {separator : Option Char} (other : separator ≠ some 'Z')
    (seconds : Bool) (mem : 'Z' ∈ s) : looseTime separator seconds s = none := by
  refine Option.eq_none_iff_forall_ne_some.mpr fun t h => ?_
  simp only [looseTime, Option.bind_eq_bind, Option.bind_eq_some_iff] at h
  obtain ⟨⟨date, s₁⟩, readDate, s₂, separate, ⟨hour, s₃⟩, readHour, s₄, first, ⟨minute, s₅⟩,
    readMinute, rest⟩ := h
  have mem := looseDate_leavesZone _ _ _ readDate mem
  have mem : 'Z' ∈ s₂ := by
    cases separator with
    | none =>
      obtain rfl : dropBlanks s₁ = s₂ := Option.some.inj separate
      exact mem_dropWhile rfl mem
    | some c => exact mem_of_mark (fun same => other (congrArg some same)) separate mem
  have mem := mem_of_mark (by decide) first (looseNumber_leavesZone _ _ _ readHour mem)
  have mem := looseNumber_leavesZone _ _ _ readMinute mem
  cases seconds with
  | false =>
    have done : s₅ = [] := by
      by_contra left
      simp [left] at rest
    simp [done] at mem
  | true =>
    simp only [if_true, Option.bind_eq_some_iff] at rest
    obtain ⟨s₆, marked, ⟨second, s₇⟩, readSecond, ⟨nanos, s₈⟩, readFraction, _, same, done⟩ := rest
    obtain rfl := Option.some.inj same
    have mem := looseNumber_leavesZone _ _ _ readSecond (mem_of_mark (by decide) marked mem)
    have mem := fraction_leavesZone _ _ _ readFraction mem
    have done : s₈ = [] := by
      by_contra left
      simp [left] at done
    simp [done] at mem

theorem looseDay_eq_none (mem : 'Z' ∈ s) : looseDay s = none := by
  refine Option.eq_none_iff_forall_ne_some.mpr fun t h => ?_
  simp only [looseDay, Option.bind_eq_bind, Option.bind_eq_some_iff] at h
  obtain ⟨⟨date, rest⟩, readDate, done⟩ := h
  have mem := looseDate_leavesZone _ _ _ readDate mem
  cases rest with
  | nil => simp at mem
  | cons c s => simp at done

-- ---------------------------------------------------------------------------
-- The sign
-- ---------------------------------------------------------------------------

def year (t : Instant) : Int := (Calendar.Date.ofDayNumber t.dayNumber).year

/-- The year of the instant has four digits at most, and no sign. -/
def HasPlainYear (t : Instant) : Prop := 0 ≤ t.year ∧ t.year ≤ 9999

theorem toList_text_signed (signed : ¬ t.HasPlainYear) :
    ∃ c s, isDigit c = false ∧ isBlank c = false ∧ t.text.toList = c :: Stamp.chars s := by
  have beyond : ¬ (0 ≤ t.year ∧ t.year ≤ 9999) := signed
  have padded : yearText t.year =
      (if t.year < 0 then "-" else "+") ++ padded 4 t.year.natAbs := by
    simp [yearText, beyond]
  refine ⟨if t.year < 0 then '-' else '+',
    { t.stamp with date := { t.stamp.date with year := (t.year.natAbs : Nat) } }, ?_, ?_, ?_⟩
  · split <;> rfl
  · split <;> rfl
  · rw [text, show (Calendar.Date.ofDayNumber t.dayNumber).year = t.year from rfl, padded]
    generalize t.year.natAbs = digits
    split <;> simp [Instant.stamp, Stamp.chars]

theorem ofStrict?_eq_none {c : Char} (sign : isDigit c = false) (s : List Char) :
    ofStrict? (c :: s) = none := by
  have noYear : fixedNumber 4 (c :: s) = none := by simp [fixedNumber, sign]
  rw [ofStrict?, noYear]
  rfl

/-- The text of an instant whose year has a sign is not read as any instant. -/
theorem ofText?_text_signed (signed : ¬ t.HasPlainYear) : ofText? t.text = none := by
  obtain ⟨c, s, sign, visible, chars⟩ := toList_text_signed signed
  have blanks : ∀ d ∈ c :: s.chars, isBlank d = false :=
    List.forall_mem_cons.mpr ⟨visible, isBlank_chars s⟩
  have zulu : 'Z' ∈ c :: s.chars := by simp [Stamp.chars]
  rw [ofText?, chars, Number.trim_eq_self blanks]
  have timed : ∀ separator ≠ some 'Z', ∀ seconds,
      looseTime separator seconds (c :: s.chars) = none :=
    fun _ other seconds => looseTime_eq_none other seconds zulu
  simp [ofStrict?_eq_none sign, timed, looseDay_eq_none zulu]

end DocStore.Instant
