import DocStore.Proofs.FieldType.Canonical
import DocStore.Proofs.Value.Path
import DocStore.Schema

/-!
# Passes of a schema without virtual fields

Filling sets what is absent and coerces what is there; checking removes null and nothing else. After
both passes every path is settled, and then neither pass has anything left to do.
-/

namespace DocStore

/-- Any object may stand where the type does, whatever its members. -/
def FieldType.IsOpen : FieldType → Prop
  | .leaf .object _ | .leaf .mixed _ => True
  | _ => False

namespace Schema

/-- The schema has no virtual fields, and what stands above a declared path may be any object. -/
structure Plain (schema : Schema) : Prop where
  stored : ∀ entry ∈ schema.entries, entry.2.virtuals = []
  isOpen : ∀ entry ∈ schema.entries, ∀ other ∈ schema.entries,
    other.1.IsBelow entry.1 → entry.2.IsOpen

/-- An absent field has no default. -/
def Filled (entry : Path × FieldType) (doc : Fields) : Prop :=
  doc.atD entry.1 = .null → ∀ source, entry.2.default source = .null

structure Checked (entry : Path × FieldType) (doc : Fields) : Prop where
  present : doc.at? entry.1 ≠ some .null
  taken : entry.2.Accepts entry.1 (doc.atD entry.1)

/-- The field of a path is as both passes leave it. -/
structure Settled (entry : Path × FieldType) (doc : Fields) : Prop where
  filled : Filled entry doc
  checked : Checked entry doc

end Schema

open FieldType

theorem Schema.store_of_ne_null (h : v ≠ .null) (path : Path) (doc : Fields) :
    store path v doc = doc.set path v := by
  cases v <;> first | rfl | exact absurd rfl h

-- ---------------------------------------------------------------------------
-- What a change at one path does to another
-- ---------------------------------------------------------------------------

namespace Fields

theorem atD_of_at? (h : at? d p = some v) : atD d p = v := by
  simp [atD, h]

theorem at?_eq_some_atD (h : atD d p ≠ .null) : at? d p = some (atD d p) := by
  cases hv : at? d p with
  | none => simp [atD, hv] at h
  | some v => simp [atD, hv]

theorem at?_eq_none_of_isBelow (below : Path.IsBelow p q) (null : atD d q = .null) :
    at? d p = none :=
  at?_below below fun c hc => by simp [atD_of_at? hc] at null

end Fields

namespace Schema

variable {entry other : Path × FieldType} {entries : List (Path × FieldType)} {doc : Fields}
  {source : Source} {schema : Schema}

theorem accepts_object (isOpen : other.2.IsOpen) (fields : Fields) :
    other.2.Accepts other.1 (.object fields) := by
  obtain ⟨path, type⟩ := other
  cases type with
  | leaf kind options => cases kind <;> first | exact isOpen.elim | rfl
  | array child options => exact isOpen.elim

-- ---------------------------------------------------------------------------
-- Filling
-- ---------------------------------------------------------------------------

theorem coerce_of_isOpen (isOpen : entry.2.IsOpen) (v : Value) : entry.2.coerce v = v := by
  obtain ⟨path, type⟩ := entry
  cases type with
  | array child options => exact isOpen.elim
  | leaf kind options => cases kind <;> first | exact isOpen.elim | (cases v <;> rfl)

theorem fillEntry_eq (stored : entry.2.isVirtual = false) (source : Source) (doc : Fields) :
    entry.2.cast source (doc.atD entry.1) = .null ∧ fillEntry source entry doc = doc ∨
      entry.2.cast source (doc.atD entry.1) ≠ .null ∧
        fillEntry source entry doc = doc.set entry.1 (entry.2.cast source (doc.atD entry.1)) := by
  obtain ⟨path, type⟩ := entry
  simp only [fillEntry, show type.isVirtual = false from stored, Bool.false_eq_true, if_false]
  split
  · rename_i h
    exact .inl ⟨h, rfl⟩
  · rename_i h
    exact .inr ⟨h, rfl⟩

theorem fillEntry_of_isVirtual (isVirtual : entry.2.isVirtual = true) :
    fillEntry source entry doc = doc := by
  obtain ⟨path, type⟩ := entry
  simp [fillEntry, show type.isVirtual = true from isVirtual]

theorem at?_fillEntry_self (stored : entry.2.isVirtual = false) (held : doc.at? entry.1 = some v)
    (present : v ≠ .null) :
    (fillEntry source entry doc).at? entry.1 = some (entry.2.coerce v) ∨
      entry.2.coerce v = .null ∧ fillEntry source entry doc = doc := by
  have coerced : entry.2.cast source (doc.atD entry.1) = entry.2.coerce v := by
    rw [Fields.atD_of_at? held, cast_of_ne_null present]
  rcases fillEntry_eq stored source doc with ⟨null, same⟩ | ⟨-, set⟩
  · exact .inr ⟨coerced.symm.trans null, same⟩
  · exact .inl (by rw [set, coerced, Fields.at?_set_self])

theorem fillEntry_filled (stored : entry.2.isVirtual = false) :
    Filled entry (fillEntry source entry doc) := by
  intro null other
  rcases fillEntry_eq stored source doc with ⟨hv, h⟩ | ⟨hv, h⟩ <;> rw [h] at null
  · rw [null] at hv
    exact default_eq_null hv other
  · rw [Fields.atD_of_at? Fields.at?_set_self] at null
    exact absurd null hv

theorem Filled.fillEntry (filled : Filled other doc) (stored : entry.2.isVirtual = false)
    (isOpen : other.1.IsBelow entry.1 → entry.2.IsOpen) :
    Filled other (fillEntry source entry doc) := by
  rcases fillEntry_eq stored source doc with ⟨hv, h⟩ | ⟨hv, h⟩ <;> rw [h]
  · exact filled
  rcases Path.cases_lie entry.1 other.1 with same | below | above | parts
  · intro null
    rw [← same, Fields.atD_of_at? Fields.at?_set_self] at null
    exact absurd null hv
  · obtain ⟨c, hc⟩ := Fields.at?_set_of_isBelow (d := doc)
      (v := entry.2.cast source (doc.atD entry.1)) below
    intro null
    rw [Fields.atD_of_at? hc] at null
    cases null
  · by_cases null : doc.atD entry.1 = .null
    · -- nothing was below a field that held nothing
      intro _
      exact filled (by simp [Fields.atD, Fields.at?_eq_none_of_isBelow above null])
    · have kept : entry.2.cast source (doc.atD entry.1) = doc.atD entry.1 := by
        rw [cast_of_ne_null null, coerce_of_isOpen (isOpen above)]
      rw [kept, Fields.set_eq_self (Fields.at?_eq_some_atD null)]
      exact filled
  · intro null
    refine filled ?_
    rw [← null, Fields.atD, Fields.atD, Fields.at?_set_of_parts parts]

theorem Filled.fillFrom (filled : Filled other doc)
    (stored : ∀ entry ∈ entries, entry.2.virtuals = [])
    (isOpen : ∀ entry ∈ entries, other.1.IsBelow entry.1 → entry.2.IsOpen) (n : Nat) :
    Filled other (fillFrom source n entries doc) := by
  induction entries generalizing doc n with
  | nil => exact filled
  | cons entry rest ih =>
    obtain ⟨first, stored⟩ := List.forall_mem_cons.mp stored
    obtain ⟨firstOpen, isOpen⟩ := List.forall_mem_cons.mp isOpen
    exact ih (filled.fillEntry (isVirtual_eq_false first) firstOpen) stored isOpen (n + 1)

theorem fillFrom_filled (stored : ∀ entry ∈ entries, entry.2.virtuals = [])
    (isOpen : ∀ entry ∈ entries, ∀ other ∈ entries, other.1.IsBelow entry.1 → entry.2.IsOpen)
    (n : Nat) : ∀ entry ∈ entries, Filled entry (fillFrom source n entries doc) := by
  induction entries generalizing doc n with
  | nil => simp
  | cons first rest ih =>
    have storedRest := (List.forall_mem_cons.mp stored).2
    refine List.forall_mem_cons.mpr ⟨?_, ?_⟩
    · have storedFirst := isVirtual_eq_false (stored first List.mem_cons_self)
      refine (fillEntry_filled storedFirst).fillFrom storedRest ?_ (n + 1)
      exact fun entry mem => isOpen entry (List.mem_cons_of_mem _ mem) first List.mem_cons_self
    · exact ih storedRest (fun entry mem other memOther =>
        isOpen entry (List.mem_cons_of_mem _ mem) other (List.mem_cons_of_mem _ memOther)) (n + 1)

-- ---------------------------------------------------------------------------
-- Checking
-- ---------------------------------------------------------------------------

theorem checkEntry_ok (stored : entry.2.virtuals = []) (ok : checkEntry entry doc = (.ok (), out)) :
    entry.2.Accepts entry.1 (doc.atD entry.1) ∧
      (out = doc ∧ doc.at? entry.1 ≠ some .null ∨
        out = doc.remove entry.1 ∧ doc.at? entry.1 = some .null) := by
  obtain ⟨path, type⟩ := entry
  simp only [checkEntry] at ok
  split at ok
  · simp at ok
  · rename_i v doc' hv
    rw [validate_eq stored] at hv
    obtain ⟨verdict, rfl⟩ := Prod.mk.inj hv
    obtain ⟨taken, rfl⟩ := accepts_of_validate stored verdict
    obtain ⟨-, rfl⟩ := Prod.mk.inj ok
    refine ⟨taken, ?_⟩
    by_cases null : doc.atD path = .null
    · cases held : doc.at? path with
      | none => exact .inl ⟨by rw [null]; exact Fields.remove_eq_self held, by simp⟩
      | some v =>
        rw [Fields.atD_of_at? held] at null
        exact .inr ⟨by rw [Fields.atD_of_at? held, null]; rfl, by rw [null]⟩
    · have held := Fields.at?_eq_some_atD null
      refine .inl ⟨?_, by rw [held]; simpa using null⟩
      rw [store_of_ne_null null, Fields.set_eq_self held]

/-- What is below or beside a field that holds null stays when it is removed; above it an object
stays an object. -/
theorem at?_remove_null {p q : Path} (null : doc.at? p = some .null) (ne : p ≠ q) :
    (doc.remove p).at? q = doc.at? q ∨
      p.IsBelow q ∧
        ∃ c c', doc.at? q = some (.object c) ∧ (doc.remove p).at? q = some (.object c') := by
  rcases Path.cases_lie p q with same | below | above | parts
  · exact absurd same ne
  · exact (Fields.at?_remove_above below).imp id fun objects => ⟨below, objects⟩
  · rw [Fields.at?_remove_of_isBelow above,
      Fields.at?_eq_none_of_isBelow above (Fields.atD_of_at? null)]
    exact .inl rfl
  · exact .inl (Fields.at?_remove_of_parts parts)

theorem checkEntry_checked (stored : entry.2.virtuals = [])
    (ok : checkEntry entry doc = (.ok (), out)) : Checked entry out := by
  obtain ⟨taken, ⟨rfl, present⟩ | ⟨rfl, null⟩⟩ := checkEntry_ok stored ok
  · exact ⟨present, taken⟩
  · rw [Fields.atD_of_at? null] at taken
    exact ⟨by simp, by simpa [Fields.atD] using taken⟩

theorem Checked.checkEntry (checked : Checked other doc) (stored : entry.2.virtuals = [])
    (isOpen : entry.1.IsBelow other.1 → other.2.IsOpen)
    (ok : checkEntry entry doc = (.ok (), out)) : Checked other out := by
  obtain ⟨-, ⟨rfl, -⟩ | ⟨rfl, null⟩⟩ := checkEntry_ok stored ok
  · exact checked
  · have ne : entry.1 ≠ other.1 := fun same => checked.present (same ▸ null)
    rcases at?_remove_null null ne with same | ⟨below, c, c', -, held⟩
    · exact ⟨by rw [same]; exact checked.present, by rw [Fields.atD, same]; exact checked.taken⟩
    · exact ⟨by simp [held], by rw [Fields.atD_of_at? held]; exact accepts_object (isOpen below) c'⟩

theorem Filled.checkEntry (filled : Filled other doc) (stored : entry.2.virtuals = [])
    (ok : checkEntry entry doc = (.ok (), out)) : Filled other out := by
  obtain ⟨-, ⟨rfl, -⟩ | ⟨rfl, null⟩⟩ := checkEntry_ok stored ok
  · exact filled
  · by_cases same : entry.1 = other.1
    · exact fun _ => filled (by rw [← same, Fields.atD_of_at? null])
    · intro gone
      refine filled ?_
      rcases at?_remove_null null same with same | ⟨-, c, c', -, held⟩
      · rw [← gone, Fields.atD, Fields.atD, same]
      · rw [Fields.atD_of_at? held] at gone
        cases gone

theorem checkEntries_cons (ok : checkEntries (entry :: entries) doc = (.ok (), out)) :
    ∃ next, checkEntry entry doc = (.ok (), next) ∧ checkEntries entries next = (.ok (), out) := by
  simp only [checkEntries] at ok
  split at ok
  · simp at ok
  · rename_i next h
    exact ⟨next, h, ok⟩

/-- What every step of checking preserves holds at the end if it held at the beginning. -/
theorem checkEntries_induction {P : Fields → Prop}
    (step : ∀ entry ∈ entries, ∀ doc out, P doc → checkEntry entry doc = (.ok (), out) → P out)
    (ok : checkEntries entries doc = (.ok (), out)) (start : P doc) : P out := by
  induction entries generalizing doc with
  | nil =>
    obtain ⟨-, rfl⟩ := Prod.mk.inj ok
    exact start
  | cons entry rest ih =>
    obtain ⟨next, first, ok⟩ := checkEntries_cons ok
    obtain ⟨stepFirst, step⟩ := List.forall_mem_cons.mp step
    exact ih step ok (stepFirst _ _ start first)

theorem checkEntries_checked (stored : ∀ entry ∈ entries, entry.2.virtuals = [])
    (isOpen : ∀ entry ∈ entries, ∀ other ∈ entries, other.1.IsBelow entry.1 → entry.2.IsOpen)
    (ok : checkEntries entries doc = (.ok (), out)) : ∀ entry ∈ entries, Checked entry out := by
  induction entries generalizing doc with
  | nil => simp
  | cons first rest ih =>
    obtain ⟨next, step, ok⟩ := checkEntries_cons ok
    obtain ⟨storedFirst, storedRest⟩ := List.forall_mem_cons.mp stored
    refine List.forall_mem_cons.mpr ⟨?_, ?_⟩
    · refine checkEntries_induction (P := Checked first) ?_ ok (checkEntry_checked storedFirst step)
      intro entry mem doc out checked
      exact checked.checkEntry (storedRest entry mem)
        (isOpen first List.mem_cons_self entry (List.mem_cons_of_mem _ mem))
    · exact ih storedRest (fun entry mem other memOther =>
        isOpen entry (List.mem_cons_of_mem _ mem) other (List.mem_cons_of_mem _ memOther)) ok

-- ---------------------------------------------------------------------------
-- Nothing left to do
-- ---------------------------------------------------------------------------

theorem Settled.congr {before : Fields} (settled : Settled entry before)
    (same : doc.at? entry.1 = before.at? entry.1) : Settled entry doc := by
  have value : doc.atD entry.1 = before.atD entry.1 := by rw [Fields.atD, Fields.atD, same]
  refine ⟨fun null => settled.filled (value ▸ null), ?_, ?_⟩
  · rw [same]
    exact settled.checked.present
  · rw [value]
    exact settled.checked.taken

theorem fillEntry_eq_self (stored : entry.2.virtuals = []) (settled : Settled entry doc) :
    fillEntry source entry doc = doc := by
  rcases fillEntry_eq (isVirtual_eq_false stored) source doc with ⟨-, h⟩ | ⟨hv, h⟩ <;> rw [h]
  by_cases null : doc.atD entry.1 = .null
  · exact absurd (by rw [null]; exact settled.filled null source) hv
  · rw [cast_of_ne_null null, coerce_of_accepts stored settled.checked.taken,
      Fields.set_eq_self (Fields.at?_eq_some_atD null)]

theorem checkEntry_eq_self (stored : entry.2.virtuals = []) (checked : Checked entry doc) :
    checkEntry entry doc = (.ok (), doc) := by
  obtain ⟨path, type⟩ := entry
  have taken := checked.taken
  rw [Accepts] at taken
  rw [checkEntry, validate_eq stored, taken]
  by_cases null : doc.atD path = .null
  · have absent : doc.at? path = none := by
      cases held : doc.at? path with
      | none => rfl
      | some v =>
        rw [Fields.atD_of_at? held] at null
        exact absurd (null ▸ held) checked.present
    simp only [null]
    exact congrArg _ (Fields.remove_eq_self absent)
  · simp only [store_of_ne_null null, Fields.set_eq_self (Fields.at?_eq_some_atD null)]

theorem fillFrom_eq_self (settled : ∀ entry ∈ entries, ∀ source, fillEntry source entry doc = doc)
    (n : Nat) : fillFrom source n entries doc = doc := by
  induction entries generalizing n with
  | nil => rfl
  | cons first rest ih =>
    obtain ⟨same, settled⟩ := List.forall_mem_cons.mp settled
    rw [fillFrom, same, ih settled]

theorem checkEntries_eq_self (settled : ∀ entry ∈ entries, checkEntry entry doc = (.ok (), doc)) :
    checkEntries entries doc = (.ok (), doc) := by
  induction entries with
  | nil => rfl
  | cons first rest ih =>
    obtain ⟨same, settled⟩ := List.forall_mem_cons.mp settled
    rw [checkEntries, same]
    exact ih settled

theorem Plain.settles (plain : schema.Plain)
    (ok : schema.check (schema.fill source doc) = (.ok (), out)) :
    ∀ entry ∈ schema.entries, Settled entry out := by
  intro entry mem
  refine ⟨?_, checkEntries_checked plain.stored plain.isOpen ok entry mem⟩
  exact checkEntries_induction
    (fun other memOther _ _ filled => filled.checkEntry (plain.stored other memOther))
    ok (fillFrom_filled plain.stored plain.isOpen 0 entry mem)

/-- A document that both passes have changed is changed by neither any more. -/
theorem Plain.settled (plain : schema.Plain)
    (ok : schema.check (schema.fill source doc) = (.ok (), out))
    (other : Source) : schema.fill other out = out ∧ schema.check out = (.ok (), out) := by
  have settled := plain.settles ok
  refine ⟨fillFrom_eq_self (fun entry mem _ => ?_) 0, checkEntries_eq_self fun entry mem => ?_⟩
  · exact fillEntry_eq_self (plain.stored entry mem) (settled entry mem)
  · exact checkEntry_eq_self (plain.stored entry mem) (settled entry mem).checked

end Schema

end DocStore
