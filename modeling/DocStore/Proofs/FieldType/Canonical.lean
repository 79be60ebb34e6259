import DocStore.FieldType.Coerce
import DocStore.Proofs.FieldType.Validate
import DocStore.Proofs.Number.Whole

/-!
# Canonical values

What a type takes it has nothing to coerce in any more. Objects it leaves alone or spoils, but it
never makes one.
-/

namespace DocStore

theorem Kind.isIntegral_of_fault? (taken : fault? .integer (.number x) = none) :
    x.isIntegral = true := by
  simp only [fault?] at taken
  split at taken
  · simp at taken
  · split at taken
    · assumption
    · simp at taken

theorem Kind.coerce_of_fault?_eq_none (concrete : ∀ field, kind ≠ .virtual field)
    (taken : fault? kind v = none) : coerce kind v = v := by
  cases kind with
  | mixed => rfl
  | object => rfl
  | enumeration elements => rfl
  | virtual field => exact absurd rfl (concrete field)
  | integer =>
    cases v with
    | number x =>
      simp [coerce, Value.asNumber?, Number.truncate_of_isIntegral (isIntegral_of_fault? taken)]
    | _ => simp [fault?] at taken
  | _ =>
    cases v <;> first
      | rfl
      | simp [fault?] at taken

theorem Value.asDate_eq_self_or (v : Value) : v.asDate = v ∨ ∃ t, v.asDate = .date t := by
  cases v with
  | string s =>
    rw [asDate]
    split
    · exact .inr ⟨_, rfl⟩
    · exact .inl rfl
  | number x =>
    rw [asDate]
    split
    · exact .inr ⟨_, rfl⟩
    · exact .inl rfl
  | _ => exact .inl rfl

theorem Value.asBuffer_eq_self_or (v : Value) :
    v.asBuffer = v ∨ ∃ bytes, v.asBuffer = .buffer bytes := by
  cases v with
  | string s =>
    rw [asBuffer]
    split
    · exact .inr ⟨_, rfl⟩
    · exact .inl rfl
  | array items =>
    rw [asBuffer]
    split
    · exact .inr ⟨_, rfl⟩
    · exact .inl rfl
  | _ => exact .inl rfl

theorem Value.asDate_ne_object {v : Value} (other : ∀ c, v ≠ .object c) (c : Fields) :
    v.asDate ≠ .object c := by
  rcases v.asDate_eq_self_or with same | ⟨t, date⟩
  · rw [same]
    exact other c
  · simp [date]

theorem Value.asBuffer_ne_object {v : Value} (other : ∀ c, v ≠ .object c) (c : Fields) :
    v.asBuffer ≠ .object c := by
  rcases v.asBuffer_eq_self_or with same | ⟨bytes, buffer⟩
  · rw [same]
    exact other c
  · simp [buffer]

theorem Kind.coerce_ne_null {kind : Kind} {v : Value} (concrete : ∀ field, kind ≠ .virtual field)
    (present : v ≠ .null) : kind.coerce v ≠ .null := by
  cases kind with
  | virtual field => exact absurd rfl (concrete field)
  | mixed | object | enumeration elements => exact present
  | boolean => simp [coerce]
  | number | integer =>
    simp only [coerce]
    split
    · simp
    · exact present
  | date =>
    rcases v.asDate_eq_self_or with same | ⟨t, date⟩
    · rwa [coerce, same]
    · simp [coerce, date]
  | buffer =>
    rcases v.asBuffer_eq_self_or with same | ⟨bytes, buffer⟩
    · rwa [coerce, same]
    · simp [coerce, buffer]
  | string | id strategy => cases v <;> first | exact present | simp [coerce]

theorem Kind.coerce_ne_object {kind : Kind} {v : Value} (other : ∀ c, v ≠ .object c) (c : Fields) :
    kind.coerce v ≠ .object c := by
  cases kind with
  | mixed | object | enumeration elements => exact other c
  | virtual field | boolean => simp [coerce]
  | date => exact Value.asDate_ne_object other c
  | buffer => exact Value.asBuffer_ne_object other c
  | number | integer =>
    simp only [coerce]
    split
    · simp
    · exact other c
  | string | id strategy =>
    cases v <;> first | exact other c | simp [coerce]

/-- A kind finds nothing more to coerce in what it has coerced. -/
theorem Kind.coerce_coerce (kind : Kind) (v : Value) :
    kind.coerce (kind.coerce v) = kind.coerce v := by
  cases kind with
  | mixed | object | enumeration elements | virtual field | boolean => rfl
  | string | id strategy => cases v <;> rfl
  | number =>
    cases read : v.asNumber? with
    | none => simp only [coerce, read]
    | some x =>
      simp only [coerce, read]
      rfl
  | integer =>
    cases read : v.asNumber? with
    | none => simp only [coerce, read]
    | some x =>
      simp only [coerce, read]
      exact congrArg Value.number x.truncate_truncate
  | date =>
    rcases v.asDate_eq_self_or with same | ⟨t, date⟩
    · simp only [coerce, same]
    · simp only [coerce, date]
      rfl
  | buffer =>
    rcases v.asBuffer_eq_self_or with same | ⟨bytes, buffer⟩
    · simp only [coerce, same]
    · simp only [coerce, buffer]
      rfl

namespace FieldType

variable {type : FieldType} {source : Source} {path : Path} {v : Value}

theorem coerce_coerce (type : FieldType) (v : Value) :
    type.coerce (type.coerce v) = type.coerce v := by
  induction type generalizing v with
  | leaf kind options =>
    have own (w : Value) (present : w ≠ .null) : coerce (.leaf kind options) w = kind.coerce w := by
      cases w <;> first | rfl | exact absurd rfl present
    by_cases absent : v = .null
    · rw [absent]
      rfl
    rw [own v absent]
    by_cases blank : kind.coerce v = .null
    · rw [blank]
      rfl
    · rw [own _ blank, kind.coerce_coerce]
  | array child options ih =>
    cases v with
    | null => rfl
    | array items => simp [coerce, ih]
    | _ => simp [coerce, ih]

theorem coerce_ne_null (stored : type.isVirtual = false) (present : v ≠ .null) :
    type.coerce v ≠ .null := by
  cases type with
  | array child options => cases v <;> first | exact absurd rfl present | simp [coerce]
  | leaf kind options =>
    have concrete (field : VirtualField) : kind ≠ .virtual field := by
      rintro rfl
      cases stored
    cases v <;> first
      | exact absurd rfl present
      | exact Kind.coerce_ne_null concrete (by simp)

theorem cast_of_ne_null (h : v ≠ .null) (source : Source) (type : FieldType) :
    type.cast source v = type.coerce v := by
  cases v <;> first | rfl | exact absurd rfl h

/-- Whether a type has a default does not depend on random numbers and the time. -/
theorem default_eq_null (h : type.default source = .null) (other : Source) :
    type.default other = .null := by
  simp only [default] at h ⊢
  split at h
  · exact h
  · simp at h
  · split at h
    · simp at h
    · split at h <;> simp_all
    · rfl

theorem fault?_of_accepts (h : virtuals (.leaf kind opts) = []) (present : v ≠ .null)
    (taken : Accepts path (.leaf kind opts) v) : kind.fault? v = none := by
  have notNull : v.isNull = false := by cases v <;> first | rfl | exact absurd rfl present
  rw [Accepts, validate_leaf (virtuals_leaf_eq_nil.mp h)] at taken
  simp only [notNull, Bool.false_eq_true, if_false] at taken
  split at taken
  · simp at taken
  · assumption

theorem accepts_of_fault? (h : virtuals (.leaf kind opts) = []) (present : v ≠ .null)
    (taken : kind.fault? v = none) : Accepts path (.leaf kind opts) v := by
  have notNull : v.isNull = false := by cases v <;> first | rfl | exact absurd rfl present
  simp [Accepts, validate_leaf (virtuals_leaf_eq_nil.mp h), notNull, taken]

theorem coerce_of_accepts (h : virtuals type = []) (taken : Accepts path type v) :
    type.coerce v = v := by
  induction type generalizing v with
  | leaf kind options =>
    cases v with
    | null => rfl
    | _ =>
      have taken := fault?_of_accepts h (by simp) taken
      exact Kind.coerce_of_fault?_eq_none (virtuals_leaf_eq_nil.mp h) taken
  | array child options ih =>
    cases v with
    | null => rfl
    | array items =>
      have inner : virtuals child = [] := h
      have each := accepts_items inner taken
      have same := List.map_congr_left fun item mem => ih h (each item mem)
      exact congrArg Value.array (same.trans (List.map_id' items))
    | _ => simp [Accepts, validate] at taken

theorem coerce_ne_object (other : ∀ c, v ≠ .object c) (c : Fields) :
    type.coerce v ≠ .object c := by
  cases type with
  | leaf kind options =>
    cases v with
    | null => simp [coerce]
    | _ => exact Kind.coerce_ne_object other c
  | array child options => cases v <;> simp [coerce]

theorem coerce_eq_self_or (type : FieldType) (v : Value) :
    type.coerce v = v ∨ ∀ c, type.coerce v ≠ .object c := by
  cases v with
  | object fields =>
    cases type with
    | array child options => exact .inr fun c => by simp [coerce]
    | leaf kind options =>
      cases kind <;> first | exact .inl rfl | exact .inr fun c => by simp [coerce, Kind.coerce]
  | _ => exact .inr (coerce_ne_object (by simp))

/-- A type that takes some object coerces nothing. -/
theorem coerce_of_accepts_object (h : virtuals type = [])
    (taken : Accepts path type (.object c)) (v : Value) : type.coerce v = v := by
  cases type with
  | array child options => simp [Accepts, validate] at taken
  | leaf kind options =>
    cases kind with
    | mixed | object | enumeration elements => cases v <;> rfl
    | virtual field => simp [virtuals] at h
    | _ => simp [Accepts, validate, Value.isNull, Kind.fault?] at taken

end FieldType

end DocStore
