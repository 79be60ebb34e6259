import DocStore.FieldType.Query
import DocStore.Proofs.Value.Normal

/-!
# Types and normal forms

What a type coerces, matches, compares or looks up does not depend on the order of members and on
the signs of zeros: a value and its normal form are one to it.
-/

namespace DocStore

-- ---------------------------------------------------------------------------
-- Numbers
-- ---------------------------------------------------------------------------

namespace Number

variable {x : Number}

@[simp] theorem wholePart_unsigned : x.unsigned.wholePart = x.wholePart := by
  simp [wholePart, significand, exponent, exponentField]

@[simp] theorem isFinite_unsigned : x.unsigned.isFinite = x.isFinite := by
  simp [isFinite]

@[simp] theorem isIntegral_unsigned : x.unsigned.isIntegral = x.isIntegral := by
  simp [isIntegral, significand, exponent, exponentField]

/-- Only a zero is other than its unsigned form. -/
theorem unsigned_eq_self_or : x.unsigned = x ∨ x.isZero = true ∧ x.unsigned = zero := by
  cases isZero : x.isZero <;> simp [unsigned, isZero]

theorem wholePart_of_isZero (isZero : x.isZero = true) : x.wholePart = 0 :=
  have nothing := x.isZero_iff.mp isZero
  (wholePart_eq_zero_iff (isIntegral_of_significand nothing)).mpr nothing

theorem toInt_of_isZero (isZero : x.isZero = true) : x.toInt = 0 := by
  simp [toInt, wholePart_of_isZero isZero]

theorem isFinite_of_isZero (isZero : x.isZero = true) : x.isFinite = true := by
  have nothing : x.magnitude = 0 := beq_iff_eq.mp isZero
  exact x.isFinite_iff.mpr (by omega)

@[simp] theorem toInt64_unsigned : x.unsigned.toInt64 = x.toInt64 := by
  rcases x.unsigned_eq_self_or with same | ⟨isZero, same⟩
  · rw [same]
  · have finite := isFinite_of_isZero isZero
    have none : x.toInt = 0 ∧ x.unsigned.toInt = 0 :=
      ⟨toInt_of_isZero isZero, toInt_of_isZero (x.isZero_unsigned.trans isZero)⟩
    simp [toInt64, clamp, finite, none]

theorem unsigned_truncate_unsigned : x.unsigned.truncate.unsigned = x.truncate.unsigned := by
  rcases x.unsigned_eq_self_or with same | ⟨isZero, same⟩
  · rw [same]
  · have integral := isIntegral_of_significand (x.isZero_iff.mp isZero)
    have integral' := x.isIntegral_unsigned.trans integral
    rw [truncate_of_isIntegral integral, truncate_of_isIntegral integral', unsigned_unsigned]

theorem equal_unsigned_left {y : Number} : x.unsigned.equal y = x.equal y := by
  simp [equal]

end Number

-- ---------------------------------------------------------------------------
-- Parts of a value
-- ---------------------------------------------------------------------------

namespace Value

variable {v operand : Value}

@[simp] theorem normal_eq_null : v.normal = .null ↔ v = .null := by
  cases v <;> simp

@[simp] theorem normal_eq_array :
    (∃ items, v.normal = .array items) ↔ ∃ items, v = .array items := by
  cases v <;> simp

@[simp] theorem isNull_normal : v.normal.isNull = v.isNull := by
  cases v <;> simp [isNull]

@[simp] theorem typeName_normal : v.normal.typeName = v.typeName := by
  cases v <;> simp [typeName]

@[simp] theorem string?_normal : v.normal.string? = v.string? := by
  cases v <;> simp [string?]

@[simp] theorem array?_normal : v.normal.array? = v.array?.map (List.map normal) := by
  cases v <;> simp [array?]

@[simp] theorem isTruthy_normal : v.normal.isTruthy = v.isTruthy := by
  cases v <;> simp [isTruthy]

@[simp] theorem operands_normal : v.normal.operands = v.operands.map normal := by
  cases v <;> simp [operands]

@[simp] theorem length_normal : v.normal.length = v.length := by
  cases v <;> simp [length]

@[simp] theorem isCount_normal (n : Nat) : v.normal.isCount n = v.isCount n := by
  cases v <;> simp [isCount, Number.equal_unsigned_left]

@[simp] theorem datePartIs_normal (op : QueryOperator) :
    v.normal.datePartIs op operand.normal = v.datePartIs op operand := by
  cases v <;> cases operand <;> simp [datePartIs, Number.equal_unsigned_left]

@[simp] theorem asBool_normal : v.normal.asBool = v.asBool := by
  cases v <;> simp [asBool, isTruthy]

@[simp] theorem asByte?_normal : v.normal.asByte? = v.asByte? := by
  cases v with
  | number x =>
    rcases x.unsigned_eq_self_or with same | ⟨isZero, same⟩
    · simp [same]
    · simp [asByte?, isZero]
  | _ => simp [asByte?]

theorem asDate_normal (unique : v.UniqueKeys) : v.normal.asDate.normal = v.asDate.normal := by
  cases v with
  | number x =>
    have read : Instant.ofNumber? x.unsigned = Instant.ofNumber? x := by simp [Instant.ofNumber?]
    rw [normal_number, asDate, asDate, read]
    cases Instant.ofNumber? x <;> simp [Number.unsigned_unsigned]
  | array items | object fields => exact normal_normal unique
  | _ => rfl

theorem mapM_asByte?_normal (items : List Value) :
    (items.map normal).mapM asByte? = items.mapM asByte? := by
  induction items with
  | nil => rfl
  | cons v rest ih => rw [List.map_cons, List.mapM_cons, List.mapM_cons, asByte?_normal, ih]

theorem asBuffer_normal (unique : v.UniqueKeys) : v.normal.asBuffer.normal = v.asBuffer.normal := by
  cases v with
  | array items =>
    rw [normal_array, asBuffer, asBuffer, mapM_asByte?_normal]
    cases items.mapM asByte? with
    | some bytes => rfl
    | none => exact normal_array items ▸ normal_normal unique
  | number x => simp [asBuffer, Number.unsigned_unsigned]
  | object fields => exact normal_normal unique
  | _ => rfl

end Value

-- ---------------------------------------------------------------------------
-- Coercion
-- ---------------------------------------------------------------------------

theorem Kind.coerce_normal {v : Value} (kind : Kind) (unique : v.UniqueKeys) :
    (kind.coerce v.normal).normal = (kind.coerce v).normal := by
  cases kind with
  | mixed | object | enumeration elements => exact Value.normal_normal unique
  | virtual field => rfl
  | boolean => simp [coerce]
  | date => exact Value.asDate_normal unique
  | buffer => exact Value.asBuffer_normal unique
  | string | id strategy =>
    cases v with
    | number x => simp [coerce, Number.text_unsigned]
    | array items | object fields => exact Value.normal_normal unique
    | _ => rfl
  | number =>
    cases v with
    | number x => simp [coerce, Value.asNumber?, Number.unsigned_unsigned]
    | array items | object fields => exact Value.normal_normal unique
    | _ => rfl
  | integer =>
    cases v with
    | number x => simp [coerce, Value.asNumber?, Number.unsigned_truncate_unsigned]
    | array items | object fields => exact Value.normal_normal unique
    | _ => rfl

/-- What a kind coerces stays as it is or becomes a scalar. -/
theorem Kind.coerce_eq_self_or_isScalar (kind : Kind) (v : Value) :
    kind.coerce v = v ∨ (kind.coerce v).IsScalar := by
  cases kind with
  | mixed | object | enumeration elements => exact .inl rfl
  | virtual field | boolean => exact .inr (by simp [coerce, Value.IsScalar])
  | date =>
    cases v with
    | string s | number x => simp only [coerce, Value.asDate]; split <;> simp [Value.IsScalar]
    | _ => exact .inl rfl
  | buffer =>
    cases v with
    | string s | array items => simp only [coerce, Value.asBuffer]; split <;> simp [Value.IsScalar]
    | _ => exact .inl rfl
  | string | id strategy =>
    cases v <;> first | exact .inl rfl | exact .inr (by simp [coerce, Value.IsScalar])
  | number | integer =>
    simp only [coerce]
    split
    · exact .inr (by simp [Value.IsScalar])
    · exact .inl rfl

theorem Kind.uniqueKeys_coerce {v : Value} (kind : Kind) (unique : v.UniqueKeys) :
    (kind.coerce v).UniqueKeys := by
  rcases kind.coerce_eq_self_or_isScalar v with same | scalar
  · rwa [same]
  · exact .scalar scalar

namespace FieldType

variable {type child : FieldType} {opts : Options} {kind : Kind} {v w operand : Value}
  {items : List Value}

theorem coerce_leaf (present : v ≠ .null) : (leaf kind opts).coerce v = kind.coerce v := by
  cases v <;> first | rfl | exact absurd rfl present

theorem coerce_single (present : v ≠ .null) (single : ∀ items, v ≠ .array items) :
    (array child opts).coerce v = .array [child.coerce v] := by
  cases v with
  | null => exact absurd rfl present
  | array items => exact absurd rfl (single items)
  | _ => rfl

theorem uniqueKeys_coerce (type : FieldType) (unique : v.UniqueKeys) :
    (type.coerce v).UniqueKeys := by
  induction type generalizing v with
  | leaf kind opts =>
    cases v with
    | null => exact unique
    | _ => exact kind.uniqueKeys_coerce unique
  | array child opts ih =>
    cases v with
    | null => exact unique
    | array items =>
      have each := Value.uniqueKeys_array.mp unique
      exact .array (List.forall_mem_map.mpr fun v mem => ih (each v mem))
    | _ => exact .array (List.forall_mem_singleton.mpr (ih unique))

/-- A value and its normal form are coerced to the same, up to normal form. -/
theorem coerce_normal (type : FieldType) (unique : v.UniqueKeys) :
    (type.coerce v.normal).normal = (type.coerce v).normal := by
  induction type generalizing v with
  | leaf kind opts =>
    by_cases null : v = .null
    · subst null
      rfl
    · rw [coerce_leaf (mt Value.normal_eq_null.mp null), coerce_leaf null]
      exact kind.coerce_normal unique
  | array child opts ih =>
    by_cases single : ∃ items, v = .array items
    · obtain ⟨items, rfl⟩ := single
      have each := Value.uniqueKeys_array.mp unique
      simp only [Value.normal_array, coerce, List.map_map, Value.array.injEq]
      exact List.map_congr_left fun v mem => ih (each v mem)
    · have single' := mt Value.normal_eq_array.mp single
      by_cases null : v = .null
      · subst null
        rfl
      · rw [coerce_single (mt Value.normal_eq_null.mp null) (not_exists.mp single'),
          coerce_single null (not_exists.mp single)]
        simp only [Value.normal_array, List.map_cons, List.map_nil, ih unique]

-- ---------------------------------------------------------------------------
-- Comparison and match
-- ---------------------------------------------------------------------------

theorem compareItems_map {f : Value → Value} {item : Value → Value → Ordering} {l m : List Value}
    (same : ∀ v ∈ l, ∀ w ∈ m, item (f v) (f w) = item v w) :
    compareItems item (l.map f) (m.map f) = compareItems item l m := by
  induction l generalizing m with
  | nil => cases m <;> rfl
  | cons v rest ih =>
    cases m with
    | nil => rfl
    | cons w others =>
      rw [List.map_cons, List.map_cons, compareItems, compareItems, same v (.head _) w (.head _),
        ih fun v mem w mem' => same v (.tail _ mem) w (.tail _ mem')]

theorem matchItems_map {f : Value → Value} {item : Value → Value → Bool} {l m : List Value}
    (same : ∀ v ∈ l, ∀ w ∈ m, item (f v) (f w) = item v w) :
    matchItems item (l.map f) (m.map f) = matchItems item l m := by
  induction l generalizing m with
  | nil => cases m <;> rfl
  | cons v rest ih =>
    cases m with
    | nil => rfl
    | cons w others =>
      rw [List.map_cons, List.map_cons, matchItems, matchItems, same v (.head _) w (.head _),
        ih fun v mem w mem' => same v (.tail _ mem) w (.tail _ mem')]

theorem compare_normal_of_null (null : v = .null ∨ w = .null) :
    type.compare v.normal w.normal = type.compare v w := by
  rcases null with rfl | rfl
  · cases type <;> cases w <;> rfl
  · cases type <;> cases v <;> rfl

/-- Values that are not compared item by item stand in the order of values. -/
theorem compare_eq_order (present : ¬ (v = .null ∨ w = .null)) (plain : type.isArray = true →
    ¬ ((∃ l, v = .array l) ∧ ∃ m, w = .array m)) : type.compare v w = v.order w := by
  obtain ⟨present, present'⟩ := not_or.mp present
  cases type with
  | leaf kind opts => rw [compare] <;> simp_all
  | array child opts => rw [compare] <;> simp_all [isArray]

theorem compare_normal (type : FieldType) (unique : v.UniqueKeys) (unique' : w.UniqueKeys) :
    type.compare v.normal w.normal = type.compare v w := by
  induction type generalizing v w with
  | leaf kind opts =>
    by_cases null : v = .null ∨ w = .null
    · exact compare_normal_of_null null
    · rw [compare_eq_order null (by simp [isArray]), compare_eq_order (by simpa using null)
        (by simp [isArray]), Value.order_normal_normal unique unique']
  | array child opts ih =>
    by_cases null : v = .null ∨ w = .null
    · exact compare_normal_of_null null
    · by_cases arrays : (∃ l, v = .array l) ∧ ∃ m, w = .array m
      · obtain ⟨⟨l, rfl⟩, m, rfl⟩ := arrays
        rw [Value.uniqueKeys_array] at unique unique'
        simp only [Value.normal_array, compare]
        exact compareItems_map fun v mem w mem' => ih (unique v mem) (unique' w mem')
      · have arrays' : ¬ ((∃ l, v.normal = .array l) ∧ ∃ m, w.normal = .array m) := by
          simpa using arrays
        rw [compare_eq_order null fun _ => arrays, compare_eq_order (by simpa using null)
          fun _ => arrays', Value.order_normal_normal unique unique']

/-- The comparison depends on the normal forms only. -/
theorem compare_congr {v' w' : Value} (unique : v.UniqueKeys) (unique' : w.UniqueKeys)
    (unique₂ : v'.UniqueKeys) (unique₂' : w'.UniqueKeys) (same : v.normal = v'.normal)
    (same' : w.normal = w'.normal) : type.compare v w = type.compare v' w' := by
  rw [← compare_normal type unique unique', ← compare_normal type unique₂ unique₂', same, same']

theorem isMatch_leaf (present : v ≠ .null) (present' : w ≠ .null) : (leaf kind opts).isMatch v w =
    v.equal (if kind.coercesQueries then kind.coerce w else w) := by
  rw [isMatch] <;> simp_all

theorem isMatch_normal_of_null (null : v = .null ∨ w = .null) :
    type.isMatch v.normal w.normal = type.isMatch v w := by
  rcases null with rfl | rfl
  · cases type <;> cases w <;> rfl
  · cases type <;> cases v <;> rfl

theorem isMatch_normal (type : FieldType) (unique : v.UniqueKeys) (unique' : w.UniqueKeys) :
    type.isMatch v.normal w.normal = type.isMatch v w := by
  induction type generalizing v w with
  | leaf kind opts =>
    by_cases null : v = .null ∨ w = .null
    · exact isMatch_normal_of_null null
    · obtain ⟨present, present'⟩ := not_or.mp null
      rw [isMatch_leaf present present', isMatch_leaf (mt Value.normal_eq_null.mp present)
        (mt Value.normal_eq_null.mp present')]
      split
      · exact Value.equal_congr unique.normal (kind.uniqueKeys_coerce unique'.normal) unique
          (kind.uniqueKeys_coerce unique') (Value.normal_normal unique) (kind.coerce_normal unique')
      · exact Value.equal_normal_normal unique unique'
  | array child opts ih =>
    cases v <;> cases w <;> try rfl
    rw [Value.uniqueKeys_array] at unique unique'
    simp only [Value.normal_array, isMatch]
    exact matchItems_map fun v mem w mem' => ih (unique v mem) (unique' w mem')

-- ---------------------------------------------------------------------------
-- Operators
-- ---------------------------------------------------------------------------

theorem ordered_normal (test : Ordering → Bool) (unique : v.UniqueKeys)
    (unique' : operand.UniqueKeys) :
    type.ordered test v.normal operand.normal = type.ordered test v operand := by
  have compared : type.compare v.normal (type.coerce operand.normal) =
      type.compare v (type.coerce operand) :=
    compare_congr unique.normal (type.uniqueKeys_coerce unique'.normal) unique
      (type.uniqueKeys_coerce unique') (Value.normal_normal unique) (type.coerce_normal unique')
  simp [ordered, compared]

theorem within_normal (unique : v.UniqueKeys) (unique' : operand.UniqueKeys) :
    type.within v.normal operand.normal = type.within v operand := by
  cases operand with
  | array items =>
    have each := Value.uniqueKeys_array.mp unique'
    match items with
    | [] | [_] | _ :: _ :: _ :: _ => rfl
    | [low, high] =>
      simp only [Value.normal_array, List.map_cons, List.map_nil, within]
      rw [ordered_normal _ unique (each low (by simp)),
        ordered_normal _ unique (each high (by simp))]
  | _ => rfl

theorem uniqueKeys_operands (unique : operand.UniqueKeys) :
    ∀ w ∈ operand.operands, w.UniqueKeys := by
  cases operand with
  | array items => exact Value.uniqueKeys_array.mp unique
  | _ => exact List.forall_mem_singleton.mpr unique

theorem any_operands_normal {test other : Value → Bool} (unique : operand.UniqueKeys)
    (same : ∀ w, w.UniqueKeys → test w.normal = other w) :
    operand.normal.operands.any test = operand.operands.any other := by
  rw [Value.operands_normal, List.any_map, Bool.eq_iff_iff, List.any_eq_true, List.any_eq_true]
  exact exists_congr fun w => and_congr_right fun mem => by
    rw [Function.comp_apply, same w (uniqueKeys_operands unique w mem)]

theorem all_operands_normal {test other : Value → Bool} (unique : operand.UniqueKeys)
    (same : ∀ w, w.UniqueKeys → test w.normal = other w) :
    operand.normal.operands.all test = operand.operands.all other := by
  rw [Value.operands_normal, List.all_map, Bool.eq_iff_iff, List.all_eq_true, List.all_eq_true]
  exact forall₂_congr fun w mem => by
    rw [Function.comp_apply, same w (uniqueKeys_operands unique w mem)]

theorem containsMatch_normal (each : ∀ v ∈ items, v.UniqueKeys) (unique : operand.UniqueKeys) :
    child.containsMatch (items.map Value.normal) operand.normal =
      child.containsMatch items operand := by
  rw [containsMatch, containsMatch, List.any_map, Bool.eq_iff_iff, List.any_eq_true,
    List.any_eq_true]
  exact exists_congr fun v => and_congr_right fun mem => by
    rw [Function.comp_apply, isMatch_normal child (each v mem) unique]

theorem uniqueKeys_items (unique : v.UniqueKeys) : ∀ w ∈ v.array?.getD [], w.UniqueKeys := by
  cases v with
  | array items => exact Value.uniqueKeys_array.mp unique
  | _ => simp [Value.array?]

theorem queryItems?_normal (op : QueryOperator) (unique : v.UniqueKeys)
    (unique' : operand.UniqueKeys) :
    child.queryItems? op v.normal operand.normal = child.queryItems? op v operand := by
  have items : v.normal.array?.getD [] = (v.array?.getD []).map Value.normal := by
    cases v <;> simp [Value.array?]
  have contains : ∀ w : Value, w.UniqueKeys →
      child.containsMatch ((v.array?.getD []).map Value.normal) w.normal =
        child.containsMatch (v.array?.getD []) w :=
    fun w unique' => containsMatch_normal (uniqueKeys_items unique) unique'
  cases op <;> simp only [queryItems?, items, any_operands_normal unique' contains,
    all_operands_normal unique' contains, List.length_map, Value.isCount_normal]

theorem queryValue_normal (op : QueryOperator) (unique : v.UniqueKeys)
    (unique' : operand.UniqueKeys) :
    type.queryValue op v.normal operand.normal = type.queryValue op v operand := by
  have listed : operand.normal.operands.any (type.isMatch v.normal) =
      operand.operands.any (type.isMatch v) :=
    any_operands_normal unique' fun w unique' => isMatch_normal type unique unique'
  cases op <;> simp only [queryValue, Value.isNull_normal, Value.isTruthy_normal, listed,
    isMatch_normal _ unique unique', ordered_normal _ unique unique', within_normal unique unique',
    Value.length_normal, Value.isCount_normal, Value.datePartIs_normal]

/-- No operator tells values from their normal forms. -/
theorem query_normal (type : FieldType) (op : QueryOperator) (unique : v.UniqueKeys)
    (unique' : operand.UniqueKeys) :
    type.query op v.normal operand.normal = type.query op v operand := by
  cases type with
  | leaf kind opts => simp only [query, queryValue_normal op unique unique']
  | array child opts =>
    simp only [query, queryItems?_normal op unique unique', queryValue_normal op unique unique']

end FieldType

end DocStore
