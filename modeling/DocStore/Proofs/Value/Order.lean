import DocStore.Proofs.Value.Normal

/-!
# Equality and order

Values without NaNs are equal exactly when neither comes before the other, nested objects and arrays
included: both come down to their normal forms being the same.
-/

namespace DocStore

-- ---------------------------------------------------------------------------
-- Scalars
-- ---------------------------------------------------------------------------

theorem Number.order_eq_iff {x y : Number} (real : x.isNaN = false) (real' : y.isNaN = false) :
    x.order y = .eq ↔ x.unsigned = y.unsigned := by
  have keys : x.order y = .eq ↔ x.key = y.key := by
    simp [order, real, real']
  rw [keys]
  constructor
  · intro same
    exact unsigned_of_equal (by simp [equal, real, real', same])
  · intro same
    rw [← x.key_unsigned, same, y.key_unsigned]

theorem Instant.order_eq_iff {s t : Instant} : s.order t = .eq ↔ s = t := by
  obtain ⟨seconds, nanos⟩ := s
  obtain ⟨seconds', nanos'⟩ := t
  simp [order, Ordering.then_eq_eq]

namespace Value

theorem orderBytes_eq_iff {a b : List UInt8} : orderBytes a b = .eq ↔ a = b := by
  induction a generalizing b with
  | nil => cases b <;> simp [orderBytes]
  | cons x rest ih =>
    cases b with
    | nil => simp [orderBytes]
    | cons y others =>
      simp [orderBytes, Ordering.then_eq_eq, ih]

-- ---------------------------------------------------------------------------
-- Values without NaNs
-- ---------------------------------------------------------------------------

/-- No number in the value is a NaN, however deep. -/
inductive IsOrdinary : Value → Prop
  | scalar : v.IsScalar → (∀ x, v = .number x → x.isNaN = false) → IsOrdinary v
  | array : (∀ v ∈ items, IsOrdinary v) → IsOrdinary (.array items)
  | object : (∀ k v, (k, v) ∈ fields → IsOrdinary v) → IsOrdinary (.object fields)

variable {v w : Value} {items l m : List Value} {fields a b : Fields}

theorem isOrdinary_number {x : Number} : (Value.number x).IsOrdinary ↔ x.isNaN = false :=
  ⟨fun | .scalar _ real => real x rfl,
    fun real => .scalar (by simp [IsScalar]) fun _ same => number.inj same ▸ real⟩

theorem isOrdinary_array : (Value.array items).IsOrdinary ↔ ∀ v ∈ items, v.IsOrdinary :=
  ⟨fun | .array each => each | .scalar scalar _ => absurd rfl (scalar.1 items), .array⟩

theorem isOrdinary_object :
    (Value.object fields).IsOrdinary ↔ ∀ k v, (k, v) ∈ fields → v.IsOrdinary :=
  ⟨fun | .object each => each | .scalar scalar _ => absurd rfl (scalar.2 fields), .object⟩

theorem IsOrdinary.sorted (ordinary : v.IsOrdinary) : v.sorted.IsOrdinary := by
  induction ordinary with
  | @scalar v scalar real =>
    cases v with
    | array items => exact absurd rfl (scalar.1 items)
    | object fields => exact absurd rfl (scalar.2 fields)
    | _ => exact .scalar scalar real
  | array _ ih =>
    rw [Value.sorted, sortedItems_eq_map]
    exact .array (List.forall_mem_map.mpr ih)
  | @object fields _ ih =>
    rw [Value.sorted]
    refine .object fun k w mem => ?_
    have mem := sortedFields_perm.mem_iff.mp mem
    rw [List.append_nil, List.mem_map] at mem
    obtain ⟨e, held, same⟩ := mem
    obtain ⟨-, rfl⟩ := Prod.mk.inj same
    exact ih e.1 e.2 held

-- ---------------------------------------------------------------------------
-- Equality
-- ---------------------------------------------------------------------------

theorem equalItems_refl (each : ∀ v ∈ items, v.equal v = true) :
    equalItems items items = true := by
  induction items with
  | nil => rfl
  | cons v rest ih =>
    obtain ⟨first, others⟩ := List.forall_mem_cons.mp each
    rw [equalItems, first, ih others, Bool.and_self]

theorem equal_refl (unique : v.UniqueKeys) (ordinary : v.IsOrdinary) : v.equal v = true := by
  induction unique with
  | @scalar v scalar =>
    cases v with
    | number x => simp [equal, Number.equal, isOrdinary_number.mp ordinary]
    | array items => exact absurd rfl (scalar.1 items)
    | object fields => exact absurd rfl (scalar.2 fields)
    | _ => simp [equal]
  | array _ ih =>
    rw [equal]
    exact equalItems_refl fun v mem => ih v mem (isOrdinary_array.mp ordinary v mem)
  | object nodup _ ih =>
    refine equal_object.mpr ⟨rfl, fun e mem => ?_⟩
    exact ⟨e.2, Fields.get?_of_mem nodup mem, ih e.1 e.2 mem (isOrdinary_object.mp ordinary _ _ mem)⟩

theorem equal_iff_normal (unique : v.UniqueKeys) (unique' : w.UniqueKeys)
    (ordinary : v.IsOrdinary) : v.equal w = true ↔ v.normal = w.normal := by
  refine ⟨normal_of_equal unique unique', fun same => ?_⟩
  rw [equal_congr unique unique' unique unique rfl same.symm]
  exact equal_refl unique ordinary

-- ---------------------------------------------------------------------------
-- Order
-- ---------------------------------------------------------------------------

theorem orderItems_eq_iff (each : ∀ v ∈ l, ∀ w ∈ m,
      (orderSorted v w = .eq ↔ v.unsigned = w.unsigned)) :
    orderItems l m = .eq ↔ l.map unsigned = m.map unsigned := by
  induction l generalizing m with
  | nil => cases m <;> simp [orderItems]
  | cons v rest ih =>
    cases m with
    | nil => simp [orderItems]
    | cons w others =>
      have later := ih fun v mem w mem' => each v (.tail _ mem) w (.tail _ mem')
      simp [orderItems, Ordering.then_eq_eq, each v (.head _) w (.head _), later]

theorem orderFields_eq_iff (each : ∀ e ∈ a, ∀ f ∈ b,
      (orderSorted e.2 f.2 = .eq ↔ e.2.unsigned = f.2.unsigned)) :
    orderFields a b = .eq ↔ a.unsigned = b.unsigned := by
  induction a generalizing b with
  | nil => cases b <;> simp [orderFields, Fields.unsigned]
  | cons e rest ih =>
    cases b with
    | nil => simp [orderFields, Fields.unsigned]
    | cons f others =>
      have later := ih fun e mem f mem' => each e (.tail _ mem) f (.tail _ mem')
      simp only [Fields.unsigned] at later
      simp [orderFields, Fields.unsigned, Ordering.then_eq_eq, each e (.head _) f (.head _), later]

/-- Sorted values that stand level are the same but for the signs of zeros. -/
theorem orderSorted_eq_iff (ordinary : v.IsOrdinary) (ordinary' : w.IsOrdinary) :
    orderSorted v w = .eq ↔ v.unsigned = w.unsigned := by
  induction ordinary generalizing w with
  | @scalar v scalar real =>
    cases v with
    | array items => exact absurd rfl (scalar.1 items)
    | object fields => exact absurd rfl (scalar.2 fields)
    | number x =>
      cases w with
      | number y =>
        have order := Number.order_eq_iff (real x rfl) (isOrdinary_number.mp ordinary')
        simp [orderSorted, unsigned, mapScalars, order]
      | _ => simp [orderSorted, unsigned, mapScalars, rank]
    | _ =>
      cases w <;> simp [orderSorted, unsigned, mapScalars, rank, Instant.order_eq_iff,
        orderBytes_eq_iff]
  | @array l _ ih =>
    cases w with
    | array m =>
      rw [orderSorted, unsigned_array, unsigned_array, array.injEq]
      exact orderItems_eq_iff fun v mem w mem' => ih v mem (isOrdinary_array.mp ordinary' w mem')
    | _ => simp [orderSorted, unsigned, mapScalars, rank]
  | @object a _ ih =>
    cases w with
    | object b =>
      rw [orderSorted, unsigned_object, unsigned_object, object.injEq]
      exact orderFields_eq_iff fun e mem f mem' =>
        ih e.1 e.2 mem (isOrdinary_object.mp ordinary' f.1 f.2 mem')
    | _ => simp [orderSorted, unsigned, mapScalars, rank]

/-- Neither of two values comes before the other exactly when they are equal. -/
theorem order_eq_iff (unique : v.UniqueKeys) (unique' : w.UniqueKeys) (ordinary : v.IsOrdinary)
    (ordinary' : w.IsOrdinary) : v.order w = .eq ↔ v.equal w = true := by
  rw [equal_iff_normal unique unique' ordinary, order]
  exact orderSorted_eq_iff ordinary.sorted ordinary'.sorted

end Value

end DocStore
