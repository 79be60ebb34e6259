import DocStore.Proofs.Value.Json
import DocStore.Proofs.Value.Parts
import Mathlib.Data.List.Sort
import Mathlib.Data.String.Basic

/-!
# Normal forms of values

The members of an object in the order of their keys and zeros without their signs. Values that are
equal have the same normal form, and neither equality nor order tells a value from its normal form.
-/

namespace DocStore

-- ---------------------------------------------------------------------------
-- Numbers
-- ---------------------------------------------------------------------------

namespace Number

variable {x y : Number}

@[simp] theorem magnitude_unsigned : x.unsigned.magnitude = x.magnitude := by
  unfold unsigned
  split
  · rename_i isZero
    exact (beq_iff_eq.mp isZero).symm
  · rfl

@[simp] theorem key_unsigned : x.unsigned.key = x.key := by
  unfold unsigned
  split
  · rename_i isZero
    have nothing : x.magnitude = 0 := beq_iff_eq.mp isZero
    have key : x.key = 0 := by simp [Number.key, nothing]
    exact key.symm
  · rfl

@[simp] theorem isNaN_unsigned : x.unsigned.isNaN = x.isNaN := by
  simp [isNaN]

@[simp] theorem isZero_unsigned : x.unsigned.isZero = x.isZero := by
  simp [isZero]

theorem unsigned_unsigned : x.unsigned.unsigned = x.unsigned := by
  cases isZero : x.isZero <;> simp [unsigned, isZero]

theorem equal_unsigned_unsigned : x.unsigned.equal y.unsigned = x.equal y := by
  simp [equal]

theorem order_unsigned_unsigned : x.unsigned.order y.unsigned = x.order y := by
  simp [order]

theorem unsigned_of_equal (same : x.equal y = true) : x.unsigned = y.unsigned := by
  have keys : x.key = y.key := by simp_all [equal]
  by_cases nothing : x.magnitude = 0
  · have other : y.magnitude = 0 := by
      simp only [key, nothing] at keys
      split at keys <;> split at keys <;> omega
    simp [unsigned, isZero, nothing, other]
  · have sign : x.isNegative = y.isNegative ∧ x.magnitude = y.magnitude := by
      simp only [key] at keys
      split at keys <;> split at keys <;> simp_all
    rw [← ofMagnitude_magnitude x, ← ofMagnitude_magnitude y, sign.1, sign.2]

end Number

-- ---------------------------------------------------------------------------
-- Sorted members
-- ---------------------------------------------------------------------------

namespace Value

/-- Of its members no object has two with one key, however deep. -/
inductive UniqueKeys : Value → Prop
  | scalar : v.IsScalar → UniqueKeys v
  | array : (∀ v ∈ items, UniqueKeys v) → UniqueKeys (.array items)
  | object : (fields.map Prod.fst).Nodup → (∀ k v, (k, v) ∈ fields → UniqueKeys v) →
      UniqueKeys (.object fields)

variable {v w : Value} {e : String × Value} {fields done : Fields}

theorem insertByKey_perm : (insertByKey e fields).Perm (e :: fields) := by
  induction fields with
  | nil => exact .refl _
  | cons first rest ih =>
    rw [insertByKey]
    split
    · exact .refl _
    · exact (ih.cons first).trans (.swap e first rest)

/-- The members stand in the order of their keys. -/
def InOrder (fields : Fields) : Prop := fields.Pairwise fun a b => a.1 ≤ b.1

theorem InOrder.insertByKey (sorted : InOrder fields) (e : String × Value) :
    InOrder (insertByKey e fields) := by
  induction sorted with
  | nil => exact List.pairwise_singleton ..
  | @cons first rest below sorted ih =>
    rw [Value.insertByKey]
    split
    · rename_i less
      have front : ∀ b ∈ first :: rest, e.1 ≤ b.1 := List.forall_mem_cons.mpr
        ⟨le_of_lt less, fun b mem => le_trans (le_of_lt less) (below b mem)⟩
      exact .cons front (.cons below sorted)
    · rename_i notLess
      refine .cons (fun b mem => ?_) ih
      rcases List.mem_cons.mp (insertByKey_perm.mem_iff.mp mem) with rfl | mem
      · exact not_lt.mp notLess
      · exact below b mem

theorem sortedItems_eq_map (items : List Value) : sortedItems items = items.map sorted := by
  induction items with
  | nil => rfl
  | cons v rest ih => rw [sortedItems, ih, List.map_cons]

theorem sortedFields_perm :
    (sortedFields fields done).Perm ((fields.map fun e => (e.1, e.2.sorted)) ++ done) := by
  induction fields generalizing done with
  | nil => exact .refl _
  | cons e rest ih =>
    rw [sortedFields]
    exact ih.trans ((insertByKey_perm.append_left _).trans List.perm_middle)

theorem InOrder.sortedFields (sorted : InOrder done) (fields : Fields) :
    InOrder (sortedFields fields done) := by
  induction fields generalizing done with
  | nil => exact sorted
  | cons e rest ih => exact ih (sorted.insertByKey _)

theorem uniqueKeys_array {items : List Value} :
    (Value.array items).UniqueKeys ↔ ∀ v ∈ items, v.UniqueKeys :=
  ⟨fun | .array each => each | .scalar scalar => absurd rfl (scalar.1 items), .array⟩

theorem uniqueKeys_object : (Value.object fields).UniqueKeys ↔
    (fields.map Prod.fst).Nodup ∧ ∀ k v, (k, v) ∈ fields → v.UniqueKeys :=
  ⟨fun | .object nodup each => ⟨nodup, each⟩ | .scalar scalar => absurd rfl (scalar.2 fields),
    fun ⟨nodup, each⟩ => .object nodup each⟩

/-- The value with the members of its objects in order and its zeros without signs. -/
def normal (v : Value) : Value := v.sorted.unsigned

end Value

/-- The fields in order, each in its normal form. -/
def Fields.normal (fields : Fields) : Fields := Fields.unsigned (Value.sortedFields fields [])

-- ---------------------------------------------------------------------------
-- Normal forms
-- ---------------------------------------------------------------------------

namespace Value

variable {v w : Value} {fields a b : Fields} {items : List Value}

@[simp] theorem normal_null : normal .null = .null := rfl
@[simp] theorem normal_bool (c : Bool) : normal (.bool c) = .bool c := rfl
@[simp] theorem normal_number : normal (.number x) = .number x.unsigned := rfl
@[simp] theorem normal_string : normal (.string s) = .string s := rfl
@[simp] theorem normal_date : normal (.date t) = .date t := rfl
@[simp] theorem normal_buffer : normal (.buffer bytes) = .buffer bytes := rfl

@[simp] theorem normal_array (items : List Value) :
    normal (.array items) = .array (items.map normal) := by
  rw [normal, sorted, unsigned_array, sortedItems_eq_map, List.map_map]
  rfl

@[simp] theorem normal_object (fields : Fields) :
    normal (.object fields) = .object fields.normal := by
  rw [normal, sorted, unsigned_object]
  rfl

end Value

namespace Fields

variable {fields other : Fields} {k : String} {v w : Value}

theorem normal_perm (fields : Fields) :
    fields.normal.Perm (fields.map fun e => (e.1, e.2.normal)) := by
  have members : (Value.sortedFields fields []).Perm
      ((fields.map fun e => (e.1, e.2.sorted)) ++ []) := Value.sortedFields_perm
  have unsigned := members.map fun e => (e.1, e.2.unsigned)
  rwa [List.append_nil, List.map_map] at unsigned

@[simp] theorem length_normal (fields : Fields) : fields.normal.length = fields.length :=
  (normal_perm fields).length_eq.trans (List.length_map _)

theorem mem_normal : (k, w) ∈ fields.normal ↔ ∃ v, (k, v) ∈ fields ∧ v.normal = w := by
  rw [(normal_perm fields).mem_iff]
  simp

theorem forall_mem_normal {P : String × Value → Prop} :
    (∀ e ∈ fields.normal, P e) ↔ ∀ e ∈ fields, P (e.1, e.2.normal) := by
  simp only [(normal_perm fields).mem_iff, List.forall_mem_map]

theorem exists_mem_normal {P : String × Value → Prop} :
    (∃ e ∈ fields.normal, P e) ↔ ∃ e ∈ fields, P (e.1, e.2.normal) := by
  simp [(normal_perm fields).mem_iff]

theorem keys_normal_perm (fields : Fields) :
    (fields.normal.map Prod.fst).Perm (fields.map Prod.fst) := by
  have keys := (normal_perm fields).map Prod.fst
  rwa [List.map_map] at keys

theorem nodup_normal (nodup : (fields.map Prod.fst).Nodup) : (fields.normal.map Prod.fst).Nodup :=
  (keys_normal_perm fields).nodup_iff.mpr nodup

theorem normal_inOrder (fields : Fields) : Value.InOrder fields.normal :=
  List.pairwise_map.mpr (Value.InOrder.sortedFields .nil fields)

theorem get?_normal (nodup : (fields.map Prod.fst).Nodup) (k : String) :
    fields.normal.get? k = (fields.get? k).map Value.normal := by
  ext w
  rw [Option.map_eq_some_iff]
  constructor
  · intro found
    obtain ⟨v, mem, rfl⟩ := mem_normal.mp (mem_of_get? found)
    exact ⟨v, get?_of_mem nodup mem, rfl⟩
  · rintro ⟨v, found, rfl⟩
    exact get?_of_mem (nodup_normal nodup) (mem_normal.mpr ⟨v, mem_of_get? found, rfl⟩)

/-- The order of the members does not matter. -/
theorem normal_eq_of_perm (nodup : (fields.map Prod.fst).Nodup)
    (same : (fields.map fun e => (e.1, e.2.normal)).Perm (other.map fun e => (e.1, e.2.normal))) :
    fields.normal = other.normal := by
  have perm : fields.normal.Perm other.normal :=
    (normal_perm fields).trans (same.trans (normal_perm other).symm)
  refine perm.eq_of_pairwise (fun e e' mem mem' le le' => ?_) (normal_inOrder fields)
    (normal_inOrder other)
  obtain ⟨k, v⟩ := e
  obtain ⟨j, w⟩ := e'
  obtain rfl : k = j := le_antisymm le le'
  have found := get?_of_mem (nodup_normal nodup) mem
  have found' := get?_of_mem (nodup_normal nodup) (perm.mem_iff.mpr mem')
  rw [Option.some.inj (found.symm.trans found')]

end Fields

namespace Value

variable {v w : Value} {fields a b : Fields} {items l m : List Value}

theorem IsScalar.normal (scalar : v.IsScalar) : v.normal.IsScalar := by
  cases v with
  | array items => exact absurd rfl (scalar.1 items)
  | object fields => exact absurd rfl (scalar.2 fields)
  | _ => simp [IsScalar]

theorem UniqueKeys.normal (unique : v.UniqueKeys) : v.normal.UniqueKeys := by
  induction unique with
  | scalar scalar => exact .scalar scalar.normal
  | array _ ih =>
    rw [normal_array]
    exact .array (List.forall_mem_map.mpr ih)
  | object nodup _ ih =>
    rw [normal_object]
    refine .object (Fields.nodup_normal nodup) fun k w mem => ?_
    obtain ⟨v, held, rfl⟩ := Fields.mem_normal.mp mem
    exact ih k v held

theorem normal_normal (unique : v.UniqueKeys) : v.normal.normal = v.normal := by
  induction unique with
  | @scalar v scalar =>
    cases v with
    | number x => simp [Number.unsigned_unsigned]
    | array items => exact absurd rfl (scalar.1 items)
    | object fields => exact absurd rfl (scalar.2 fields)
    | _ => rfl
  | array _ ih => simpa using ih
  | @object fields nodup _ ih =>
    rw [normal_object, normal_object, Value.object.injEq]
    refine Fields.normal_eq_of_perm (Fields.nodup_normal nodup) ?_
    refine ((Fields.normal_perm fields).map _).trans (.of_eq ?_)
    rw [List.map_map]
    exact List.map_congr_left fun e mem => congrArg (Prod.mk e.1) (ih e.1 e.2 mem)

-- ---------------------------------------------------------------------------
-- Equality
-- ---------------------------------------------------------------------------

theorem equalFields_iff : equalFields a b = true ↔
    ∀ e ∈ a, ∃ w, b.get? e.1 = some w ∧ e.2.equal w = true := by
  refine ⟨fun same => ?_, equalFields_of_forall⟩
  induction a with
  | nil => simp
  | cons e rest ih =>
    rw [equalFields, Bool.and_eq_true] at same
    refine List.forall_mem_cons.mpr ⟨?_, ih same.2⟩
    split at same
    · exact ⟨_, ‹_›, same.1⟩
    · simp at same

theorem equal_object : (Value.object a).equal (.object b) = true ↔
    a.length = b.length ∧ ∀ e ∈ a, ∃ w, b.get? e.1 = some w ∧ e.2.equal w = true := by
  rw [equal, Bool.and_eq_true, beq_iff_eq, equalFields_iff]

theorem equalItems_map_map {f : Value → Value}
    (same : ∀ v ∈ l, ∀ w ∈ m, (f v).equal (f w) = v.equal w) :
    equalItems (l.map f) (m.map f) = equalItems l m := by
  induction l generalizing m with
  | nil => cases m <;> rfl
  | cons v rest ih =>
    cases m with
    | nil => rfl
    | cons w others =>
      rw [List.map_cons, List.map_cons, equalItems, equalItems, same v (by simp) w (by simp),
        ih fun v mem w mem' => same v (.tail _ mem) w (.tail _ mem')]

/-- Equality does not tell values from their normal forms. -/
theorem equal_normal_normal (unique : v.UniqueKeys) (unique' : w.UniqueKeys) :
    v.normal.equal w.normal = v.equal w := by
  induction v using Value.induction generalizing w with
  | scalar v scalar =>
    cases v with
    | array items => exact absurd rfl (scalar.1 items)
    | object fields => exact absurd rfl (scalar.2 fields)
    | number x => cases w <;> simp [equal, Number.equal_unsigned_unsigned]
    | _ => cases w <;> simp [equal]
  | array l ih =>
    cases w with
    | array m =>
      rw [uniqueKeys_array] at unique unique'
      simp only [normal_array, equal]
      exact equalItems_map_map fun v mem w mem' => ih v mem (unique v mem) (unique' w mem')
    | _ => simp [equal]
  | object a ih =>
    cases w with
    | object b =>
      rw [uniqueKeys_object] at unique unique'
      rw [Bool.eq_iff_iff, normal_object, normal_object, equal_object, equal_object,
        Fields.length_normal, Fields.length_normal, Fields.forall_mem_normal]
      refine and_congr_right' (forall₂_congr fun e mem => ?_)
      simp only [Fields.get?_normal unique'.1, Option.map_eq_some_iff]
      constructor
      · rintro ⟨_, ⟨w, found, rfl⟩, same⟩
        have unique'' := unique'.2 e.1 w (Fields.mem_of_get? found)
        exact ⟨w, found, (ih e.1 e.2 mem (unique.2 e.1 e.2 mem) unique'').symm.trans same⟩
      · rintro ⟨w, found, same⟩
        have unique'' := unique'.2 e.1 w (Fields.mem_of_get? found)
        exact ⟨_, ⟨w, found, rfl⟩, (ih e.1 e.2 mem (unique.2 e.1 e.2 mem) unique'').trans same⟩
    | _ => simp [equal]

/-- Equality depends on the normal forms only. -/
theorem equal_congr {v' w' : Value} (unique : v.UniqueKeys) (unique' : w.UniqueKeys)
    (unique₂ : v'.UniqueKeys) (unique₂' : w'.UniqueKeys) (same : v.normal = v'.normal)
    (same' : w.normal = w'.normal) : v.equal w = v'.equal w' := by
  rw [← equal_normal_normal unique unique', ← equal_normal_normal unique₂ unique₂', same, same']

theorem map_normal_of_equal (each : ∀ v ∈ l, ∀ w ∈ m, v.equal w = true → v.normal = w.normal)
    (same : equalItems l m = true) : l.map normal = m.map normal := by
  induction l generalizing m with
  | nil => cases m with
    | nil => rfl
    | cons w others => simp [equalItems] at same
  | cons v rest ih =>
    cases m with
    | nil => simp [equalItems] at same
    | cons w others =>
      rw [equalItems, Bool.and_eq_true] at same
      rw [List.map_cons, List.map_cons, each v (.head _) w (.head _) same.1,
        ih (fun v mem w mem' => each v (.tail _ mem) w (.tail _ mem')) same.2]

/-- Values that are equal have one normal form. -/
theorem normal_of_equal (unique : v.UniqueKeys) (unique' : w.UniqueKeys)
    (same : v.equal w = true) : v.normal = w.normal := by
  induction v using Value.induction generalizing w with
  | scalar v scalar =>
    cases v with
    | array items => exact absurd rfl (scalar.1 items)
    | object fields => exact absurd rfl (scalar.2 fields)
    | number x =>
      cases w with
      | number y => exact congrArg Value.number (Number.unsigned_of_equal same)
      | _ => simp [equal] at same
    | _ => cases w <;> simp_all [equal]
  | array l ih =>
    cases w with
    | array m =>
      rw [uniqueKeys_array] at unique unique'
      rw [equal] at same
      rw [normal_array, normal_array, map_normal_of_equal (fun v mem w mem' =>
        ih v mem (unique v mem) (unique' w mem')) same]
    | _ => simp [equal] at same
  | object a ih =>
    cases w with
    | object b =>
      rw [uniqueKeys_object] at unique unique'
      obtain ⟨lengths, members⟩ := equal_object.mp same
      have each : ∀ e ∈ a, (e.1, e.2.normal) ∈ b.map fun e => (e.1, e.2.normal) := by
        intro e mem
        obtain ⟨w, found, same⟩ := members e mem
        have mem' := Fields.mem_of_get? found
        refine List.mem_map.mpr ⟨_, mem', ?_⟩
        rw [ih e.1 e.2 mem (unique.2 e.1 e.2 mem) (unique'.2 e.1 w mem') same]
      have nodup : (a.map fun e => (e.1, e.2.normal)).Nodup :=
        List.Nodup.of_map Prod.fst (by rw [List.map_map]; exact unique.1)
      rw [normal_object, normal_object, Fields.normal_eq_of_perm unique.1]
      exact (nodup.subperm (List.forall_mem_map.mpr each)).perm_of_length_le (by simp [lengths])
    | _ => simp [equal] at same

-- ---------------------------------------------------------------------------
-- Order
-- ---------------------------------------------------------------------------

theorem orderItems_map_unsigned (same : ∀ v ∈ l, ∀ w : Value,
    orderSorted v.unsigned w.unsigned = orderSorted v w) :
    orderItems (l.map unsigned) (m.map unsigned) = orderItems l m := by
  induction l generalizing m with
  | nil => cases m <;> rfl
  | cons v rest ih =>
    cases m with
    | nil => rfl
    | cons w others =>
      rw [List.map_cons, List.map_cons, orderItems, orderItems, same v (by simp) w,
        ih fun v mem => same v (.tail _ mem)]

theorem orderFields_unsigned (same : ∀ k v, (k, v) ∈ a → ∀ w : Value,
    orderSorted v.unsigned w.unsigned = orderSorted v w) :
    orderFields a.unsigned b.unsigned = orderFields a b := by
  induction a generalizing b with
  | nil => cases b <;> rfl
  | cons e rest ih =>
    cases b with
    | nil => rfl
    | cons e' others =>
      simp only [Fields.unsigned, List.map_cons, orderFields] at ih ⊢
      rw [same e.1 e.2 (.head _) e'.2, ih fun k v mem => same k v (.tail _ mem)]

theorem orderSorted_unsigned (v w : Value) :
    orderSorted v.unsigned w.unsigned = orderSorted v w := by
  induction v using Value.induction generalizing w with
  | scalar v scalar =>
    cases v with
    | array items => exact absurd rfl (scalar.1 items)
    | object fields => exact absurd rfl (scalar.2 fields)
    | number x =>
      cases w <;> simp [unsigned, mapScalars, orderSorted, rank, Number.order_unsigned_unsigned]
    | _ => cases w <;> simp [unsigned, mapScalars, orderSorted, rank]
  | array l ih =>
    cases w with
    | array m =>
      simp only [unsigned_array, orderSorted]
      exact orderItems_map_unsigned ih
    | _ => simp [unsigned, mapScalars, orderSorted, rank]
  | object a ih =>
    cases w with
    | object b =>
      simp only [unsigned_object, orderSorted]
      exact orderFields_unsigned ih
    | _ => simp [unsigned, mapScalars, orderSorted, rank]

theorem order_eq (v w : Value) : v.order w = orderSorted v.normal w.normal := by
  rw [order, normal, normal, orderSorted_unsigned]

/-- The order does not tell values from their normal forms. -/
theorem order_normal_normal (unique : v.UniqueKeys) (unique' : w.UniqueKeys) :
    v.normal.order w.normal = v.order w := by
  rw [order_eq, order_eq, normal_normal unique, normal_normal unique']

end Value

end DocStore
