import DocStore.Value

/-!
# Parts of a value

The items of an array and the members of an object are smaller than the whole, so what is said of
values may be defined and proved by way of them.
-/

namespace DocStore.Value

theorem sizeOf_item {items : List Value} (mem : v ∈ items) :
    sizeOf v < sizeOf (Value.array items) := by
  have := List.sizeOf_lt_of_mem mem
  rw [Value.array.sizeOf_spec]
  omega

theorem sizeOf_member {fields : Fields} (mem : (k, v) ∈ fields) :
    sizeOf v < sizeOf (Value.object fields) := by
  have := List.sizeOf_lt_of_mem mem
  rw [Prod.mk.sizeOf_spec] at this
  rw [Value.object.sizeOf_spec]
  omega

/-- Neither an array nor an object. -/
def IsScalar (v : Value) : Prop := (∀ items, v ≠ .array items) ∧ ∀ fields, v ≠ .object fields

/-- What holds of a value if it holds of its items and members. -/
@[elab_as_elim]
theorem induction {motive : Value → Prop} (scalar : ∀ v, v.IsScalar → motive v)
    (array : ∀ items, (∀ v ∈ items, motive v) → motive (.array items))
    (object : ∀ fields, (∀ k v, (k, v) ∈ fields → motive v) → motive (.object fields))
    (v : Value) : motive v :=
  match v with
  | .array items => array items fun v mem => induction scalar array object v
  | .object fields => object fields fun k v mem => induction scalar array object v
  | .null | .bool _ | .number _ | .string _ | .date _ | .buffer _ => scalar _ (by simp [IsScalar])
termination_by v
decreasing_by
  · exact sizeOf_item mem
  · exact sizeOf_member mem

/-- What holds of an object if it holds of its members and of the items of those that are arrays. -/
@[elab_as_elim]
theorem member_induction {motive : Value → Prop}
    (other : ∀ v, (∀ fields, v ≠ .object fields) → motive v)
    (object : ∀ fields, (∀ k v, (k, v) ∈ fields → motive v) →
      (∀ k items, (k, .array items) ∈ fields → ∀ v ∈ items, motive v) → motive (.object fields))
    (v : Value) : motive v := by
  suffices both : motive v ∧ ∀ items, v = .array items → ∀ w ∈ items, motive w from both.1
  induction v using Value.induction with
  | scalar v scalar => exact ⟨other v scalar.2, fun items h => absurd h (scalar.1 items)⟩
  | array items ih => exact ⟨other _ (by simp), fun _ h w mem => (ih w (by simp_all)).1⟩
  | object fields ih =>
    refine ⟨object fields (fun k v mem => (ih k v mem).1) fun k items mem w held => ?_, nofun⟩
    exact (ih k _ mem).2 items rfl w held

end DocStore.Value
