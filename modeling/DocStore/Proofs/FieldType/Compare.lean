import DocStore.Proofs.FieldType.Normal
import DocStore.SortSpec

/-!
# Typed and untyped comparison

A type asks for null itself and compares the items of an array by the type of the items. The order
of values knows no types. The two agree on all values, also on those that the type would refuse, so
that sorting does not depend on the schema.
-/

namespace DocStore

namespace FieldType

variable {type : FieldType} {v w : Value}

/-- Items that are compared one by one as values are compared as the arrays of them. -/
theorem compareItems_eq_order {item : Value → Value → Ordering} (l m : List Value)
    (same : ∀ v w, item v w = v.order w) :
    compareItems item l m = (Value.array l).order (.array m) := by
  change _ = Value.orderItems (Value.sortedItems l) (Value.sortedItems m)
  induction l generalizing m with
  | nil => cases m <;> rfl
  | cons v rest ih =>
    cases m with
    | nil => rfl
    | cons w others =>
      rw [compareItems, same v w, ih]
      rfl

/-- Null stands before every other value, whatever the type. -/
theorem compare_of_null (null : v = .null ∨ w = .null) : type.compare v w = v.order w := by
  rcases null with rfl | rfl
  · cases type <;> cases w <;> rfl
  · cases type <;> cases v <;> rfl

/-- The order of a type is that of values, also where a value is not of the type. -/
theorem compare_typed (type : FieldType) (v w : Value) : type.compare v w = v.order w := by
  induction type generalizing v w with
  | leaf kind opts =>
    by_cases null : v = .null ∨ w = .null
    · exact compare_of_null null
    · exact compare_eq_order null (by simp [isArray])
  | array child opts ih =>
    by_cases null : v = .null ∨ w = .null
    · exact compare_of_null null
    by_cases arrays : (∃ l, v = .array l) ∧ ∃ m, w = .array m
    · obtain ⟨⟨l, rfl⟩, m, rfl⟩ := arrays
      rw [compare]
      exact compareItems_eq_order l m ih
    · exact compare_eq_order null fun _ => arrays

/-- The comparison of a type is the order of values. -/
theorem compare_untyped (type : FieldType) : type.compare = Value.order := by
  funext v w
  exact compare_typed type v w

/-- An item that the type of the items would refuse is compared as any other. -/
example : (array (array (ofKind .date) {}) {}).compare
    (.array [.array [.string "soon"], .null])
    (.array [.array [.string "soon"], .bool false]) = .lt :=
  rfl

end FieldType

/-- Sort keys put records in one order under all schemas. -/
theorem SortSpec.compare_eq (spec : SortSpec) (schema other : Schema) (a b : Fields) :
    spec.compare schema a b = spec.compare other a b := by
  induction spec with
  | nil => rfl
  | cons key rest ih => simp only [compare, FieldType.compare_typed, ih]

end DocStore
