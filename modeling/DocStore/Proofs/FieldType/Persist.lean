import DocStore.FieldType.Persist
import DocStore.Proofs.FieldType.Canonical
import DocStore.Proofs.Value.Json

/-!
# Persisted values

What a type writes it reads back. Only where dates and buffers are, does the type matter: their
texts are taken for strings unless the type says what they stand for.
-/

namespace DocStore

/-- No date and no buffer anywhere inside. -/
inductive Value.Bare : Value → Prop
  | null : Bare .null
  | bool (b) : Bare (.bool b)
  | number (x) : Bare (.number x)
  | string (s) : Bare (.string s)
  | array : (∀ v ∈ items, Bare v) → Bare (.array items)
  | object : (∀ k v, (k, v) ∈ fields → Bare v) → Bare (.object fields)

theorem Value.Bare.reread {v : Value} (bare : v.Bare) : v.reread = v.unsigned := by
  induction bare with
  | @array items _ ih =>
    rw [reread_array, unsigned_array]
    exact congrArg Value.array (List.map_congr_left ih)
  | @object fields _ ih =>
    rw [reread_object, unsigned_object]
    refine congrArg Value.object (List.map_congr_left ?_)
    rintro ⟨k, v⟩ mem
    exact congrArg (Prod.mk k) (ih k v mem)
  | _ => rfl

/-- Dates, buffers, and arrays of them, which are kept as texts. -/
def FieldType.IsTextual : FieldType → Prop
  | .leaf .date _ | .leaf .buffer _ => True
  | .leaf _ _ => False
  | .array child _ => child.IsTextual

-- ---------------------------------------------------------------------------
-- One kind
-- ---------------------------------------------------------------------------

namespace Kind

variable {kind : Kind} {v : Value}

/-- A kind keeps a value as it is, or writes one of the four that it has another form for. -/
inductive Persisted (kind : Kind) (v : Value) : Value → Prop
  | same : Persisted kind v v
  | bool (b) : v = .bool b → Persisted kind v (.number (Number.ofNat (if b then 1 else 0)))
  | date (t) : v = .date t → Persisted kind v (.string t.text)
  | buffer (bytes) : v = .buffer bytes → Persisted kind v (.string (String.ofList (Text.hex bytes)))
  | virtual (field) : kind = .virtual field → Persisted kind v .null

theorem persist_persisted (kind : Kind) (v : Value) : kind.Persisted v (kind.persist v) := by
  cases kind with
  | boolean =>
    cases v with
    | bool b => exact .bool b rfl
    | _ => exact .same
  | date =>
    cases v with
    | date t => exact .date t rfl
    | _ => exact .same
  | buffer =>
    cases v with
    | buffer bytes => exact .buffer bytes rfl
    | _ => exact .same
  | virtual field => exact .virtual field rfl
  | _ => exact .same

theorem isFinite_ofBool (b : Bool) : (Number.ofNat (if b then 1 else 0)).isFinite = true := by
  cases b <;> rfl

theorem Persisted.portable (h : kind.Persisted v w) (portable : v.Portable) : w.Portable := by
  cases h with
  | same => exact portable
  | bool b => exact .number (isFinite_ofBool b)
  | date t => exact .string _
  | buffer bytes => exact .string _
  | virtual field => exact .null

theorem Persisted.isLeaf (h : kind.Persisted v w) (leaf : v.IsLeaf) : w.IsLeaf := by
  cases h with
  | same => exact leaf
  | _ => exact fun c => by simp

theorem Persisted.ne_null (h : kind.Persisted v w) (concrete : ∀ field, kind ≠ .virtual field)
    (present : v ≠ .null) : w ≠ .null := by
  cases h with
  | same => exact present
  | virtual field same => exact absurd same (concrete field)
  | _ => simp

theorem persist_unsigned (kind : Kind) (v : Value) :
    kind.persist v.unsigned = (kind.persist v).unsigned := by
  cases kind with
  | boolean =>
    cases v with
    | bool b => cases b <;> rfl
    | _ => rfl
  | date => cases v <;> rfl
  | buffer => cases v <;> rfl
  | _ => rfl

theorem restore_persist (taken : kind.fault? v = none) (concrete : ∀ field, kind ≠ .virtual field)
    (portable : v.Portable) (placed : v.Bare ∨ FieldType.IsTextual (.leaf kind options)) :
    kind.restore (kind.persist v).reread = v.unsigned := by
  cases kind with
  | virtual field => exact absurd rfl (concrete field)
  | boolean =>
    cases v with
    | bool b => cases b <;> rfl
    | _ => simp [fault?] at taken
  | date =>
    cases portable with
    | @date t stamped =>
      have text : (persist .date (.date t)).reread = .string t.text := rfl
      rw [text, restore, Value.asDate, Instant.ofText?_text stamped]
      rfl
    | _ => simp [fault?] at taken
  | buffer =>
    cases v with
    | buffer bytes =>
      have text : (persist .buffer (.buffer bytes)).reread = .string (String.ofList (Text.hex bytes)) :=
        rfl
      rw [text, restore, Value.asBuffer, String.toList_ofList, Text.bytesOfHex?_hex]
      rfl
    | _ => simp [fault?] at taken
  | _ => exact (placed.resolve_right fun none => none).reread

theorem restore_isLeaf (kind : Kind) (leaf : v.IsLeaf) : (kind.restore v).IsLeaf := by
  cases kind with
  | boolean => exact fun c => by simp [restore]
  | date => exact Value.asDate_ne_object leaf
  | buffer => exact Value.asBuffer_ne_object leaf
  | _ => exact leaf

end Kind

-- ---------------------------------------------------------------------------
-- Any type
-- ---------------------------------------------------------------------------

namespace FieldType

variable {type : FieldType} {v : Value} {path : Path}

theorem persist_leaf (present : v ≠ .null) : persist (.leaf kind opts) v = kind.persist v := by
  cases v with
  | null => exact absurd rfl present
  | _ => rfl

theorem restore_leaf (present : v ≠ .null) : restore (.leaf kind opts) v = kind.restore v := by
  cases v with
  | null => exact absurd rfl present
  | _ => rfl

theorem portable_persist (type : FieldType) (portable : v.Portable) :
    (type.persist v).Portable := by
  induction type generalizing v with
  | leaf kind opts =>
    by_cases present : v = .null
    · subst present
      exact .null
    · rw [persist_leaf present]
      exact (kind.persist_persisted v).portable portable
  | array child opts ih =>
    cases portable with
    | array items =>
      refine .array fun w mem => ?_
      obtain ⟨v, found, rfl⟩ := List.mem_map.mp mem
      exact ih (items v found)
    | null => exact .null
    | bool b => exact .bool b
    | number finite => exact .number finite
    | string s => exact .string s
    | date stamped => exact .date stamped
    | buffer bytes => exact .buffer bytes
    | object nodup members => exact .object nodup members

theorem persist_isLeaf (type : FieldType) (leaf : v.IsLeaf) : (type.persist v).IsLeaf := by
  cases type with
  | leaf kind opts =>
    by_cases present : v = .null
    · subst present
      exact leaf
    · rw [persist_leaf present]
      exact (kind.persist_persisted v).isLeaf leaf
  | array child opts =>
    cases v with
    | array items => exact fun c => by simp [persist]
    | _ => exact leaf

theorem restore_isLeaf (type : FieldType) (leaf : v.IsLeaf) : (type.restore v).IsLeaf := by
  cases type with
  | leaf kind opts =>
    by_cases present : v = .null
    · subst present
      exact leaf
    · rw [restore_leaf present]
      exact kind.restore_isLeaf leaf
  | array child opts =>
    cases v with
    | array items => exact fun c => by simp [restore]
    | _ => exact leaf

theorem persist_ne_null (stored : virtuals type = []) (present : v ≠ .null) :
    type.persist v ≠ .null := by
  cases type with
  | leaf kind opts =>
    rw [persist_leaf present]
    exact (kind.persist_persisted v).ne_null (virtuals_leaf_eq_nil.mp stored) present
  | array child opts =>
    cases v with
    | array items => simp [persist]
    | _ => exact present

/-- A type that takes some object writes and reads objects as they are. -/
theorem persist_of_accepts_object (stored : virtuals type = [])
    (taken : Accepts path type (.object c)) (v : Value) :
    type.persist v = v ∧ type.restore v = v := by
  cases type with
  | array child opts => simp [Accepts, validate] at taken
  | leaf kind opts =>
    cases kind with
    | mixed | object | enumeration elements => cases v <;> exact ⟨rfl, rfl⟩
    | virtual field => simp [virtuals] at stored
    | _ => simp [Accepts, validate, Value.isNull, Kind.fault?] at taken

theorem unsigned_ne_null (present : v ≠ .null) : v.unsigned ≠ .null := by
  cases v with
  | null => exact absurd rfl present
  | _ => simp [Value.unsigned, Value.mapScalars]

theorem reread_ne_null (present : v ≠ .null) : v.reread ≠ .null := by
  cases v with
  | null => exact absurd rfl present
  | _ => simp [Value.reread, Value.mapScalars]

theorem persist_unsigned (type : FieldType) (v : Value) :
    type.persist v.unsigned = (type.persist v).unsigned := by
  induction type generalizing v with
  | leaf kind opts =>
    by_cases present : v = .null
    · subst present
      rfl
    · rw [persist_leaf present, persist_leaf (unsigned_ne_null present), kind.persist_unsigned]
  | array child opts ih =>
    cases v with
    | array items =>
      rw [Value.unsigned_array, persist, persist, Value.unsigned_array, List.map_map, List.map_map]
      exact congrArg Value.array (List.map_congr_left fun v _ => ih v)
    | _ => rfl

theorem items_placed (placed : (Value.array items).Bare ∨ IsTextual (.array child opts)) :
    ∀ v ∈ items, v.Bare ∨ child.IsTextual := by
  intro v mem
  rcases placed with bare | textual
  · cases bare with
    | array each => exact .inl (each v mem)
  · exact .inr textual

/-- A value that a type takes comes back from interchange text, if dates and buffers are where the
type has them. -/
theorem restore_persist (stored : virtuals type = []) (taken : Accepts path type v)
    (portable : v.Portable) (placed : v.Bare ∨ type.IsTextual) :
    type.restore (type.persist v).reread = v.unsigned := by
  induction type generalizing v with
  | leaf kind opts =>
    have concrete := virtuals_leaf_eq_nil.mp stored
    by_cases present : v = .null
    · subst present
      rfl
    · have written := (kind.persist_persisted v).ne_null concrete present
      rw [persist_leaf present, restore_leaf (reread_ne_null written)]
      exact Kind.restore_persist (fault?_of_accepts stored present taken) concrete portable placed
  | array child opts ih =>
    cases portable with
    | @array items each =>
      rw [persist, Value.reread_array, restore, Value.unsigned_array, List.map_map, List.map_map]
      have taken : ∀ v ∈ items, Accepts path child v := accepts_items stored taken
      exact congrArg Value.array (List.map_congr_left fun v mem =>
        ih stored (taken v mem) (each v mem) (items_placed placed v mem))
    | null => rfl
    | _ => simp [Accepts, validate] at taken

end FieldType

end DocStore
