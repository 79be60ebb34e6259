import DocStore.Proofs.Calendar.Stamp
import DocStore.Proofs.Value.Leaves
import DocStore.Value.Json
import DocStore.Value.Order

/-!
# Values through interchange trees

What comes back when a value is written as an interchange tree and read again. Dates and buffers
come back as the texts that stand for them, a zero without its sign, everything else as it was.
-/

namespace DocStore

-- ---------------------------------------------------------------------------
-- Numbers
-- ---------------------------------------------------------------------------

namespace Number

variable {x : Number}

theorem ofInt_exactInt? (exact : x.exactInt? = some i) : ofInt i = x.unsigned := by
  obtain ⟨integral, rfl⟩ := exactInt?_eq_some exact
  by_cases nothing : x.significand = 0
  · have isZero := x.isZero_iff.mpr nothing
    have whole := (wholePart_eq_zero_iff integral).mpr nothing
    simp only [whole, unsigned, isZero, if_true]
    cases x.isNegative <;> rfl
  · have whole := mt (wholePart_eq_zero_iff integral).mp nothing
    have finite := (x.isIntegral_iff.mp integral).1
    rw [unsigned_of_significand nothing]
    refine Eq.trans ?_ (truncate_of_isIntegral integral)
    simp only [ofInt, truncate, finite, if_true]
    cases x.isNegative with
    | false => simp [show ¬ (x.wholePart : Int) < 0 by omega]
    | true => simp [Nat.pos_of_ne_zero whole]

theorem toJson_unsigned (x : Number) : x.unsigned.toJson = x.toJson := by
  cases isZero : x.isZero with
  | false => simp [unsigned, isZero]
  | true =>
    have zero : (zero : Number).exactInt? = some 0 := exactInt?_of_isZero rfl
    simp [unsigned, isZero, toJson, exactInt?_of_isZero isZero, zero]

theorem equal_unsigned (finite : x.isFinite = true) : x.equal x.unsigned = true := by
  have below := of_decide_eq_true finite
  have notNaN : x.isNaN = false := decide_eq_false (by omega)
  cases isZero : x.isZero with
  | false => simp [unsigned, isZero, equal, notNaN]
  | true =>
    have nothing : x.magnitude = 0 := by simpa [Number.isZero] using isZero
    have key : x.key = 0 := by simp [Number.key, nothing]
    have zero : (zero : Number).isNaN = false ∧ (zero : Number).key = 0 := ⟨rfl, rfl⟩
    simp [unsigned, isZero, equal, notNaN, key, zero]

end Number

-- ---------------------------------------------------------------------------
-- Values that interchange text can hold
-- ---------------------------------------------------------------------------

mutual
/-- Changes what a value is made of, at any depth. -/
def Value.mapScalars (f : Value → Value) : Value → Value
  | .array items => .array (Value.mapItems f items)
  | .object fields => .object (Value.mapMembers f fields)
  | v => f v
def Value.mapItems (f : Value → Value) : List Value → List Value
  | [] => []
  | v :: rest => v.mapScalars f :: Value.mapItems f rest
def Value.mapMembers (f : Value → Value) : Fields → Fields
  | [] => []
  | (k, v) :: rest => (k, v.mapScalars f) :: Value.mapMembers f rest
end

/-- The value without the signs of zeros. -/
def Value.unsigned (v : Value) : Value :=
  v.mapScalars fun
    | .number x => .number x.unsigned
    | v => v

/-- The value as it comes back from interchange text. -/
def Value.reread (v : Value) : Value :=
  v.mapScalars fun
    | .number x => .number x.unsigned
    | .date t => .string t.text
    | .buffer bytes => .string (String.ofList (Text.hex bytes))
    | v => v

def Fields.unsigned (fields : Fields) : Fields := fields.map fun e => (e.1, e.2.unsigned)

namespace Value

/-- Numbers have a value, dates a time stamp, and objects no key twice, however deep. -/
inductive Portable : Value → Prop
  | null : Portable .null
  | bool (b) : Portable (.bool b)
  | number : x.isFinite = true → Portable (.number x)
  | string (s) : Portable (.string s)
  | date : t.IsStamped → Portable (.date t)
  | buffer (bytes) : Portable (.buffer bytes)
  | array : (∀ v ∈ items, Portable v) → Portable (.array items)
  | object : (fields.map Prod.fst).Nodup → (∀ k v, (k, v) ∈ fields → Portable v) →
      Portable (.object fields)

variable {f g : Value → Value} {v w : Value} {fields : Fields}

theorem mapItems_eq_map (f : Value → Value) (items : List Value) :
    mapItems f items = items.map (·.mapScalars f) := by
  induction items with
  | nil => rfl
  | cons v rest ih => rw [mapItems, ih, List.map_cons]

theorem mapMembers_eq_map (f : Value → Value) (fields : Fields) :
    mapMembers f fields = fields.map fun e => (e.1, e.2.mapScalars f) := by
  induction fields with
  | nil => rfl
  | cons e rest ih => rw [mapMembers, ih, List.map_cons]

theorem reread_array (items : List Value) : reread (.array items) = .array (items.map reread) :=
  congrArg Value.array (mapItems_eq_map _ items)

theorem unsigned_array (items : List Value) :
    unsigned (.array items) = .array (items.map unsigned) :=
  congrArg Value.array (mapItems_eq_map _ items)

theorem reread_object (fields : Fields) :
    reread (.object fields) = .object (fields.map fun e => (e.1, e.2.reread)) :=
  congrArg Value.object (mapMembers_eq_map _ fields)

theorem unsigned_object (fields : Fields) : unsigned (.object fields) = .object fields.unsigned :=
  congrArg Value.object (mapMembers_eq_map _ fields)

theorem Portable.distinct (portable : v.Portable) : v.Distinct := by
  induction portable with
  | object nodup _ members => exact .object nodup members
  | _ => exact .leaf fun c => by simp

/-- Changing the scalars of a document is changing the scalars of its leaves. -/
theorem mapScalars_object (distinct : (Value.object fields).Distinct) (f : Value → Value) :
    (Value.object fields).mapScalars f = .object (fields.mapLeaves fun _ v => v.mapScalars f) := by
  induction fields, distinct using Distinct.induction with
  | object fields nodup members ih =>
    rw [mapScalars, mapMembers_eq_map, Fields.mapLeaves_eq_map]
    refine congrArg Value.object (List.map_congr_left ?_)
    rintro ⟨k, v⟩ mem
    rcases v.leaf_or_object with leaf | ⟨c, rfl⟩
    · rw [mapLeaves_leaf leaf]
    · exact congrArg (Prod.mk k) (ih k c mem)

theorem reread_isLeaf (leaf : v.IsLeaf) : v.reread.IsLeaf := by
  cases v with
  | object c => exact absurd rfl (leaf c)
  | _ => exact fun c => by simp [reread, mapScalars]

theorem unsigned_isLeaf (leaf : v.IsLeaf) : v.unsigned.IsLeaf := by
  cases v with
  | object c => exact absurd rfl (leaf c)
  | _ => exact fun c => by simp [unsigned, mapScalars]

theorem Portable.at? {p : Path} (portable : (Value.object fields).Portable)
    (held : fields.at? p = some v) : v.Portable := by
  obtain ⟨k, ks⟩ := p
  induction ks generalizing k fields with
  | nil => cases portable with
    | object _ members => exact members k v (Fields.mem_of_get? held)
  | cons j js ih =>
    have inner := Fields.get?_of_at?_cons held
    rw [Fields.at?_cons] at held
    cases portable with
    | object _ members => exact ih (members k _ (Fields.mem_of_get? inner)) j held

theorem Portable.mapLeaves {f : Path → Value → Value} (portable : (Value.object fields).Portable)
    (each : ∀ p v, v.Portable → (f p v).Portable) : (Value.object (fields.mapLeaves f)).Portable := by
  generalize whole : Value.object fields = object at portable
  induction portable generalizing fields f with
  | object nodup members ih =>
    cases whole
    refine .object (by rwa [Fields.map_fst_mapLeaves]) fun k w mem => ?_
    rw [Fields.mapLeaves_eq_map] at mem
    obtain ⟨⟨j, v⟩, found, same⟩ := List.mem_map.mp mem
    cases same
    rcases v.leaf_or_object with leaf | ⟨c, rfl⟩
    · exact mapLeaves_leaf leaf f j ▸ each _ v (members j v found)
    · exact ih j (.object c) found (fun p v => each _ v) rfl
  | _ => cases whole

-- ---------------------------------------------------------------------------
-- Out and back
-- ---------------------------------------------------------------------------

theorem toJsonItems_eq_map (items : List Value) : toJsonItems items = items.map toJson := by
  induction items with
  | nil => rfl
  | cons v rest ih => rw [toJsonItems, ih, List.map_cons]

theorem toJsonFields_eq_map (fields : Fields) :
    toJsonFields fields = fields.map fun e => (e.1, e.2.toJson) := by
  induction fields with
  | nil => rfl
  | cons e rest ih => rw [toJsonFields, ih, List.map_cons]

theorem ofJsonItems_eq_map (items : List Json) : ofJsonItems items = items.map ofJson := by
  induction items with
  | nil => rfl
  | cons j rest ih => rw [ofJsonItems, ih, List.map_cons]

theorem insert_of_fresh (fresh : k ∉ fields.map Prod.fst) (v : Value) :
    Fields.insert k v fields = fields ++ [(k, v)] := by
  induction fields with
  | nil => rfl
  | cons e rest ih =>
    obtain ⟨j, w⟩ := e
    simp only [List.map_cons, List.mem_cons, not_or] at fresh
    simp [Fields.insert, Ne.symm fresh.1, ih fresh.2]

theorem ofJsonMembers_eq_append {members : List (String × Json)} {done : Fields}
    (nodup : (done.map Prod.fst ++ members.map Prod.fst).Nodup) :
    ofJsonMembers members done = done ++ members.map fun e => (e.1, ofJson e.2) := by
  induction members generalizing done with
  | nil => simp [ofJsonMembers]
  | cons e rest ih =>
    obtain ⟨k, j⟩ := e
    have fresh : k ∉ done.map Prod.fst := by
      intro mem
      exact (List.nodup_append.mp nodup).2.2 k mem k (by simp) rfl
    rw [ofJsonMembers, insert_of_fresh fresh, ih (by simpa using nodup)]
    simp

/-- A value that interchange text can hold comes back from it. -/
theorem ofJson_toJson (portable : v.Portable) : ofJson v.toJson = v.reread := by
  induction portable with
  | @number x finite =>
    rw [toJson, Number.toJson]
    cases exact : x.exactInt? with
    | some i => exact congrArg Value.number (Number.ofInt_exactInt? exact)
    | none =>
      rw [if_pos finite]
      have whole := Number.unsigned_of_significand (Number.significand_of_exactInt? exact)
      exact congrArg Value.number whole.symm
  | @array items _ ih =>
    rw [reread_array, toJson, ofJson, ofJsonItems_eq_map, toJsonItems_eq_map, List.map_map]
    exact congrArg Value.array (List.map_congr_left ih)
  | @object fields nodup _ ih =>
    have keys : (fields.map fun e => (e.1, e.2.toJson)).map Prod.fst = fields.map Prod.fst := by
      rw [List.map_map]
      rfl
    rw [reread_object, toJson, ofJson, toJsonFields_eq_map,
      ofJsonMembers_eq_append (by simpa [keys] using nodup), List.nil_append, List.map_map]
    refine congrArg Value.object (List.map_congr_left ?_)
    rintro ⟨k, v⟩ mem
    exact congrArg (Prod.mk k) (ih k v mem)
  | _ => rfl

-- ---------------------------------------------------------------------------
-- The signs of zeros
-- ---------------------------------------------------------------------------

theorem unsigned_eq_mapLeaves (distinct : (Value.object fields).Distinct) :
    fields.unsigned = fields.mapLeaves fun _ v => v.unsigned :=
  Value.object.inj ((unsigned_object fields).symm.trans (mapScalars_object distinct _))

theorem toJson_unsigned (portable : v.Portable) : v.unsigned.toJson = v.toJson := by
  induction portable with
  | @number x _ => exact x.toJson_unsigned
  | @array items _ ih =>
    rw [unsigned_array, toJson, toJson, toJsonItems_eq_map, toJsonItems_eq_map, List.map_map]
    exact congrArg Json.array (List.map_congr_left ih)
  | @object fields _ _ ih =>
    rw [unsigned_object, toJson, toJson, toJsonFields_eq_map, toJsonFields_eq_map, Fields.unsigned,
      List.map_map]
    refine congrArg Json.object (List.map_congr_left ?_)
    rintro ⟨k, v⟩ mem
    exact congrArg (Prod.mk k) (ih k v mem)
  | _ => rfl

theorem equalItems_map {items : List Value} (same : ∀ v ∈ items, v.equal (f v) = true) :
    equalItems items (items.map f) = true := by
  induction items with
  | nil => rfl
  | cons v rest ih =>
    obtain ⟨first, others⟩ := List.forall_mem_cons.mp same
    simp [equalItems, first, ih others]

theorem equalFields_of_forall {others : Fields}
    (same : ∀ e ∈ fields, ∃ w, others.get? e.1 = some w ∧ e.2.equal w = true) :
    equalFields fields others = true := by
  induction fields with
  | nil => rfl
  | cons e rest ih =>
    obtain ⟨⟨w, found, equal⟩, later⟩ := List.forall_mem_cons.mp same
    simp [equalFields, found, equal, ih later]

theorem equal_unsigned (portable : v.Portable) : v.equal v.unsigned = true := by
  induction portable with
  | number finite => exact Number.equal_unsigned finite
  | @array items _ ih =>
    rw [unsigned_array]
    exact equalItems_map ih
  | @object fields nodup _ ih =>
    rw [unsigned_object]
    have keys : (Fields.unsigned fields).map Prod.fst = fields.map Prod.fst := by
      rw [Fields.unsigned, List.map_map]
      rfl
    have members : equalFields fields (Fields.unsigned fields) = true := by
      refine equalFields_of_forall fun e mem => ⟨e.2.unsigned, ?_, ih e.1 e.2 mem⟩
      exact Fields.get?_of_mem (keys ▸ nodup) (List.mem_map.mpr ⟨e, mem, rfl⟩)
    have length : (Fields.unsigned fields).length = fields.length := List.length_map _
    simp [equal, members, length]
  | _ => simp [unsigned, mapScalars, equal]

end Value

end DocStore
