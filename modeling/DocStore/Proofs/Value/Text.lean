import DocStore.Proofs.FieldType.Survival
import DocStore.Proofs.Json.Nesting
import DocStore.Proofs.Json.Text
import DocStore.Proofs.Value.Keys
import DocStore.Proofs.Value.Normal

/-!
# Values through interchange text

What comes back when a value is written as interchange text and read again. Beyond what happens to
it as a tree, a number may come back as a neighbour or not at all, and what nests too deep does not
come back.
-/

namespace DocStore

-- ---------------------------------------------------------------------------
-- Numbers
-- ---------------------------------------------------------------------------

namespace Number

variable {x : Number}

/-- The value that the text of a number is read as. -/
def readBack? (x : Number) : Option Value := (Json.ofText? x.toJson.text).map Value.ofJson

def isReadable (x : Number) : Bool := x.readBack?.isSome

/-- The text of the number is read as that number. -/
def isKept (x : Number) : Bool := x.readBack?.any fun v => (Value.number x).equal v

/-- A whole number up to the exact bound. -/
def isSmallWhole (x : Number) : Bool := x.isIntegral && decide (x.wholePart ≤ exactBound)

/-- The text of a number is read alike at any depth. -/
theorem readBack?_eq (x : Number) (depth : Nat) :
    (x.toJson.reread? depth).map Value.ofJson = x.readBack? := by
  rw [readBack?, Json.ofText?_text, toJson]
  repeat' split
  all_goals cases depth <;> rfl

theorem natAbs_toInt (x : Number) : x.toInt.natAbs = x.wholePart := by
  unfold toInt
  split <;> omega

/-- Whole numbers up to the exact bound come back. The two at the bound are written like
fractions. -/
theorem isKept_of_isSmallWhole (small : x.isSmallWhole = true) : x.isKept = true := by
  simp only [isSmallWhole, Bool.and_eq_true, decide_eq_true_eq] at small
  obtain ⟨integral, bound⟩ := small
  have finite := (x.isIntegral_iff.mp integral).1
  by_cases below : x.wholePart < exactBound
  · have exact : x.exactInt? = some x.toInt := by simp [exactInt?, integral, below]
    have back : x.readBack? = some (.number x.unsigned) := by
      have fits : x.toInt.natAbs < 2 ^ 63 := by
        rw [natAbs_toInt]
        exact Nat.lt_trans below (by decide)
      rw [← x.readBack?_eq 0, toJson, exact]
      simp only [Json.reread?_integer fits, Option.map_some, Value.ofJson, ofInt_exactInt? exact]
    rw [isKept, back, Option.any_some, Value.equal]
    exact equal_unsigned finite
  · have top : x.wholePart = 2 ^ 53 := Nat.le_antisymm bound (Nat.not_lt.mp below)
    have whole := truncate_of_isIntegral integral
    simp only [truncate, finite, if_true, top] at whole
    rw [← whole]
    cases x.isNegative <;> decide +kernel

/-- A fraction whose text is read as its neighbour. -/
example : (ofDecimal false 9064334972535803 (-10)).isKept = false := by decide +kernel

end Number

-- ---------------------------------------------------------------------------
-- Values of trees
-- ---------------------------------------------------------------------------

namespace Value

/-- No dates and no buffers occur in the value, and no object has a key twice. -/
inductive IsTree : Value → Prop
  | null : IsTree .null
  | bool (b) : IsTree (.bool b)
  | number (x) : IsTree (.number x)
  | string (s) : IsTree (.string s)
  | array : (∀ v ∈ items, IsTree v) → IsTree (.array items)
  | object : (fields.map Prod.fst).Nodup → (∀ k v, (k, v) ∈ fields → IsTree v) →
      IsTree (.object fields)

variable {v w : Value} {depth : Nat} {fields done : Fields}

theorem once_ofJsonMembers {members : List (String × Json)} (once : done.HasKeysOnce) :
    Fields.HasKeysOnce (ofJsonMembers members done) := by
  induction members generalizing done with
  | nil => exact once
  | cons e rest ih => exact ih (once.insert _ _)

theorem mem_ofJsonMembers {members : List (String × Json)}
    (mem : e ∈ ofJsonMembers members done) :
    e ∈ done ∨ ∃ j, (e.1, j) ∈ members ∧ e.2 = ofJson j := by
  induction members generalizing done with
  | nil => exact .inl mem
  | cons first rest ih =>
    obtain ⟨k, j⟩ := first
    rcases ih mem with held | ⟨i, found, value⟩
    · rcases Fields.mem_insert held with rfl | held
      · exact .inr ⟨j, .head _, rfl⟩
      · exact .inl held
    · exact .inr ⟨i, .tail _ found, value⟩

/-- Whatever a tree is, its value is made of what trees are made of. -/
theorem ofJson_isTree : (j : Json) → (ofJson j).IsTree
  | .null => .null
  | .bool b => .bool b
  | .integer n => .number _
  | .real x => .number x
  | .string s => .string s
  | .array items => by
    rw [ofJson, ofJsonItems_eq_map]
    refine .array fun v mem => ?_
    obtain ⟨i, held, rfl⟩ := List.mem_map.mp mem
    exact ofJson_isTree i
  | .object members => by
    refine .object (once_ofJsonMembers List.nodup_nil) fun k v mem => ?_
    obtain ⟨i, held, rfl⟩ := (mem_ofJsonMembers mem).resolve_left (by simp)
    exact ofJson_isTree i
termination_by j => j
decreasing_by
  · have := List.sizeOf_lt_of_mem held
    rw [Json.array.sizeOf_spec]
    omega
  · have := List.sizeOf_lt_of_mem held
    rw [Prod.mk.sizeOf_spec] at this
    rw [Json.object.sizeOf_spec]
    omega

theorem nestsIn_toJson_number (x : Number) : x.toJson.nestsIn depth = true := by
  unfold Number.toJson
  repeat' split
  all_goals cases depth <;> rfl

theorem nestsIn_toJson_ofJson {j : Json} (nests : j.nestsIn depth = true) :
    (ofJson j).toJson.nestsIn depth = true := by
  induction depth generalizing j with
  | zero =>
    cases j with
    | array items => cases nests
    | object members => cases nests
    | integer n => exact nestsIn_toJson_number _
    | real x => exact nestsIn_toJson_number _
    | _ => rfl
  | succ depth ih =>
    cases j with
    | array items =>
      rw [ofJson, ofJsonItems_eq_map, toJson, toJsonItems_eq_map, List.map_map]
      simp only [Json.nestsIn, List.all_eq_true] at nests ⊢
      exact List.forall_mem_map.mpr fun i mem => ih (nests i mem)
    | object members =>
      rw [ofJson, toJson, toJsonFields_eq_map]
      simp only [Json.nestsIn, List.all_eq_true] at nests ⊢
      refine List.forall_mem_map.mpr fun e mem => ?_
      obtain ⟨i, held, value⟩ := (mem_ofJsonMembers mem).resolve_left (by simp)
      exact value ▸ ih (nests _ held)
    | integer n => exact nestsIn_toJson_number _
    | real x => exact nestsIn_toJson_number _
    | _ => rfl

-- ---------------------------------------------------------------------------
-- Reading back
-- ---------------------------------------------------------------------------

/-- The value that the text of a value is read as, where a tree may nest `depth` deep. -/
def readBack? (depth : Nat) (v : Value) : Option Value := (v.toJson.reread? depth).map ofJson

/-- The member of an object comes back under its key. -/
def readMember? (depth : Nat) (e : String × Value) : Option (String × Value) :=
  (readBack? depth e.2).map (e.1, ·)

theorem keys_of_mapM {α β : Type} {f : String × α → Option (String × β)}
    {l : List (String × α)} {m : List (String × β)} (found : l.mapM f = some m)
    (keeps : ∀ e e', f e = some e' → e'.1 = e.1) : m.map Prod.fst = l.map Prod.fst := by
  have pairs := Json.mapM_eq_some_iff.mp found
  clear found
  induction pairs with
  | nil => rfl
  | cons first _ ih => rw [List.map_cons, List.map_cons, keeps _ _ first, ih]

theorem readBack?_array (items : List Value) :
    readBack? (depth + 1) (.array items) = (items.mapM (readBack? depth)).map .array := by
  have each : items.mapM (readBack? depth) =
      ((items.map toJson).mapM (Json.reread? depth)).map (List.map ofJson) := by
    rw [Json.map_mapM, List.mapM_map]
    rfl
  rw [each, readBack?, toJson, toJsonItems_eq_map, Json.reread?]
  cases (items.map toJson).mapM (Json.reread? depth) with
  | none => rfl
  | some found => simp [ofJson, ofJsonItems_eq_map]

theorem readBack?_object (nodup : (fields.map Prod.fst).Nodup) :
    readBack? (depth + 1) (.object fields) =
      (fields.mapM (readMember? depth)).map .object := by
  have each : fields.mapM (readMember? depth) =
      ((toJsonFields fields).mapM (Json.backMember (Json.reread? depth))).map
        (List.map fun e => (e.1, ofJson e.2)) := by
    rw [Json.map_mapM, toJsonFields_eq_map, List.mapM_map]
    refine congrArg (List.mapM · fields) (funext fun e => ?_)
    simp only [readMember?, readBack?, Json.backMember, Function.comp_apply, Option.map_map]
    rfl
  rw [each, readBack?, toJson, Json.reread?]
  cases found : (toJsonFields fields).mapM (Json.backMember (Json.reread? depth)) with
  | none => rfl
  | some members =>
    have keys : members.map Prod.fst = fields.map Prod.fst := by
      rw [keys_of_mapM found fun e e' back => ?_, toJsonFields_eq_map, List.map_map]
      · rfl
      · obtain ⟨j, -, rfl⟩ := Option.map_eq_some_iff.mp back
        rfl
    simp only [Option.map_some, ofJson]
    rw [ofJsonMembers_eq_append (by simpa [keys] using nodup), List.nil_append]

/-- The value comes back from its text as an equal one. -/
def IsKept (depth : Nat) (v : Value) : Prop := ∃ w, readBack? depth v = some w ∧ v.equal w = true

theorem IsKept.equal (kept : v.IsKept depth) (back : readBack? depth v = some w) :
    v.equal w = true := by
  obtain ⟨u, found, same⟩ := kept
  obtain rfl : u = w := Option.some.inj (found.symm.trans back)
  exact same

theorem IsKept.isSome (kept : v.IsKept depth) : (readBack? depth v).isSome := by
  obtain ⟨u, found, -⟩ := kept
  simp [found]

theorem isKept_array (items : List Value) :
    IsKept (depth + 1) (.array items) ↔ ∀ v ∈ items, IsKept depth v := by
  constructor
  · rintro ⟨_, back, same⟩
    rw [readBack?_array, Option.map_eq_some_iff] at back
    obtain ⟨found, back, rfl⟩ := back
    rw [Value.equal] at same
    have pairs := Json.mapM_eq_some_iff.mp back
    clear back
    induction pairs with
    | nil => simp
    | cons first _ ih =>
      rw [equalItems, Bool.and_eq_true] at same
      exact List.forall_mem_cons.mpr ⟨⟨_, first, same.1⟩, ih same.2⟩
  · intro each
    obtain ⟨found, back⟩ := Option.isSome_iff_exists.mp
      (Json.isSome_mapM.mpr fun v mem => (each v mem).isSome)
    refine ⟨.array found, by rw [readBack?_array, back]; rfl, ?_⟩
    have pairs := Json.mapM_eq_some_iff.mp back
    clear back
    rw [Value.equal]
    induction pairs with
    | nil => rfl
    | cons first _ ih =>
      obtain ⟨here, later⟩ := List.forall_mem_cons.mp each
      rw [equalItems, here.equal first, ih later]
      rfl

theorem get?_of_readMember? {found : Fields} (back : fields.mapM (readMember? depth) = some found)
    (k : String) : found.get? k = (fields.get? k).bind (readBack? depth) := by
  have pairs := Json.mapM_eq_some_iff.mp back
  clear back
  induction pairs with
  | nil => rfl
  | @cons e e' rest others first _ ih =>
    obtain ⟨w, inner, rfl⟩ := Option.map_eq_some_iff.mp first
    rw [Fields.get?_cons, Fields.get?_cons, ih]
    split
    · exact inner.symm
    · rfl

theorem isKept_object (nodup : (fields.map Prod.fst).Nodup) :
    IsKept (depth + 1) (.object fields) ↔ ∀ k v, (k, v) ∈ fields → IsKept depth v := by
  constructor
  · rintro ⟨_, back, same⟩ k v mem
    rw [readBack?_object nodup, Option.map_eq_some_iff] at back
    obtain ⟨found, back, rfl⟩ := back
    obtain ⟨w, held, same⟩ := (equal_object.mp same).2 (k, v) mem
    rw [get?_of_readMember? back, Fields.get?_of_mem nodup mem] at held
    exact ⟨w, held, same⟩
  · intro each
    obtain ⟨found, back⟩ := Option.isSome_iff_exists.mp
      (Json.isSome_mapM (f := readMember? depth) (l := fields) |>.mpr
        fun e mem => by simpa [readMember?] using (each e.1 e.2 mem).isSome)
    refine ⟨.object found, by rw [readBack?_object nodup, back]; rfl, ?_⟩
    refine equal_object.mpr ⟨(Json.mapM_eq_some_iff.mp back).length_eq, fun e mem => ?_⟩
    obtain ⟨w, inner, same⟩ := each e.1 e.2 mem
    refine ⟨w, ?_, same⟩
    rw [get?_of_readMember? back, Fields.get?_of_mem nodup mem]
    exact inner

theorem isKept_number (x : Number) : IsKept depth (.number x) ↔ x.isKept = true := by
  have alone : readBack? depth (.number x) = x.readBack? := x.readBack?_eq depth
  simp [IsKept, alone, Number.isKept, Option.any_eq_true]

theorem occurs_object : Occurs w (.object fields) ↔
    w = .object fields ∨ ∃ k v, (k, v) ∈ fields ∧ Occurs w v := by
  constructor
  · intro h
    cases h with
    | self => exact .inl rfl
    | member mem inner => exact .inr ⟨_, _, mem, inner⟩
  · rintro (rfl | ⟨k, v, mem, inner⟩)
    · exact .self
    · exact .member mem inner

theorem occurs_number {x y : Number} : Occurs (.number x) (.number y) ↔ x = y := by
  rw [occurs_iff_eq (by simp) (by simp), Value.number.injEq]

/-- A value that does not nest too deep comes back exactly if each of its numbers does. -/
theorem isKept_iff (tree : v.IsTree) (nests : v.toJson.nestsIn depth = true) :
    v.IsKept depth ↔ ∀ x, Occurs (.number x) v → x.isKept = true := by
  have inert {v : Value} {depth : Nat} (back : readBack? depth v = some v)
      (same : v.equal v = true) (none : ∀ x, ¬ Occurs (.number x) v) :
      v.IsKept depth ↔ ∀ x, Occurs (.number x) v → x.isKept = true :=
    ⟨fun _ x inner => absurd inner (none x), fun _ => ⟨v, back, same⟩⟩
  induction tree generalizing depth with
  | null => exact inert (by cases depth <;> rfl) rfl fun x inner => by cases inner
  | bool b => exact inert (by cases depth <;> rfl) (by simp [equal]) fun x inner => by cases inner
  | string s => exact inert (by cases depth <;> rfl) (by simp [equal]) fun x inner => by cases inner
  | number y => simp [isKept_number, occurs_number]
  | @array items _ ih =>
    rw [toJson, toJsonItems_eq_map] at nests
    cases depth with
    | zero => cases nests
    | succ depth =>
      simp only [Json.nestsIn, List.all_eq_true, List.forall_mem_map] at nests
      simp only [isKept_array, occurs_array, reduceCtorEq, false_or]
      constructor
      · rintro each x ⟨v, mem, inner⟩
        exact (ih v mem (nests v mem)).mp (each v mem) x inner
      · exact fun each v mem => (ih v mem (nests v mem)).mpr fun x inner => each x ⟨v, mem, inner⟩
  | @object fields nodup _ ih =>
    rw [toJson, toJsonFields_eq_map] at nests
    cases depth with
    | zero => cases nests
    | succ depth =>
      simp only [Json.nestsIn, List.all_eq_true, List.forall_mem_map] at nests
      simp only [isKept_object nodup, occurs_object, reduceCtorEq, false_or]
      constructor
      · rintro each x ⟨k, v, mem, inner⟩
        exact (ih k v mem (nests _ mem)).mp (each k v mem) x inner
      · exact fun each k v mem =>
          (ih k v mem (nests _ mem)).mpr fun x inner => each x ⟨k, v, mem, inner⟩

/-- There is something to read exactly if nothing nests too deep and each number has a text that is
read. -/
theorem isSome_reread?_iff (v : Value) (depth : Nat) : (v.toJson.reread? depth).isSome ↔
    v.toJson.nestsIn depth = true ∧ ∀ x, Occurs (.number x) v → x.isReadable = true := by
  induction v using Value.induction generalizing depth with
  | scalar v scalar =>
    cases v with
    | number y =>
      have alone : (y.toJson.reread? depth).isSome = y.isReadable := by
        rw [Number.isReadable, ← y.readBack?_eq depth, Option.isSome_map]
      simp [toJson, alone, nestsIn_toJson_number, occurs_number]
    | array items => exact absurd rfl (scalar.1 items)
    | object fields => exact absurd rfl (scalar.2 fields)
    | _ =>
      refine iff_of_true (by cases depth <;> rfl) ⟨by cases depth <;> rfl, fun x inner => ?_⟩
      cases inner
  | array items ih =>
    rw [toJson, toJsonItems_eq_map]
    cases depth with
    | zero => simp [Json.reread?, Json.nestsIn]
    | succ depth =>
      simp only [Json.reread?, Option.isSome_map, Json.isSome_mapM, Json.nestsIn, List.all_eq_true,
        List.forall_mem_map, occurs_array, reduceCtorEq, false_or]
      constructor
      · intro each
        refine ⟨fun v mem => ((ih v mem depth).mp (each v mem)).1, ?_⟩
        rintro x ⟨v, mem, inner⟩
        exact ((ih v mem depth).mp (each v mem)).2 x inner
      · exact fun each v mem =>
          (ih v mem depth).mpr ⟨each.1 v mem, fun x inner => each.2 x ⟨v, mem, inner⟩⟩
  | object fields ih =>
    rw [toJson, toJsonFields_eq_map]
    cases depth with
    | zero => simp [Json.reread?, Json.nestsIn]
    | succ depth =>
      simp only [Json.reread?, Option.isSome_map, Json.isSome_mapM, Json.nestsIn, List.all_eq_true,
        List.forall_mem_map, Json.backMember, occurs_object, reduceCtorEq, false_or]
      constructor
      · intro each
        refine ⟨fun e mem => ((ih e.1 e.2 mem depth).mp (each e mem)).1, ?_⟩
        rintro x ⟨k, v, mem, inner⟩
        exact ((ih k v mem depth).mp (each (k, v) mem)).2 x inner
      · exact fun each e mem => (ih e.1 e.2 mem depth).mpr
          ⟨each.1 e mem, fun x inner => each.2 x ⟨e.1, e.2, mem, inner⟩⟩

end Value

end DocStore
