import DocStore.FieldType.Update
import DocStore.Proofs.FieldType.Canonical
import DocStore.Proofs.FieldType.Normal
import DocStore.Proofs.Number.Whole
import DocStore.Proofs.Value.Order

/-!
# Arrays as sets and as deques

What the update operators of array types leave: adding to a set appends what no item matches,
pulling takes out what matches, shifting and popping mirror each other.
-/

namespace DocStore

-- ---------------------------------------------------------------------------
-- What is coerced matches itself
-- ---------------------------------------------------------------------------

/-- The items of an array; none without one. -/
inductive Value.Lists : Value → List Value → Prop
  | null : Lists .null []
  | array : Lists (.array items) items

namespace FieldType

variable {type child : FieldType} {opts : Options} {v w operand : Value}
  {items incoming added : List Value}

theorem isMatch_null (type : FieldType) : type.isMatch .null .null = true := by
  cases type <;> rfl

theorem matchItems_refl {item : Value → Value → Bool} (each : ∀ v ∈ items, item v v = true) :
    matchItems item items items = true := by
  induction items with
  | nil => rfl
  | cons v rest ih =>
    obtain ⟨first, others⟩ := List.forall_mem_cons.mp each
    rw [matchItems, first, ih others, Bool.and_self]

/-- What a type makes of a value matches itself, arrays within arrays and nulls included. -/
theorem isMatch_coerce_self (type : FieldType) (unique : v.UniqueKeys)
    (ordinary : (type.coerce v).IsOrdinary) :
    type.isMatch (type.coerce v) (type.coerce v) = true := by
  induction type generalizing v with
  | leaf kind opts =>
    by_cases absent : v = .null
    · subst absent
      exact isMatch_null _
    · rw [coerce_leaf absent] at ordinary ⊢
      by_cases blank : kind.coerce v = .null
      · rw [blank]
        exact isMatch_null _
      · have self := Value.equal_refl (kind.uniqueKeys_coerce unique) ordinary
        rw [isMatch_leaf blank blank]
        split
        · rwa [Kind.coerce_coerce]
        · exact self
  | array child opts ih =>
    by_cases absent : v = .null
    · subst absent
      exact isMatch_null _
    · by_cases many : ∃ items, v = .array items
      · obtain ⟨items, rfl⟩ := many
        rw [coerce, Value.isOrdinary_array] at ordinary
        rw [coerce, isMatch]
        refine matchItems_refl (List.forall_mem_map.mpr fun v mem => ?_)
        exact ih (Value.uniqueKeys_array.mp unique v mem) (ordinary _ (List.mem_map_of_mem mem))
      · rw [coerce_single absent (not_exists.mp many)] at ordinary ⊢
        rw [isMatch]
        exact matchItems_refl (List.forall_mem_singleton.mpr
          (ih unique (Value.isOrdinary_array.mp ordinary _ (.head _))))

-- ---------------------------------------------------------------------------
-- Sets
-- ---------------------------------------------------------------------------

theorem containsMatch_append :
    child.containsMatch (items ++ added) w =
      (child.containsMatch items w || child.containsMatch added w) :=
  List.any_append

theorem addNew_of_contains (held : ∀ w ∈ incoming, child.containsMatch items w = true) :
    child.addNew items incoming = items := by
  induction incoming with
  | nil => rfl
  | cons w rest ih =>
    obtain ⟨first, others⟩ := List.forall_mem_cons.mp held
    rw [addNew, if_pos first, ih others]

/-- What is added in one pass comes after the items, in the order in which it comes in, and nothing
before it matches it. -/
structure Adds (child : FieldType) (items incoming added : List Value) : Prop where
  sublist : added.Sublist incoming
  fresh : ∀ before c after, added = before ++ c :: after →
    child.containsMatch (items ++ before) c = false

theorem Adds.cons (adds : Adds child (items ++ [v]) incoming added)
    (new : child.containsMatch items v = false) : Adds child items (v :: incoming) (v :: added) where
  sublist := adds.sublist.cons_cons v
  fresh before c after parts := by
    cases before with
    | nil =>
      obtain ⟨rfl, -⟩ := List.cons.inj parts
      rwa [List.append_nil]
    | cons b before =>
      obtain ⟨rfl, rest⟩ := List.cons.inj parts
      rw [← adds.fresh before c after rest, List.append_assoc, List.singleton_append]

theorem addNew_eq (child : FieldType) (items incoming : List Value) :
    ∃ added, child.addNew items incoming = items ++ added ∧ Adds child items incoming added := by
  induction incoming generalizing items with
  | nil => exact ⟨[], (List.append_nil _).symm, .slnil, by simp⟩
  | cons v rest ih =>
    rw [addNew]
    split
    · obtain ⟨added, made, adds⟩ := ih items
      exact ⟨added, made, adds.sublist.cons v, adds.fresh⟩
    · rename_i new
      obtain ⟨added, made, adds⟩ := ih (items ++ [v])
      refine ⟨v :: added, ?_, adds.cons (Bool.eq_false_iff.mpr new)⟩
      rw [made, List.append_assoc, List.singleton_append]

theorem containsMatch_addNew (self : ∀ w ∈ incoming, child.isMatch w w = true) :
    ∀ w ∈ incoming, child.containsMatch (child.addNew items incoming) w = true := by
  induction incoming generalizing items with
  | nil => simp
  | cons v rest ih =>
    obtain ⟨first, others⟩ := List.forall_mem_cons.mp self
    refine List.forall_mem_cons.mpr ⟨?_, ih others⟩
    have now : child.containsMatch (if child.containsMatch items v then items else items ++ [v]) v =
        true := by
      split
      · assumption
      · simp [containsMatch, first]
    obtain ⟨added, made, -⟩ := child.addNew_eq _ rest
    rw [addNew, made, containsMatch_append, now, Bool.true_or]

/-- An operand of an update, coerced item by item, has something that the item matches. -/
def isPulled (child : FieldType) (operand item : Value) : Bool :=
  operand.operands.any fun w => child.isMatch item (child.coerce w)

theorem any_isMatch_coerce (child : FieldType) (operand item : Value) :
    (operand.operands.map child.coerce).any (child.isMatch item) = child.isPulled operand item :=
  List.any_map

theorem isPulled_of_mem (self : ∀ w ∈ operand.operands.map child.coerce, child.isMatch w w = true)
    (mem : v ∈ operand.operands.map child.coerce) : child.isPulled operand v = true := by
  rw [← any_isMatch_coerce]
  exact List.any_eq_true.mpr ⟨v, mem, self v mem⟩

-- ---------------------------------------------------------------------------
-- Deques
-- ---------------------------------------------------------------------------

/-- A count that is as great as the number of items removes all of them, from either end. -/
theorem removeFront_eq_nil {count : Int} (all : items.length ≤ count.natAbs) :
    removeFront items count = [] := by
  rw [removeFront]
  split
  · exact List.drop_eq_nil_of_le (by omega)
  · rw [Nat.sub_eq_zero_of_le all, List.take_zero]

/-- Removing from the other end is removing from the front of the items turned around. -/
theorem removeFront_neg (items : List Value) (count : Int) :
    removeFront items (-count) = (removeFront items.reverse count).reverse := by
  by_cases all : items.length ≤ count.natAbs
  · rw [removeFront_eq_nil (by rwa [Int.natAbs_neg]),
      removeFront_eq_nil (by rwa [List.length_reverse]), List.reverse_nil]
  · rcases Int.lt_trichotomy count 0 with below | rfl | above
    · rw [removeFront, if_pos (by omega), removeFront, if_neg (by omega), List.length_reverse,
        List.take_reverse, List.reverse_reverse]
      congr 1
      omega
    · simp [removeFront]
    · rw [removeFront, if_neg (by omega), removeFront, if_pos above.le, List.drop_reverse,
        List.reverse_reverse]
      congr 1
      omega

/-- Clamping the count removes no fewer items: no list is as long as the bound. -/
theorem removeFront_toInt64 {x : Number} (finite : x.isFinite = true)
    (short : items.length < 2 ^ 63) : removeFront items x.toInt64 = removeFront items x.toInt := by
  have clamped : x.toInt64 = max (-2 ^ 63) (min (2 ^ 63 - 1) x.toInt) := by
    simp [Number.toInt64, Number.clamp, Number.isNaN_of_isFinite finite, finite, pow2]
  by_cases inside : -2 ^ 63 ≤ x.toInt ∧ x.toInt ≤ 2 ^ 63 - 1
  · rw [clamped]
    congr 1
    omega
  · rw [removeFront_eq_nil (by omega), removeFront_eq_nil (by omega)]

-- ---------------------------------------------------------------------------
-- The operators
-- ---------------------------------------------------------------------------

/-- An operator leaves a value and the document around it as it is. -/
def Leaves (type : FieldType) (op : UpdateOperator) (v operand after : Value) : Prop :=
  ∀ path doc, type.update path op v operand doc = .ok (after, doc)

theorem leaves_iff {op : UpdateOperator} (own : op.isArray = true) {after : Value} :
    (array child opts).Leaves op v operand after ↔ child.updateItems op v operand = after := by
  have leaves : ∀ path doc, (array child opts).update path op v operand doc =
      .ok (child.updateItems op v operand, doc) := by
    intro path doc
    cases op <;> first | rfl | simp [UpdateOperator.isArray] at own
  simp [Leaves, leaves]

theorem updateItems_pull (child : FieldType) (items : List Value) (operand : Value) :
    child.updateItems .pull (.array items) operand =
      .array (items.filter fun item => !child.isPulled operand item) := by
  simp only [updateItems, any_isMatch_coerce]
  rfl

theorem updateItems_addToSet (child : FieldType) (lists : v.Lists items) (operand : Value) :
    child.updateItems .addToSet v operand =
      .array (child.addNew items (operand.operands.map child.coerce)) := by
  cases lists <;> simp [updateItems, Value.isNull, Value.operands]

theorem updateItems_shift (child : FieldType) (items : List Value) {x : Number}
    (finite : x.isFinite = true) : child.updateItems .shift (.array items) (.number x) =
      .array (removeFront items x.toInt64) := by
  simp [updateItems, Value.isNull, Value.operands, Value.removalCount, finite]

theorem updateItems_pop (child : FieldType) (items : List Value) {x : Number}
    (finite : x.isFinite = true) : child.updateItems .pop (.array items) (.number x) =
      .array (removeFront items (-x.toInt64)) := by
  simp [updateItems, Value.isNull, Value.operands, Value.removalCount, finite]

/-- Adding one operand to an array and pulling it are operators of sets. -/
structure ActsAsSet (type child : FieldType) (operand : Value) : Prop where
  adds : ∀ v items, v.Lists items → ∃ added,
    type.Leaves .addToSet v operand (.array (items ++ added)) ∧
    child.Adds items (operand.operands.map child.coerce) added ∧
    (∀ w ∈ operand.operands, child.containsMatch (items ++ added) (child.coerce w) = true) ∧
    type.Leaves .addToSet (.array (items ++ added)) operand (.array (items ++ added))
  pulls : ∀ items, ∃ kept, kept = items.filter (fun item => !child.isPulled operand item) ∧
    type.Leaves .pull (.array items) operand (.array kept) ∧
    type.Leaves .pull (.array kept) operand (.array kept)
  pulls_null : type.Leaves .pull .null operand .null
  undoes : ∀ items after, (∀ item ∈ items, child.isPulled operand item = false) →
    type.Leaves .addToSet (.array items) operand after →
    type.Leaves .pull after operand (.array items)

/-- Shifting an array and popping it are operators of deques. The length of a list in memory is a
signed 64-bit integer. -/
structure ActsAsDeque (type : FieldType) : Prop where
  shift_eq_pop : ∀ (items : List Value) (x : Number), x.isFinite = true → items.length < 2 ^ 63 →
    type.Leaves .shift (.array items) (.number x) (.array (removeFront items x.toInt)) ∧
    type.Leaves .pop (.array items) (.number (-x)) (.array (removeFront items x.toInt))
  pop_eq_shift : ∀ (items : List Value) (x : Number), x.isFinite = true → ∃ rest,
    type.Leaves .shift (.array items.reverse) (.number x) (.array rest) ∧
    type.Leaves .pop (.array items) (.number x) (.array rest.reverse)

theorem actsAsSet (opts : Options) (unique : operand.UniqueKeys)
    (ordinary : ∀ w ∈ operand.operands, (child.coerce w).IsOrdinary) :
    ActsAsSet (.array child opts) child operand := by
  have self : ∀ w ∈ operand.operands.map child.coerce, child.isMatch w w = true :=
    List.forall_mem_map.mpr fun w mem =>
      isMatch_coerce_self child (uniqueKeys_operands unique w mem) (ordinary w mem)
  have pulled (items : List Value) := updateItems_pull child items operand
  refine ⟨fun v items lists => ?_, fun items => ⟨_, rfl, ?_, ?_⟩, ?_, fun items after none left => ?_⟩
  · obtain ⟨added, made, adds⟩ := child.addNew_eq items (operand.operands.map child.coerce)
    have held := made ▸ containsMatch_addNew self
    refine ⟨added, (leaves_iff rfl).mpr ?_, adds, fun w mem => held _ (List.mem_map_of_mem mem),
      (leaves_iff rfl).mpr ?_⟩
    · rw [updateItems_addToSet child lists, made]
    · rw [updateItems_addToSet child .array, addNew_of_contains held]
  · exact (leaves_iff rfl).mpr (pulled items)
  · refine (leaves_iff rfl).mpr ((pulled _).trans ?_)
    rw [List.filter_filter]
    simp only [Bool.and_self]
  · exact (leaves_iff rfl).mpr rfl
  · obtain ⟨added, made, adds⟩ := child.addNew_eq items (operand.operands.map child.coerce)
    have after := (leaves_iff rfl).mp left
    rw [updateItems_addToSet child .array, made] at after
    subst after
    refine (leaves_iff rfl).mpr ((pulled _).trans ?_)
    have kept : items.filter (fun item => !child.isPulled operand item) = items :=
      List.filter_eq_self.mpr fun item mem => by rw [none item mem, Bool.not_false]
    have gone : added.filter (fun item => !child.isPulled operand item) = [] :=
      List.filter_eq_nil_iff.mpr fun w mem => by
        simp [isPulled_of_mem self (adds.sublist.subset mem)]
    rw [List.filter_append, kept, gone, List.append_nil]

theorem actsAsDeque (child : FieldType) (opts : Options) : ActsAsDeque (.array child opts) where
  shift_eq_pop items x finite short := by
    have finite' := Number.isFinite_neg finite
    refine ⟨(leaves_iff rfl).mpr ?_, (leaves_iff rfl).mpr ?_⟩
    · rw [updateItems_shift child items finite, removeFront_toInt64 finite short]
    · rw [updateItems_pop child items finite', removeFront_neg, removeFront_toInt64 finite'
        (by rwa [List.length_reverse]), ← removeFront_neg, Number.toInt_neg finite, Int.neg_neg]
  pop_eq_shift items x finite := by
    refine ⟨_, (leaves_iff rfl).mpr (updateItems_shift child _ finite), (leaves_iff rfl).mpr ?_⟩
    rw [updateItems_pop child items finite, removeFront_neg]

/-- The array operators are those of sets and of deques, whatever the type of the items. -/
theorem array_actsAs (child : FieldType) (opts : Options) (unique : operand.UniqueKeys)
    (ordinary : ∀ w ∈ operand.operands, (child.coerce w).IsOrdinary) :
    ActsAsSet (.array child opts) child operand ∧ ActsAsDeque (.array child opts) :=
  ⟨actsAsSet opts unique ordinary, actsAsDeque child opts⟩

/-- Arrays of numbers, one of them written as text, and null. -/
theorem array_actsAs_numbers :
    let child := array (ofKind .number) {}
    let operand := Value.array [.array [.string "7", .number 2, .null], .null]
    operand.UniqueKeys ∧ (∀ w ∈ operand.operands, (child.coerce w).IsOrdinary) ∧
      ActsAsSet (.array child {}) child operand ∧ ActsAsDeque (.array child {}) := by
  intro child operand
  have unique : operand.UniqueKeys := by
    have text : (Value.string "7").UniqueKeys := .scalar (by simp [Value.IsScalar])
    have number : (Value.number 2).UniqueKeys := .scalar (by simp [Value.IsScalar])
    have null : Value.null.UniqueKeys := .scalar (by simp [Value.IsScalar])
    simp [operand, Value.uniqueKeys_array, text, number, null]
  have ordinary : ∀ w ∈ operand.operands, (child.coerce w).IsOrdinary := by
    obtain ⟨x, read, real⟩ : ∃ x : Number,
        Number.ofNumeral? (Text.trim ['7']) = some x ∧ x.isNaN = false :=
      ⟨_, rfl, by decide +kernel⟩
    have two : Number.isNaN 2 = false := by decide +kernel
    have null : Value.null.IsOrdinary := .scalar (by simp [Value.IsScalar]) (by simp)
    simp [operand, child, Value.operands, coerce, ofKind, Kind.coerce, Value.asNumber?, read,
      Value.isOrdinary_array, Value.isOrdinary_number, real, two, null]
  exact ⟨unique, ordinary, array_actsAs child {} unique ordinary⟩

end FieldType

end DocStore
