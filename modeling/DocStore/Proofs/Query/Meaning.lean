import DocStore.Proofs.Value.Parts
import DocStore.Schema.Selector

/-!
# What selectors mean

Which documents a selector selects, said of the selector itself and not of what it is compiled to;
and the flaws for which a selector is refused. A flaw counts wherever it stands, also where no
document would be tested.
-/

namespace DocStore

/-- A pattern finds a text, or a text among the items of an array. -/
inductive Pattern.FindsIn (p : Pattern) : Value → Prop
  | text : p.isMatch s = true → FindsIn p (.string s)
  | item : .string s ∈ items → p.isMatch s = true → FindsIn p (.array items)

/-- The flags that the letters beside a pattern set. -/
def Fields.patternFlags (beside : Fields) : Pattern.Flags :=
  let letters := (((beside.get? "$options").bind Value.string?).getD "").toList
  { ignoreCase := letters.contains 'i', multiLine := letters.contains 'm',
    dotAll := letters.contains 's' }

-- ---------------------------------------------------------------------------
-- Queries
-- ---------------------------------------------------------------------------

namespace Schema

/-- What an operator says of the value at a path. One that is unknown or that the type of the path
does not have says nothing. -/
def OperatorHolds (schema : Schema) (doc : Fields) (path : Path) (beside : Fields) (key : String)
    (operand : Value) : Prop :=
  ∀ op, QueryOperator.ofName? key = some op → (schema.typeFor path).supportsQuery op = true →
    if op = .regex then
      ∃ s p, operand = .string s ∧ Pattern.ofText? beside.patternFlags s = some p ∧
        p.FindsIn (doc.atD path)
    else (schema.typeFor path).query op (doc.atD path) operand = true

/-- What a value that is written at a path says of a document. -/
def FieldHolds (schema : Schema) (doc : Fields) (path : Path) : Value → Prop
  | .object (e :: es) => ∀ m ∈ e :: es,
    if isOperatorKey m.1 then schema.OperatorHolds doc path (e :: es) m.1 m.2
    else schema.FieldHolds doc (path ++ Path.ofText m.1) m.2
  | v => (schema.typeFor path).isMatch (doc.atD path) v = true
termination_by v => v
decreasing_by exact Value.sizeOf_member ‹_›

mutual
/-- What a query says of a document. -/
def QueryHolds (schema : Schema) (doc : Fields) : Value → Prop
  | .object fields => ∀ m ∈ fields, schema.MemberHolds doc m.1 m.2
  | _ => True
termination_by v => (sizeOf v, 0)
decreasing_by exact .left _ _ (Value.sizeOf_member ‹_›)
/-- What one member of a query says of a document. -/
def MemberHolds (schema : Schema) (doc : Fields) (key : String) (v : Value) : Prop :=
  match key, v with
  | "$and", .array l => ∀ q ∈ l, schema.QueryHolds doc q
  | "$or", .array l => ∃ q, ∃ _ : q ∈ l, schema.QueryHolds doc q
  | "$nor", .array l => ∀ q ∈ l, ¬ schema.QueryHolds doc q
  | "$not", query => ¬ schema.QueryHolds doc query
  | key, v => isOperatorKey key = false → schema.FieldHolds doc (Path.ofText key) v
termination_by (sizeOf v, 1)
decreasing_by
  · exact .left _ _ (Value.sizeOf_item ‹_›)
  · exact .left _ _ (Value.sizeOf_item ‹_›)
  · exact .left _ _ (Value.sizeOf_item ‹_›)
  · exact .right _ Nat.zero_lt_one
end

/-- The keys of a query that stand before a list of queries. -/
def listKeys : List String := ["$and", "$or", "$nor"]

/-- What is wrong with a pattern. -/
inductive PatternFlaw (path : Path) (beside : Fields) : Value → Misuse → Prop
  | notAString : (∀ s, operand ≠ .string s) →
      PatternFlaw path beside operand (.patternNotAString path)
  | invalid : Pattern.ofText? beside.patternFlags s = none →
      PatternFlaw path beside (.string s) (.patternInvalid path)

/-- What is wrong in a value that is written at a path. -/
inductive FieldFlaw (schema : Schema) : Path → Value → Misuse → Prop
  | pattern : ("$regex", operand) ∈ fields → (schema.typeFor path).supportsQuery .regex = true →
      PatternFlaw path fields operand misuse → FieldFlaw schema path (.object fields) misuse
  | under : (key, v) ∈ fields → isOperatorKey key = false →
      FieldFlaw schema (path ++ Path.ofText key) v misuse →
      FieldFlaw schema path (.object fields) misuse

mutual
/-- What is wrong in a query. -/
inductive QueryFlaw (schema : Schema) : Value → Misuse → Prop
  | notAnObject : (∀ fields, v ≠ .object fields) → v ≠ .null →
      QueryFlaw schema v (.queryNotAnObject v.typeName)
  | member : (key, v) ∈ fields → MemberFlaw schema key v misuse →
      QueryFlaw schema (.object fields) misuse
/-- What is wrong in one member of a query. -/
inductive MemberFlaw (schema : Schema) : String → Value → Misuse → Prop
  | notAnArray : key ∈ listKeys → (∀ l, v ≠ .array l) →
      MemberFlaw schema key v (.queriesNotAnArray key v.typeName)
  | listed : key ∈ listKeys → q ∈ l → QueryFlaw schema q misuse →
      MemberFlaw schema key (.array l) misuse
  | negated : QueryFlaw schema query misuse → MemberFlaw schema "$not" query misuse
  | field : isOperatorKey key = false → FieldFlaw schema (Path.ofText key) v misuse →
      MemberFlaw schema key v misuse
end

end Schema

-- ---------------------------------------------------------------------------
-- Selectors
-- ---------------------------------------------------------------------------

namespace Selector

end Selector

-- ---------------------------------------------------------------------------
-- Laws
-- ---------------------------------------------------------------------------

namespace Schema

variable {schema : Schema} {doc : Fields} {path : Path} {key : String} {v : Value} {l : List Value}

theorem fieldHolds_object (some : fields ≠ []) : schema.FieldHolds doc path (.object fields) ↔
    ∀ m ∈ fields, if isOperatorKey m.1 then schema.OperatorHolds doc path fields m.1 m.2
      else schema.FieldHolds doc (path ++ Path.ofText m.1) m.2 := by
  cases fields with
  | nil => exact absurd rfl some
  | cons e es => rw [FieldHolds]

theorem fieldHolds_value (other : ∀ e es, v ≠ .object (e :: es)) :
    schema.FieldHolds doc path v ↔ (schema.typeFor path).isMatch (doc.atD path) v = true := by
  rw [FieldHolds]
  exact other

theorem queryHolds_object : schema.QueryHolds doc (.object fields) ↔
    ∀ m ∈ fields, schema.MemberHolds doc m.1 m.2 := by
  rw [QueryHolds]

/-- Only an object says anything. -/
theorem queryHolds_value (other : ∀ fields, v ≠ .object fields) : schema.QueryHolds doc v := by
  rw [QueryHolds]
  · trivial
  · exact other

theorem memberHolds_and : schema.MemberHolds doc "$and" (.array l) ↔
    ∀ q ∈ l, schema.QueryHolds doc q := by
  rw [MemberHolds]

theorem memberHolds_or : schema.MemberHolds doc "$or" (.array l) ↔
    ∃ q ∈ l, schema.QueryHolds doc q := by
  rw [MemberHolds]
  simp only [exists_prop]

theorem memberHolds_nor : schema.MemberHolds doc "$nor" (.array l) ↔
    ∀ q ∈ l, ¬ schema.QueryHolds doc q := by
  rw [MemberHolds]

theorem memberHolds_not : schema.MemberHolds doc "$not" v ↔ ¬ schema.QueryHolds doc v := by
  rw [MemberHolds]

/-- In the place of a list of queries anything else says nothing. -/
theorem memberHolds_notAnArray (listed : key ∈ listKeys) (other : ∀ l, v ≠ .array l) :
    schema.MemberHolds doc key v := by
  simp only [listKeys, List.mem_cons, List.not_mem_nil, or_false] at listed
  rw [MemberHolds]
  · rcases listed with rfl | rfl | rfl <;> simp [isOperatorKey]
  all_goals grind

/-- A member with a key of its own; an operator that a query does not know says nothing. -/
theorem memberHolds_other (unlisted : key ∉ listKeys) (other : key ≠ "$not") :
    schema.MemberHolds doc key v ↔
      (isOperatorKey key = false → schema.FieldHolds doc (Path.ofText key) v) := by
  simp only [listKeys, List.mem_cons, List.not_mem_nil, or_false, not_or] at unlisted
  rw [MemberHolds]
  all_goals grind

end Schema

end DocStore
