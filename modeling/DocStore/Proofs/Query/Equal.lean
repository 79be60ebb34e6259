import DocStore.Proofs.FieldType.Normal
import DocStore.Proofs.Query.Compile

/-!
# Queries respect equality

A query and a document mean what their normal forms mean, flaws included. So equal queries are
refused alike, and hold alike of equal documents.
-/

namespace DocStore

-- ---------------------------------------------------------------------------
-- Documents
-- ---------------------------------------------------------------------------

namespace Fields

variable {fields doc : Fields} {key : String} {v : Value}

theorem uniqueKeys_of_get? (unique : (Value.object fields).UniqueKeys)
    (held : fields.get? key = some v) : v.UniqueKeys :=
  (Value.uniqueKeys_object.mp unique).2 key v (mem_of_get? held)

theorem getAt_normal (unique : (Value.object doc).UniqueKeys) (key : String) (rest : List String) :
    doc.normal.getAt key rest = (doc.getAt key rest).map Value.normal := by
  induction rest generalizing doc key with
  | nil => exact get?_normal (Value.uniqueKeys_object.mp unique).1 key
  | cons next rest ih =>
    rw [getAt, getAt, get?_normal (Value.uniqueKeys_object.mp unique).1]
    cases held : doc.get? key with
    | none => rfl
    | some v =>
      cases v with
      | object child => simpa using ih (uniqueKeys_of_get? unique held) next
      | _ => simp

theorem atD_normal (unique : (Value.object doc).UniqueKeys) (path : Path) :
    doc.normal.atD path = (doc.atD path).normal := by
  simp only [atD, at?, getAt_normal unique]
  cases doc.getAt path.head path.rest <;> rfl

theorem uniqueKeys_getAt {rest : List String} (unique : (Value.object doc).UniqueKeys)
    (held : doc.getAt key rest = some v) : v.UniqueKeys := by
  induction rest generalizing doc key with
  | nil => exact uniqueKeys_of_get? unique held
  | cons next rest ih =>
    rw [getAt] at held
    split at held
    · exact ih (uniqueKeys_of_get? unique ‹_›) held
    · cases held

theorem uniqueKeys_atD (unique : (Value.object doc).UniqueKeys) (path : Path) :
    (doc.atD path).UniqueKeys := by
  cases held : doc.getAt path.head path.rest with
  | none => simpa [atD, at?, held] using Value.UniqueKeys.scalar (by simp [Value.IsScalar])
  | some v => simpa [atD, at?, held] using uniqueKeys_getAt unique held

theorem patternFlags_normal (nodup : (fields.map Prod.fst).Nodup) :
    patternFlags fields.normal = fields.patternFlags := by
  have letters : (fields.normal.get? "$options").bind Value.string? =
      (fields.get? "$options").bind Value.string? := by
    rw [get?_normal nodup]
    cases fields.get? "$options" <;> simp
  simp only [patternFlags, letters]

end Fields

theorem Value.normal_eq_string {v : Value} {s : String} : v.normal = .string s ↔ v = .string s := by
  cases v <;> simp

theorem Pattern.findsIn_normal {p : Pattern} {v : Value} : p.FindsIn v.normal ↔ p.FindsIn v := by
  rw [← Predicate.patternHolds_iff, ← Predicate.patternHolds_iff]
  cases v with
  | array items => simp [Predicate.patternHolds]
  | _ => simp [Predicate.patternHolds]

-- ---------------------------------------------------------------------------
-- Fields
-- ---------------------------------------------------------------------------

namespace Schema

variable {schema : Schema} {doc fields : Fields} {path : Path} {key : String} {v : Value}
  {misuse : Misuse}

theorem patternFlaw_other (other : ∀ s, v ≠ .string s) :
    PatternFlaw path fields v misuse ↔ misuse = .patternNotAString path := by
  constructor
  · rintro (_ | _)
    · rfl
    · exact absurd rfl (other _)
  · rintro rfl
    exact .notAString other

theorem patternFlaw_normal (nodup : (fields.map Prod.fst).Nodup) :
    PatternFlaw path fields.normal v.normal misuse ↔ PatternFlaw path fields v misuse := by
  by_cases string : ∃ s, v = .string s
  · obtain ⟨s, rfl⟩ := string
    have flags := Fields.patternFlags_normal nodup
    constructor
    · rintro (other | unread)
      · exact absurd rfl (other s)
      · exact .invalid (flags ▸ unread)
    · rintro (other | unread)
      · exact absurd rfl (other s)
      · exact .invalid (flags.symm ▸ unread)
  · have other := not_exists.mp string
    rw [patternFlaw_other other, patternFlaw_other fun s => mt Value.normal_eq_string.mp (other s)]

theorem operatorFlaw_normal (nodup : (fields.map Prod.fst).Nodup) :
    schema.OperatorFlaw path fields.normal key v.normal misuse ↔
      schema.OperatorFlaw path fields key v misuse := by
  rw [OperatorFlaw, OperatorFlaw, patternFlaw_normal nodup]

theorem not_fieldFlaw (other : ∀ fields, v ≠ .object fields) :
    ¬ schema.FieldFlaw path v misuse := by
  rintro (_ | _) <;> exact other _ rfl

theorem fieldFlaw_normal (unique : v.UniqueKeys) :
    schema.FieldFlaw path v.normal misuse ↔ schema.FieldFlaw path v misuse := by
  induction v using Value.induction generalizing path with
  | scalar v scalar => exact iff_of_false (not_fieldFlaw scalar.normal.2) (not_fieldFlaw scalar.2)
  | array items _ =>
    exact iff_of_false (not_fieldFlaw (by simp)) (not_fieldFlaw (by simp))
  | object fields ih =>
    obtain ⟨nodup, each⟩ := Value.uniqueKeys_object.mp unique
    rw [Value.normal_object, fieldFlaw_object, fieldFlaw_object, Fields.exists_mem_normal]
    refine exists_congr fun m => and_congr_right fun mem => ?_
    split
    · exact operatorFlaw_normal nodup
    · exact ih m.1 m.2 mem (each m.1 m.2 mem)

theorem operatorHolds_normal (uniqueDoc : (Value.object doc).UniqueKeys)
    (nodup : (fields.map Prod.fst).Nodup) (unique : v.UniqueKeys) :
    schema.OperatorHolds doc.normal path fields.normal key v.normal ↔
      schema.OperatorHolds doc path fields key v := by
  simp only [OperatorHolds, Fields.patternFlags_normal nodup, Fields.atD_normal uniqueDoc,
    Value.normal_eq_string, Pattern.findsIn_normal,
    FieldType.query_normal _ _ (Fields.uniqueKeys_atD uniqueDoc path) unique]

theorem fieldHolds_normal_value (uniqueDoc : (Value.object doc).UniqueKeys)
    (unique : v.UniqueKeys) (other : ∀ e es, v ≠ .object (e :: es)) :
    schema.FieldHolds doc.normal path v.normal ↔ schema.FieldHolds doc path v := by
  have other' : ∀ e es, v.normal ≠ .object (e :: es) := by
    intro e es same
    cases v with
    | object fields =>
      cases fields with
      | nil => cases same
      | cons e es => exact other e es rfl
    | _ => simp at same
  rw [fieldHolds_value other, fieldHolds_value other', Fields.atD_normal uniqueDoc,
    FieldType.isMatch_normal _ (Fields.uniqueKeys_atD uniqueDoc path) unique]

theorem fieldHolds_normal (uniqueDoc : (Value.object doc).UniqueKeys) (unique : v.UniqueKeys) :
    schema.FieldHolds doc.normal path v.normal ↔ schema.FieldHolds doc path v := by
  induction v using Value.induction generalizing path with
  | scalar v scalar =>
    exact fieldHolds_normal_value uniqueDoc unique fun e es => scalar.2 (e :: es)
  | array items _ => exact fieldHolds_normal_value uniqueDoc unique (by simp)
  | object fields ih =>
    by_cases empty : fields = []
    · subst empty
      exact fieldHolds_normal_value uniqueDoc unique (by simp)
    · obtain ⟨nodup, each⟩ := Value.uniqueKeys_object.mp unique
      have some : Fields.normal fields ≠ [] := by
        simpa [← List.length_eq_zero_iff] using empty
      rw [Value.normal_object, fieldHolds_object some, fieldHolds_object empty,
        Fields.forall_mem_normal]
      refine forall₂_congr fun m mem => ?_
      split
      · exact operatorHolds_normal uniqueDoc nodup (each m.1 m.2 mem)
      · exact ih m.1 m.2 mem (each m.1 m.2 mem)

-- ---------------------------------------------------------------------------
-- Queries
-- ---------------------------------------------------------------------------

theorem memberFlaw_normal (unique : v.UniqueKeys)
    (itself : schema.QueryFlaw v.normal misuse ↔ schema.QueryFlaw v misuse)
    (each : ∀ items, v = .array items → ∀ q ∈ items,
      (schema.QueryFlaw q.normal misuse ↔ schema.QueryFlaw q misuse)) :
    schema.MemberFlaw key v.normal misuse ↔ schema.MemberFlaw key v misuse := by
  by_cases listed : key ∈ listKeys
  · by_cases array : ∃ items, v = .array items
    · obtain ⟨items, rfl⟩ := array
      rw [Value.normal_array, memberFlaw_listed listed, memberFlaw_listed listed]
      simp only [List.mem_map, exists_exists_and_eq_and]
      exact exists_congr fun q => and_congr_right (each items rfl q)
    · have array' := mt Value.normal_eq_array.mp array
      rw [memberFlaw_notAnArray listed (not_exists.mp array),
        memberFlaw_notAnArray listed (not_exists.mp array'), Value.typeName_normal]
  · by_cases negated : key = "$not"
    · subst negated
      rw [memberFlaw_not, memberFlaw_not, itself]
    · rw [memberFlaw_other listed negated, memberFlaw_other listed negated, fieldFlaw_normal unique]

theorem queryFlaw_normal (unique : v.UniqueKeys) :
    schema.QueryFlaw v.normal misuse ↔ schema.QueryFlaw v misuse := by
  induction v using Value.member_induction with
  | other v other =>
    by_cases null : v = .null
    · subst null
      rfl
    · have other' : ∀ fields, v.normal ≠ .object fields := by
        cases v <;> first | exact absurd rfl (other _) | simp
      rw [queryFlaw_value other null, queryFlaw_value other' (mt Value.normal_eq_null.mp null),
        Value.typeName_normal]
  | object fields members items =>
    obtain ⟨-, each⟩ := Value.uniqueKeys_object.mp unique
    rw [Value.normal_object, queryFlaw_object, queryFlaw_object, Fields.exists_mem_normal]
    refine exists_congr fun m => and_congr_right fun mem => ?_
    have unique := each m.1 m.2 mem
    refine memberFlaw_normal unique (members m.1 m.2 mem unique) fun l same q mem' => ?_
    exact items m.1 l (same ▸ mem) q mem' (Value.uniqueKeys_array.mp (same ▸ unique) q mem')

theorem memberHolds_normal (uniqueDoc : (Value.object doc).UniqueKeys) (unique : v.UniqueKeys)
    (itself : schema.QueryHolds doc.normal v.normal ↔ schema.QueryHolds doc v)
    (each : ∀ items, v = .array items → ∀ q ∈ items,
      (schema.QueryHolds doc.normal q.normal ↔ schema.QueryHolds doc q)) :
    schema.MemberHolds doc.normal key v.normal ↔ schema.MemberHolds doc key v := by
  by_cases listed : key ∈ listKeys
  · by_cases array : ∃ items, v = .array items
    · obtain ⟨items, rfl⟩ := array
      have each := each items rfl
      simp only [listKeys, List.mem_cons, List.not_mem_nil, or_false] at listed
      rcases listed with rfl | rfl | rfl
      · rw [Value.normal_array, memberHolds_and, memberHolds_and, List.forall_mem_map]
        exact forall₂_congr each
      · rw [Value.normal_array, memberHolds_or, memberHolds_or]
        simp only [List.mem_map, exists_exists_and_eq_and]
        exact exists_congr fun q => and_congr_right (each q)
      · rw [Value.normal_array, memberHolds_nor, memberHolds_nor, List.forall_mem_map]
        exact forall₂_congr fun q mem => not_congr (each q mem)
    · have array' := mt Value.normal_eq_array.mp array
      exact iff_of_true (memberHolds_notAnArray listed (not_exists.mp array'))
        (memberHolds_notAnArray listed (not_exists.mp array))
  · by_cases negated : key = "$not"
    · subst negated
      rw [memberHolds_not, memberHolds_not, itself]
    · rw [memberHolds_other listed negated, memberHolds_other listed negated,
        fieldHolds_normal uniqueDoc unique]

theorem queryHolds_normal (uniqueDoc : (Value.object doc).UniqueKeys) (unique : v.UniqueKeys) :
    schema.QueryHolds doc.normal v.normal ↔ schema.QueryHolds doc v := by
  induction v using Value.member_induction with
  | other v other =>
    have other' : ∀ fields, v.normal ≠ .object fields := by
      cases v <;> first | exact absurd rfl (other _) | simp
    exact iff_of_true (queryHolds_value other') (queryHolds_value other)
  | object fields members items =>
    obtain ⟨-, each⟩ := Value.uniqueKeys_object.mp unique
    rw [Value.normal_object, queryHolds_object, queryHolds_object, Fields.forall_mem_normal]
    refine forall₂_congr fun m mem => ?_
    have unique := each m.1 m.2 mem
    refine memberHolds_normal uniqueDoc unique (members m.1 m.2 mem unique) fun l same q mem' => ?_
    exact items m.1 l (same ▸ mem) q mem' (Value.uniqueKeys_array.mp (same ▸ unique) q mem')

-- ---------------------------------------------------------------------------
-- Selectors
-- ---------------------------------------------------------------------------

variable {query other : Value} {twin : Fields}

theorem queryFlaw_congr (unique : query.UniqueKeys) (unique' : other.UniqueKeys)
    (same : query.equal other = true) :
    schema.QueryFlaw query misuse ↔ schema.QueryFlaw other misuse := by
  rw [← queryFlaw_normal unique, ← queryFlaw_normal unique',
    Value.normal_of_equal unique unique' same]

theorem queryHolds_congr (unique : query.UniqueKeys) (unique' : other.UniqueKeys)
    (same : query.equal other = true) (uniqueDoc : (Value.object doc).UniqueKeys)
    (uniqueTwin : (Value.object twin).UniqueKeys) (sameDoc : doc.equal twin = true) :
    schema.QueryHolds doc query ↔ schema.QueryHolds twin other := by
  have docs := Value.normal_of_equal uniqueDoc uniqueTwin sameDoc
  rw [Value.normal_object, Value.normal_object, Value.object.injEq] at docs
  rw [← queryHolds_normal uniqueDoc unique, ← queryHolds_normal uniqueTwin unique', docs,
    Value.normal_of_equal unique unique' same]

/-- Equal queries are both refused or both compiled, and then hold alike of equal documents. -/
theorem compileQuery_congr (schema : Schema) (unique : query.UniqueKeys)
    (unique' : other.UniqueKeys) (same : query.equal other = true)
    (uniqueDoc : (Value.object doc).UniqueKeys) (uniqueTwin : (Value.object twin).UniqueKeys)
    (sameDoc : doc.equal twin = true) :
    match schema.compileQuery (.spec query), schema.compileQuery (.spec other) with
    | .ok p, .ok q => p.holds doc = q.holds twin
    | .error _, .error _ => True
    | _, _ => False := by
  have right (v : Value) : Renders (schema.compileQuery (.spec v)) (schema.QueryFlaw v)
      fun p => ∀ doc, p.holds doc = true ↔ schema.QueryHolds doc v := compileSpec_renders v
  have flaws (misuse : Misuse) : schema.QueryFlaw query misuse ↔ schema.QueryFlaw other misuse :=
    queryFlaw_congr unique unique' same
  have means : schema.QueryHolds doc query ↔ schema.QueryHolds twin other :=
    queryHolds_congr unique unique' same uniqueDoc uniqueTwin sameDoc
  cases compiled : schema.compileQuery (.spec query) with
  | ok p =>
    obtain ⟨flawless, holds⟩ := (right query).ok compiled
    cases compiled' : schema.compileQuery (.spec other) with
    | ok q =>
      have holds' := ((right other).ok compiled').2
      exact Bool.eq_iff_iff.mpr ((holds doc).trans (means.trans (holds' twin).symm))
    | error e =>
      obtain ⟨misuse, flaw, -⟩ := (right other).error compiled'
      exact flawless misuse ((flaws misuse).mpr flaw)
  | error e =>
    obtain ⟨misuse, flaw, -⟩ := (right query).error compiled
    cases compiled' : schema.compileQuery (.spec other) with
    | ok q => exact ((right other).ok compiled').1 misuse ((flaws misuse).mp flaw)
    | error e' => trivial

/-- A pattern with its flags before it, a zero with a sign, and a document with other members
first. -/
theorem compileQuery_congr_reordered :
    let query : Value := .object [("name", .object [("$regex", .string "^a"),
      ("$options", .string "i")]), ("count", .number Number.zero)]
    let other : Value := .object [("count", .number (Number.ofMagnitude true 0)),
      ("name", .object [("$options", .string "i"), ("$regex", .string "^a")])]
    let doc : Fields := [("name", .string "Ann"), ("count", .number Number.zero)]
    let twin : Fields := [("count", .number (Number.ofMagnitude true 0)), ("name", .string "Ann")]
    query.UniqueKeys ∧ other.UniqueKeys ∧ query.equal other = true ∧
      (Value.object doc).UniqueKeys ∧ (Value.object twin).UniqueKeys ∧ doc.equal twin = true ∧
      match initial.compileQuery (.spec query), initial.compileQuery (.spec other) with
      | .ok p, .ok q => p.holds doc = q.holds twin
      | .error _, .error _ => True
      | _, _ => False := by
  intro query other doc twin
  have text (s : String) : (Value.string s).UniqueKeys := .scalar (by simp [Value.IsScalar])
  have number (x : Number) : (Value.number x).UniqueKeys := .scalar (by simp [Value.IsScalar])
  have unique : query.UniqueKeys ∧ other.UniqueKeys := by
    simp [query, other, Value.uniqueKeys_object, or_imp, forall_and, text, number]
  have uniqueDocs : (Value.object doc).UniqueKeys ∧ (Value.object twin).UniqueKeys := by
    simp [doc, twin, Value.uniqueKeys_object, or_imp, forall_and, text, number]
  have same : query.equal other = true := by decide
  have sameDocs : doc.equal twin = true := by decide
  exact ⟨unique.1, unique.2, same, uniqueDocs.1, uniqueDocs.2, sameDocs,
    compileQuery_congr initial unique.1 unique.2 same uniqueDocs.1 uniqueDocs.2 sameDocs⟩

end Schema

end DocStore
