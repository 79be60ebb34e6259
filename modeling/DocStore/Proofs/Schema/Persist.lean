import DocStore.Proofs.FieldType.Persist
import DocStore.Proofs.Schema.Pass

/-!
# Documents in a file

Writing and reading a document walk the paths of the schema one after the other. Either pass comes
down to what the type of each path does to the leaf there; so what is read is what was written, leaf
by leaf.
-/

namespace DocStore

open FieldType

namespace Schema

variable {schema : Schema} {entry : Path × FieldType} {entries : List (Path × FieldType)}
  {d doc : Fields} {f : Path → Value → Value} {h : FieldType → Value → Value}

-- ---------------------------------------------------------------------------
-- A pass over the fields that are there
-- ---------------------------------------------------------------------------

/-- Changes the field of a path if there is one. -/
def rewriteEntry (h : FieldType → Value → Value) (doc : Fields) (entry : Path × FieldType) :
    Fields :=
  match doc.at? entry.1 with
  | some v => doc.set entry.1 (h entry.2 v)
  | none => doc

/-- A change of one path among changes of leaves. What is an object there stays as it is. -/
theorem rewriteEntry_mapLeaves (distinct : (Value.object d).Distinct) (keeps : KeepsLeaves f)
    (objects : ∀ c, d.at? entry.1 = some (.object c) → ∀ v, h entry.2 v = v) :
    rewriteEntry h (d.mapLeaves f) entry =
      d.mapLeaves fun p v => if p = entry.1 then h entry.2 (f p v) else f p v := by
  obtain ⟨path, type⟩ := entry
  have elsewhere (none : ∀ v, d.at? path = some v → ¬ v.IsLeaf) :
      d.mapLeaves f = d.mapLeaves fun p v => if p = path then h type (f p v) else f p v := by
    refine Fields.mapLeaves_congr distinct fun p v held leaf => ?_
    have ne : p ≠ path := by
      rintro rfl
      exact none v held leaf
    simp [ne]
  simp only [rewriteEntry]
  cases held : d.at? path with
  | none =>
    rw [Fields.at?_mapLeaves_none keeps held]
    exact elsewhere (by simp [held])
  | some v =>
    rcases v.leaf_or_object with leaf | ⟨c, rfl⟩
    · rw [Fields.at?_mapLeaves_leaf keeps held leaf]
      dsimp only
      rw [Fields.set_eq_mapLeaves (Fields.distinct_mapLeaves distinct keeps)
        (Fields.at?_mapLeaves_leaf keeps held leaf) (keeps _ _ leaf),
        Fields.mapLeaves_mapLeaves distinct keeps]
      refine Fields.mapLeaves_congr distinct fun p w found _ => ?_
      by_cases same : p = path
      · subst same
        obtain rfl := Option.some.inj (held.symm.trans found)
        rfl
      · simp [same]
    · obtain ⟨c', object⟩ := Fields.at?_mapLeaves_object keeps held
      rw [object]
      dsimp only
      rw [objects c held, Fields.set_eq_self object]
      refine elsewhere fun v found leaf => ?_
      exact leaf c (Option.some.inj (found.symm.trans held))

theorem typeFor_cons (path p : Path) (type : FieldType) (rest : List (Path × FieldType)) :
    typeFor ⟨(path, type) :: rest⟩ p = if p = path then type else typeFor ⟨rest⟩ p := by
  by_cases same : p = path
  · simp [typeFor, find?, same]
  · rw [if_neg same]
    simp [typeFor, find?, List.lookup_cons, beq_eq_false_iff_ne.mpr same]

theorem typeFor_of_not_mem (fresh : path ∉ entries.map Prod.fst) :
    typeFor ⟨entries⟩ path = .mixed := by
  induction entries with
  | nil => rfl
  | cons first rest ih =>
    obtain ⟨p, type⟩ := first
    simp only [List.map_cons, List.mem_cons, not_or] at fresh
    rw [typeFor_cons, if_neg fresh.1, ih fresh.2]

/-- A pass that changes the field of each path, from leaves that were changed already. -/
theorem foldl_mapLeaves {step : Fields → Path × FieldType → Fields} {g : Path → Value → Value}
    (distinct : (Value.object d).Distinct) (mixed : ∀ v, h .mixed v = v)
    (leaves : ∀ type v, v.IsLeaf → (h type v).IsLeaf)
    (objects : ∀ entry ∈ entries, ∀ c, d.at? entry.1 = some (.object c) → ∀ v, h entry.2 v = v)
    (steps : ∀ entry ∈ entries, ∀ f, KeepsLeaves f → (∀ v, f entry.1 v = g entry.1 v) →
      step (d.mapLeaves f) entry = rewriteEntry h (d.mapLeaves f) entry)
    (nodup : (entries.map Prod.fst).Nodup) (keeps : KeepsLeaves f)
    (same : ∀ entry ∈ entries, ∀ v, f entry.1 v = g entry.1 v) :
    entries.foldl step (d.mapLeaves f) =
      d.mapLeaves fun p v => h (typeFor ⟨entries⟩ p) (f p v) := by
  induction entries generalizing f with
  | nil => simp [typeFor, find?, mixed]
  | cons first rest ih =>
    obtain ⟨path, type⟩ := first
    obtain ⟨fresh, nodup⟩ := List.nodup_cons.mp nodup
    obtain ⟨objectsFirst, objects⟩ := List.forall_mem_cons.mp objects
    obtain ⟨stepFirst, steps⟩ := List.forall_mem_cons.mp steps
    obtain ⟨sameFirst, same⟩ := List.forall_mem_cons.mp same
    have keeps' : KeepsLeaves fun p v => if p = path then h type (f p v) else f p v := by
      intro p v leaf
      dsimp only
      split
      · exact leaves _ _ (keeps p v leaf)
      · exact keeps p v leaf
    have later : ∀ entry ∈ rest, ∀ v,
        (if entry.1 = path then h type (f entry.1 v) else f entry.1 v) = g entry.1 v := by
      intro entry mem v
      have ne : entry.1 ≠ path := fun same => fresh (same ▸ List.mem_map.mpr ⟨entry, mem, rfl⟩)
      rw [if_neg ne, same entry mem v]
    rw [List.foldl_cons, stepFirst f keeps sameFirst,
      rewriteEntry_mapLeaves distinct keeps objectsFirst, ih objects steps nodup keeps' later]
    refine congrArg (Fields.mapLeaves · d) (funext fun p => funext fun v => ?_)
    by_cases same : p = path
    · simp [same, typeFor_cons, typeFor_of_not_mem fresh, mixed]
    · simp [same, typeFor_cons]

-- ---------------------------------------------------------------------------
-- The two passes
-- ---------------------------------------------------------------------------

/-- Where no field is null, nothing is removed. -/
theorem store_eq_rewriteEntry (stored : entry.2.virtuals = [])
    (present : doc.at? entry.1 ≠ some .null) :
    store entry.1 (entry.2.persist (doc.atD entry.1)) doc
      = rewriteEntry FieldType.persist doc entry := by
  cases held : doc.at? entry.1 with
  | none =>
    have null : entry.2.persist (doc.atD entry.1) = .null := by
      rw [Fields.atD, held]
      obtain ⟨path, type⟩ := entry
      cases type <;> rfl
    rw [null, rewriteEntry, held]
    exact Fields.remove_eq_self held
  | some v =>
    have ne : v ≠ .null := fun null => present (null ▸ held)
    rw [Fields.atD_of_at? held, store_of_ne_null (persist_ne_null stored ne), rewriteEntry, held]

/-- The schema's passes take the document as it is. -/
structure InForm (schema : Schema) (doc : Fields) : Prop where
  stored : ∀ entry ∈ schema.entries, entry.2.virtuals = []
  nodup : (schema.entries.map Prod.fst).Nodup
  checked : ∀ entry ∈ schema.entries, Checked entry doc
  portable : (Value.object doc).Portable

theorem InForm.objects (form : schema.InForm doc) :
    ∀ entry ∈ schema.entries, ∀ c, doc.at? entry.1 = some (.object c) →
      ∀ v, entry.2.persist v = v ∧ entry.2.restore v = v := by
  intro entry mem c held v
  have taken := (form.checked entry mem).taken
  rw [Fields.atD_of_at? held] at taken
  exact persist_of_accepts_object (form.stored entry mem) taken v

theorem InForm.persist_mapLeaves (form : schema.InForm doc) (keeps : KeepsLeaves f)
    (present : ∀ p v, v ≠ .null → f p v ≠ .null) :
    schema.persist (doc.mapLeaves f) = doc.mapLeaves fun p v => (schema.typeFor p).persist (f p v) := by
  refine foldl_mapLeaves (g := f) form.portable.distinct (fun v => by cases v <;> rfl)
    (fun type v leaf => persist_isLeaf type leaf)
    (fun entry mem c held v => (form.objects entry mem c held v).1)
    (fun entry mem f' keeps' same => store_eq_rewriteEntry (form.stored entry mem) ?_)
    form.nodup keeps (fun _ _ _ => rfl)
  have notNull := (form.checked entry mem).present
  cases held : doc.at? entry.1 with
  | none => simp [Fields.at?_mapLeaves_none keeps' held]
  | some v =>
    rcases v.leaf_or_object with leaf | ⟨c, rfl⟩
    · rw [Fields.at?_mapLeaves_leaf keeps' held leaf, same v]
      have ne : v ≠ .null := fun null => notNull (null ▸ held)
      simpa using present entry.1 v ne
    · obtain ⟨c', object⟩ := Fields.at?_mapLeaves_object keeps' held
      simp [object]

theorem InForm.restore_mapLeaves (form : schema.InForm doc) (keeps : KeepsLeaves f) :
    schema.restore (doc.mapLeaves f) = doc.mapLeaves fun p v => (schema.typeFor p).restore (f p v) :=
  foldl_mapLeaves (g := f) form.portable.distinct (fun v => by cases v <;> rfl)
    (fun type v leaf => restore_isLeaf type leaf)
    (fun entry mem c held v => (form.objects entry mem c held v).2)
    (fun _ _ _ _ _ => rfl) form.nodup keeps (fun _ _ _ => rfl)

-- ---------------------------------------------------------------------------
-- Out and back
-- ---------------------------------------------------------------------------

/-- Every date and buffer is where the schema has one, alone or in arrays. -/
def Placed (schema : Schema) (doc : Fields) : Prop :=
  ∀ p v, doc.at? p = some v → v.IsLeaf → v.Bare ∨ (schema.typeFor p).IsTextual

theorem mem_entries_of_find? {p : Path} {type : FieldType} (h : schema.find? p = some type) :
    (p, type) ∈ schema.entries := by
  obtain ⟨pre, post, split, -⟩ := List.lookup_eq_some_iff.mp h
  simp [split]

/-- What a document holds at a path is taken there, whether the path is declared or not. -/
theorem InForm.accepts (form : schema.InForm doc) (held : doc.at? p = some v) :
    (schema.typeFor p).virtuals = [] ∧ (schema.typeFor p).Accepts p v := by
  cases declared : schema.find? p with
  | none =>
    have mixed : schema.typeFor p = .mixed := by simp [typeFor, declared]
    rw [mixed]
    exact ⟨rfl, by cases v <;> rfl⟩
  | some type =>
    have own : schema.typeFor p = type := by simp [typeFor, declared]
    have mem := mem_entries_of_find? declared
    have taken := (form.checked _ mem).taken
    rw [Fields.atD_of_at? held] at taken
    rw [own]
    exact ⟨form.stored _ mem, taken⟩

theorem InForm.persist_eq (form : schema.InForm doc) :
    schema.persist doc = doc.mapLeaves fun p => (schema.typeFor p).persist := by
  have whole := form.persist_mapLeaves (f := fun _ v => v) (fun _ _ leaf => leaf) fun _ _ ne => ne
  rwa [Fields.mapLeaves_eq_self form.portable.distinct fun _ _ => rfl] at whole

theorem InForm.portable_persist (form : schema.InForm doc) :
    (Value.object (schema.persist doc)).Portable := by
  rw [form.persist_eq]
  exact form.portable.mapLeaves fun p v portable => FieldType.portable_persist _ portable

/-- What a document is read as from its interchange tree, before its types are looked at. -/
theorem InForm.ofJson_persist (form : schema.InForm doc) :
    Value.ofJson (Value.object (schema.persist doc)).toJson =
      .object (doc.mapLeaves fun p v => ((schema.typeFor p).persist v).reread) := by
  have written := form.portable_persist
  rw [Value.ofJson_toJson written, Value.reread, Value.mapScalars_object written.distinct,
    form.persist_eq, Fields.mapLeaves_mapLeaves form.portable.distinct fun _ _ leaf =>
      persist_isLeaf _ leaf]
  rfl

/-- A document that is written and read again is itself without the signs of zeros. -/
theorem InForm.restore_persist (form : schema.InForm doc) (placed : schema.Placed doc) :
    schema.restore (doc.mapLeaves fun p v => ((schema.typeFor p).persist v).reread)
      = doc.unsigned := by
  have keeps : KeepsLeaves fun p v => ((schema.typeFor p).persist v).reread :=
    fun p v leaf => Value.reread_isLeaf (persist_isLeaf _ leaf)
  rw [form.restore_mapLeaves keeps, Value.unsigned_eq_mapLeaves form.portable.distinct]
  refine Fields.mapLeaves_congr form.portable.distinct fun p v held leaf => ?_
  obtain ⟨stored, taken⟩ := form.accepts held
  exact FieldType.restore_persist stored taken (form.portable.at? held) (placed p v held leaf)

/-- It is written in the same way again. -/
theorem InForm.toJson_persist_unsigned (form : schema.InForm doc) :
    (Value.object (schema.persist doc.unsigned)).toJson
      = (Value.object (schema.persist doc)).toJson := by
  have distinct := form.portable.distinct
  have commutes : schema.persist doc.unsigned = (schema.persist doc).unsigned := by
    rw [Value.unsigned_eq_mapLeaves form.portable_persist.distinct, form.persist_eq,
      Value.unsigned_eq_mapLeaves distinct, form.persist_mapLeaves
        (fun _ _ leaf => Value.unsigned_isLeaf leaf) (fun _ _ present => unsigned_ne_null present),
      Fields.mapLeaves_mapLeaves distinct fun _ _ leaf => persist_isLeaf _ leaf]
    simp only [persist_unsigned]
  rw [commutes, ← Value.unsigned_object, Value.toJson_unsigned form.portable_persist]

end Schema

end DocStore
