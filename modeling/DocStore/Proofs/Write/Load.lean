import Mathlib.Data.List.Forall2
import DocStore.Proofs.Schema.Persist
import DocStore.Proofs.Write.Setters

/-!
# Collections in a file

A model that loads what another one with the same schema has exported holds the same documents in
the same order.
-/

namespace DocStore

-- ---------------------------------------------------------------------------
-- Ids
-- ---------------------------------------------------------------------------

theorem Schema.Plain.steady {schema : Schema} (plain : schema.Plain) : schema.Steady where
  spares := by
    refine List.pairwise_of_forall_mem_list fun earlier first later then_ touches => ?_
    rcases touches with virtuals | ⟨below, listed⟩
    · exact absurd (plain.stored later then_) virtuals
    · have isOpen := plain.isOpen earlier first later then_ below
      obtain ⟨path, type⟩ := earlier
      cases type with
      | array child options => exact isOpen.elim
      | leaf kind options =>
        cases kind with
        | mixed | object => exact listed.elim
        | _ => exact isOpen.elim
  keepsId entry mem virtuals := absurd (plain.stored entry mem) virtuals

theorem Fields.get?_unsigned (d : Fields) (k : String) :
    d.unsigned.get? k = (d.get? k).map (·.unsigned) := by
  induction d with
  | nil => rfl
  | cons e rest ih =>
    obtain ⟨j, v⟩ := e
    rw [unsigned, List.map_cons, get?_cons, get?_cons]
    by_cases same : k = j
    · simp [same]
    · simp only [beq_eq_false_iff_ne.mpr same, Bool.false_eq_true, if_false]
      exact ih

theorem idOf_unsigned (doc : Fields) : idOf doc.unsigned = idOf doc := by
  simp only [idOf, Fields.get?_unsigned]
  cases doc.get? idPath.head with
  | none => rfl
  | some v =>
    cases v with
    | number x => exact congrArg some (Number.text_unsigned x)
    | _ => rfl

-- ---------------------------------------------------------------------------
-- What is loaded
-- ---------------------------------------------------------------------------

namespace Collection

variable {schema : Schema}

/-- A stored document that a file can hold. -/
structure Kept (schema : Schema) (id : String) (doc : Fields) : Prop where
  form : schema.InForm doc
  placed : schema.Placed doc
  named : idOf doc = some id

theorem ofPersisted_append {entries : List (String × Fields)} {done : Collection}
    (kept : ∀ id doc, (id, doc) ∈ entries → Kept schema id doc)
    (nodup : (done.order ++ entries.map Prod.fst).Nodup) :
    ofPersisted schema (entries.map fun e => (Value.object (schema.persist e.2)).toJson) done =
      .ok { slots := done.slots ++ entries.map fun e => (e.1, some e.2.unsigned),
            size := done.size + entries.length } := by
  induction entries generalizing done with
  | nil => simp [ofPersisted]
  | cons e rest ih =>
    obtain ⟨id, doc⟩ := e
    obtain ⟨form, placed, named⟩ := kept id doc List.mem_cons_self
    have fresh : id ∉ done.order := by
      intro mem
      exact (List.nodup_append.mp nodup).2.2 id mem id (by simp) rfl
    have nodup : ((done.put id doc.unsigned).order ++ rest.map Prod.fst).Nodup := by
      rw [order_put, if_neg fresh]
      simpa using nodup
    have later := ih (fun id doc mem => kept id doc (List.mem_cons_of_mem _ mem)) nodup
    rw [put_of_fresh fresh] at later
    simp only [List.map_cons, ofPersisted, form.ofJson_persist, membersOf, bind, Except.bind,
      form.restore_persist placed, idOf_unsigned, named, put_of_fresh fresh, later]
    simp [Nat.add_assoc, Nat.add_comm 1]

end Collection

-- ---------------------------------------------------------------------------
-- The copy
-- ---------------------------------------------------------------------------

namespace Model

variable {m : Model} {id : String} {doc : Fields}

theorem Reachable.tidy (reached : m.Reachable) : m.collection.Tidy := by
  induction reached with
  | empty none => exact none ▸ ⟨by simp [Collection.order], rfl⟩
  | @write m request reached source byId ih =>
    rcases m.perform_collection source byId with same | ⟨c, -, -, applied⟩
    · exact same ▸ ih
    · rw [applied]
      obtain ⟨change, id, fields, document⟩ := c
      cases change with
      | remove => exact ih.erase id
      | _ => exact ih.put id fields

/-- A file can hold what the model stores: every number has a value, every date a time stamp, and
dates and buffers are where the schema has them. That no object has a key twice is no restriction:
objects are maps. -/
structure IsPortable (m : Model) : Prop where
  portable : ∀ doc ∈ m.collection.live, (Value.object doc).Portable
  placed : ∀ doc ∈ m.collection.live, m.schema.Placed doc

theorem Reachable.kept (reached : m.Reachable) (plain : m.schema.Plain)
    (distinct : (m.schema.entries.map Prod.fst).Nodup) (portable : m.IsPortable)
    (mem : (id, doc) ∈ m.collection.entries) : Collection.Kept m.schema id doc := by
  have slot := Collection.mem_entries.mp mem
  have live : doc ∈ m.collection.live := Collection.mem_live.mpr ⟨id, slot⟩
  have settles := reached.settles plain live
  refine ⟨⟨plain.stored, distinct, fun entry mem => (settles entry mem).checked,
    portable.portable doc live⟩, portable.placed doc live, ?_⟩
  exact (reached.conforms distinct plain.steady.shelters slot).named

theorem Reachable.ofPersisted_exported (reached : m.Reachable) (plain : m.schema.Plain)
    (distinct : (m.schema.entries.map Prod.fst).Nodup) (portable : m.IsPortable) :
    Collection.ofPersisted m.schema m.exported {} =
      .ok { slots := m.collection.entries.map fun e => (e.1, some e.2.unsigned),
            size := m.collection.size } := by
  have tidy := reached.tidy
  have trees : m.exported = m.collection.entries.map fun e =>
      (Value.object (m.schema.persist e.2)).toJson := by
    rw [exported, Collection.live_eq_map, List.map_map]
    rfl
  have nodup : ((({} : Collection).order) ++ m.collection.entries.map Prod.fst).Nodup := by
    simpa [Collection.order] using tidy.nodup_entries
  rw [trees, Collection.ofPersisted_append
    (fun id doc mem => reached.kept plain distinct portable mem) nodup, tidy.size,
    Collection.live_eq_map, List.length_map]
  simp

/-- What a model of the same schema loads from an export: the same documents under the same ids, in
the same order and as many; and it exports them in the same way again. Only the signs of zeros are
lost on the way, which equality does not see. -/
theorem Reachable.load_exported (reached : m.Reachable) (plain : m.schema.Plain)
    (distinct : (m.schema.entries.map Prod.fst).Nodup) (portable : m.IsPortable) {copy : Model}
    (same : copy.schema = m.schema) (source : Source) :
    let loaded := copy.perform source (.load m.exported)
    loaded.result = .ok none ∧
      List.Forall₂ (fun e e' => e.1 = e'.1 ∧ e.2.equal e'.2 = true) m.collection.entries
        loaded.model.collection.entries ∧
      loaded.model.collection.live = m.collection.live.map Fields.unsigned ∧
      loaded.model.count = m.count ∧ loaded.model.exported = m.exported := by
  intro loaded
  have read := reached.ofPersisted_exported plain distinct portable
  have done : loaded.result = .ok none ∧ loaded.model.collection =
      { slots := m.collection.entries.map fun e => (e.1, some e.2.unsigned),
        size := m.collection.size } ∧ loaded.model.schema = m.schema := by
    simp only [loaded, perform, prepare, same, read]
    exact ⟨rfl, rfl, same⟩
  obtain ⟨result, collection, schema⟩ := done
  have entries : loaded.model.collection.entries
      = m.collection.entries.map fun e => (e.1, e.2.unsigned) := by
    rw [collection, Collection.entries, List.filterMap_map]
    show List.filterMap (some ∘ fun e : String × Fields => (e.1, e.2.unsigned)) _ = _
    rw [List.filterMap_eq_map]
  have live : loaded.model.collection.live = m.collection.live.map Fields.unsigned := by
    rw [Collection.live_eq_map, entries, Collection.live_eq_map, List.map_map, List.map_map]
    rfl
  refine ⟨result, ?_, live, by rw [count, collection, count], ?_⟩
  · rw [entries, List.forall₂_map_right_iff, List.forall₂_same]
    intro e mem
    have document := Collection.mem_live.mpr ⟨e.1, Collection.mem_entries.mp mem⟩
    refine ⟨rfl, ?_⟩
    have equal := Value.equal_unsigned (portable.portable e.2 document)
    rwa [Value.unsigned_object] at equal
  · rw [exported, exported, live, schema, List.map_map]
    refine List.map_congr_left fun doc mem => ?_
    obtain ⟨id, slot⟩ := Collection.mem_live.mp mem
    exact (reached.kept plain distinct portable
      (Collection.mem_entries.mpr slot)).form.toJson_persist_unsigned

/-- A date that is declared, a null among declared booleans, and a zero with a sign in a field that is
not declared. -/
theorem Reachable.load_exported_nested :
    let flags : FieldType := .array (.ofKind .boolean) {}
    let schema := Schema.initial.declareAll
      [(⟨"born", []⟩, .ofKind .date), (⟨"pet", ["flags"]⟩, flags)]
    let empty : Model := { handle := ⟨0, "pets", schema⟩ }
    let copy : Model := { handle := ⟨1, "copies", schema⟩ }
    let source : Source := ⟨fun _ => 0, ⟨0, 0⟩, []⟩
    let pet : Value := .object [("flags", .array [.bool true, .null])]
    let height := Number.ofMagnitude true 0
    let doc : Fields := [("_id", .string "a"), ("born", .date ⟨0, 0⟩), ("pet", pet),
      ("height", .number height)]
    let m := (empty.perform source (.insert (.object doc))).model
    let loaded := copy.perform source (.load m.exported)
    (m.Reachable ∧ m.schema.Plain ∧ (m.schema.entries.map Prod.fst).Nodup ∧ m.IsPortable ∧
      copy.schema = m.schema) ∧
      loaded.result = .ok none ∧ loaded.model.count = 1 ∧
      List.Forall₂ (fun e e' => e.1 = e'.1 ∧ e.2.equal e'.2 = true) [("a", doc)]
        loaded.model.collection.entries ∧
      loaded.model.exported = m.exported := by
  intro flags schema empty copy source pet height doc m loaded
  have reached : m.Reachable := .write (.empty rfl) source trivial
  have same : m.schema = empty.schema := congrArg ModelHandle.schema (perform_handle ..)
  have entries : empty.schema.entries = [(idPath, .leaf (.id .nanoid) { required := true }),
      (⟨"born", []⟩, .ofKind .date), (⟨"pet", []⟩, .ofKind .object), (⟨"pet", ["flags"]⟩, flags)] :=
    rfl
  have plain : m.schema.Plain := by
    constructor <;> rw [same, entries]
    · simp [FieldType.virtuals, FieldType.ofKind, flags]
    · simp [FieldType.IsOpen, FieldType.ofKind, idPath]
  have distinct : (m.schema.entries.map Prod.fst).Nodup := by
    rw [same, entries]
    simp [idPath]
  have inserted : m.collection = { slots := [("a", some doc)], size := 1 } := by
    simp only [m, empty, source, doc, pet, flags, schema]
    clear_value height
    cbv
  have live : m.collection.live = [doc] := by rw [inserted]; rfl
  have whole : (Value.object doc).Portable := by
    have zero : (Number.ofMagnitude true 0).isFinite = true := by decide +kernel
    have epoch : Instant.IsStamped ⟨0, 0⟩ := ⟨rfl, by decide, by decide, by decide⟩
    refine .object (by simp [doc]) fun k v mem => ?_
    simp only [doc, List.mem_cons, Prod.mk.injEq, List.not_mem_nil, or_false] at mem
    rcases mem with ⟨-, rfl⟩ | ⟨-, rfl⟩ | ⟨-, rfl⟩ | ⟨-, rfl⟩
    · exact .string _
    · exact .date epoch
    · refine .object (by simp) fun k v mem => ?_
      obtain ⟨-, rfl⟩ : k = _ ∧ v = _ := by simpa using mem
      exact .array (by simp [Value.Portable.bool, Value.Portable.null])
    · exact .number zero
  have flagged {p w} (held : Fields.at? [("flags", .array [.bool true, .null])] p = some w) :
      w.Bare := by
    obtain ⟨k, _ | ⟨j, js⟩⟩ := p
    · obtain ⟨-, rfl⟩ : k = _ ∧ w = _ := by simpa using Fields.mem_of_get? held
      exact .array (by simp [Value.Bare.bool, Value.Bare.null])
    · simpa using Fields.mem_of_get? (Fields.get?_of_at?_cons held)
  have placed : m.schema.Placed doc := by
    rintro ⟨k, _ | ⟨j, js⟩⟩ v held leaf
    · have mem := Fields.mem_of_get? held
      simp only [doc, List.mem_cons, Prod.mk.injEq, List.not_mem_nil, or_false] at mem
      rcases mem with ⟨-, rfl⟩ | ⟨rfl, rfl⟩ | ⟨-, rfl⟩ | ⟨-, rfl⟩
      · exact .inl (.string _)
      · exact .inr (by rw [same]; trivial)
      · exact absurd rfl (leaf _)
      · exact .inl (.number _)
    · have above := Fields.mem_of_get? (Fields.get?_of_at?_cons held)
      obtain ⟨-, inner⟩ : k = _ ∧ Fields.child doc k = _ := by simpa [doc, pet] using above
      rw [Fields.at?_cons, inner] at held
      exact .inl (flagged held)
  have portable : m.IsPortable := by
    constructor <;> rw [live] <;> exact List.forall_mem_singleton.mpr ‹_›
  have copied : copy.schema = m.schema := same.symm
  obtain ⟨result, alike, -, count, exported⟩ :=
    Reachable.load_exported reached plain distinct portable copied source
  have stored : m.collection.entries = [("a", doc)] := by rw [inserted]; rfl
  rw [stored] at alike
  have one : m.count = 1 := by rw [Model.count, inserted]
  refine ⟨⟨reached, plain, distinct, portable, copied⟩, result, count.trans one, ?_, exported⟩
  simpa only [loaded] using alike

end Model

end DocStore
