import DocStore.Proofs.Schema.Pass
import DocStore.Proofs.Write.Holder
import DocStore.Proofs.Write.Protocol
import DocStore.Realm.Report

/-!
# What a model stores

Whatever the writes were, and whether their hooks let them pass, each stored document is one that
the schema admits under its id. Without virtual fields that makes it canonical, and a report finds
nothing wrong with it.
-/

namespace DocStore

/-- The states that a model comes to by writes of one document, from the empty collection on. -/
inductive Model.Reachable : Model → Prop
  | empty (none : m.collection = {}) : Model.Reachable m
  | write (reached : Model.Reachable m) (source : Source) (byId : request.IsById) :
      Model.Reachable (m.perform source request).model

namespace Model

variable {m : Model} {source : Source} {request : Request} {id : String} {doc : Fields}

/-- A commit takes place as a whole or not at all. -/
theorem execute_collection (m : Model) (c : Commit) :
    (m.execute (.commit c)).model.collection = m.collection ∨
      (m.execute (.commit c)).model.collection = m.collection.apply (.commit c) := by
  cases before : m.runHooks c.document (m.hooks .before c.change.action) with
  | mk result left =>
    cases result with
    | error e => exact .inl (by simp only [execute, before])
    | ok u =>
      refine .inr ?_
      simp only [execute, before]
      rfl

theorem perform_collection (m : Model) (source : Source) (byId : request.IsById) :
    (m.perform source request).model.collection = m.collection ∨
    ∃ c : Commit, (c.change ≠ .remove → m.schema.Admits c.id c.fields c.change) ∧
      (m.collection.contains c.id = true ↔ c.change ≠ .insert) ∧
      (m.perform source request).model.collection = m.collection.apply (.commit c) := by
  rcases m.plans source byId with ⟨e, hp, -⟩ | ⟨c, hp, fits, admits⟩
  · exact .inl (by simp only [perform, hp])
  · simp only [perform, hp]
    exact (m.execute_collection c).imp id fun applied => ⟨c, admits, fits.used, applied⟩

theorem mem_slots_apply {c : Commit} {collection : Collection}
    (mem : (id, some doc) ∈ (collection.apply (.commit c)).slots) :
    (id, some doc) ∈ collection.slots ∨ c.change ≠ .remove ∧ id = c.id ∧ doc = c.fields := by
  obtain ⟨change, i, fields, document⟩ := c
  cases change with
  | remove => exact .inl (Collection.mem_slots_erase mem)
  | _ => exact (Collection.mem_slots_put mem).imp_right fun same => ⟨by simp, same⟩

/-- The schema admits what is stored, and every id was once inserted. -/
structure Stocked (m : Model) : Prop where
  admitted : ∀ id doc, (id, some doc) ∈ m.collection.slots → ∃ change, m.schema.Admits id doc change
  issued : ∀ id ∈ m.collection.order, ∃ doc, m.schema.Admits id doc .insert

theorem Stocked.apply {c : Commit} (stocked : m.Stocked)
    (admits : c.change ≠ .remove → m.schema.Admits c.id c.fields c.change)
    (used : m.collection.contains c.id = true ↔ c.change ≠ .insert) :
    Stocked { m with collection := m.collection.apply (.commit c) } := by
  constructor
  · intro id doc mem
    rcases mem_slots_apply mem with old | ⟨stores, rfl, rfl⟩
    · exact stocked.admitted id doc old
    · exact ⟨c.change, admits stores⟩
  · intro id mem
    rw [Collection.order_apply fun removes => used.mpr (by simp [removes])] at mem
    by_cases inserts : c.change = .insert
    · by_cases same : id = c.id
      · subst same
        exact ⟨c.fields, inserts ▸ admits (by simp [inserts])⟩
      · refine stocked.issued id ?_
        split at mem
        · exact mem
        · simpa [same] using mem
    · rw [if_pos (Collection.mem_order (used.mpr inserts))] at mem
      exact stocked.issued id mem

theorem Reachable.stocked (reached : m.Reachable) : m.Stocked := by
  induction reached with
  | empty none => constructor <;> simp [none, Collection.order]
  | @write m request reached source byId ih =>
    have schema : (m.perform source request).model.schema = m.schema := by
      simp only [Model.schema, perform_handle]
    rcases m.perform_collection source byId with same | ⟨c, admits, used, applied⟩
    · exact ⟨by rw [schema, same]; exact ih.admitted, by rw [schema, same]; exact ih.issued⟩
    · have after := ih.apply admits used
      exact ⟨by rw [schema, applied]; exact after.admitted,
        by rw [schema, applied]; exact after.issued⟩

-- ---------------------------------------------------------------------------
-- Without virtual fields
-- ---------------------------------------------------------------------------

theorem mem_documentsOf (h : d ∈ m.documentsOf source found) :
    ∃ fields ∈ found, ∃ i, d = m.documentOf (source.branch i) fields := by
  simp only [documentsOf, List.mem_map, Prod.exists] at h
  obtain ⟨fields, i, mem, rfl⟩ := h
  exact ⟨fields, List.fst_mem_of_mem_zipIdx mem, i, rfl⟩

/-- What is stored was filled and has passed the check. -/
theorem Reachable.passed (reached : m.Reachable) (mem : doc ∈ m.collection.live) :
    ∃ source fields, m.schema.check (m.schema.fill source fields) = (.ok (), doc) := by
  obtain ⟨id, mem⟩ := Collection.mem_live.mp mem
  obtain ⟨change, admits⟩ := reached.stocked.admitted id doc mem
  cases admits with
  | named _ _ _ checked => exact ⟨_, _, checked⟩
  | given _ _ checked => exact ⟨_, _, checked⟩

theorem Reachable.settles (reached : m.Reachable) (plain : m.schema.Plain)
    (mem : doc ∈ m.collection.live) : ∀ entry ∈ m.schema.entries, Schema.Settled entry doc := by
  obtain ⟨_, _, checked⟩ := reached.passed mem
  exact plain.settles checked

theorem Reachable.settled (reached : m.Reachable) (plain : m.schema.Plain)
    (mem : doc ∈ m.collection.live) (source : Source) :
    m.schema.fill source doc = doc ∧ m.schema.check doc = (.ok (), doc) := by
  obtain ⟨_, _, checked⟩ := reached.passed mem
  exact plain.settled checked source

theorem report_isOk (r : Realm) (source : Source)
    (settled : ∀ doc ∈ m.collection.live, ∀ source,
      m.schema.fill source doc = doc ∧ m.schema.check doc = (.ok (), doc)) :
    (r.report m source).isOk = true := by
  simp only [Report.isOk, List.all_eq_true]
  intro findings mem
  simp only [Realm.report, List.mem_filter, List.mem_map, Prod.exists] at mem
  obtain ⟨⟨d, i, mem, rfl⟩, -⟩ := mem
  obtain ⟨fields, stored, j, rfl⟩ := mem_documentsOf (List.fst_mem_of_mem_zipIdx mem)
  have filled := fun source => (settled fields stored source).1
  simp [Realm.findings, documentOf, Document.ofFields, filled, (settled fields stored source).2]

/-- Stored documents are canonical, and a report has nothing to say against them. -/
theorem Reachable.stored_canonical (reached : m.Reachable) (plain : m.schema.Plain) :
    (∀ doc ∈ m.collection.live, ∀ source,
      m.schema.fill source doc = doc ∧ m.schema.check doc = (.ok (), doc)) ∧
    ∀ (r : Realm) (source : Source), (r.report m source).isOk = true :=
  have settled := fun _ mem source => reached.settled plain mem source
  ⟨settled, fun r source => report_isOk r source settled⟩

/-- A default below an object that was not given. -/
theorem Reachable.stored_canonical_nested :
    let age : FieldType := .leaf .integer { default := some (.fixed (.number (Number.ofNat 3))) }
    let empty : Model := { handle := ⟨0, "pets", Schema.initial.declare ⟨"pet", ["age"]⟩ age⟩ }
    let source : Source := ⟨fun _ => 0, ⟨0, 0⟩, []⟩
    let m := (empty.perform source (.insert (.object [("_id", .string "a")]))).model
    (m.Reachable ∧ m.schema.Plain) ∧ m.count = 1 ∧
      (∀ doc ∈ m.collection.live, ∀ source,
        m.schema.fill source doc = doc ∧ m.schema.check doc = (.ok (), doc)) ∧
      ∀ (r : Realm) (source : Source), (r.report m source).isOk = true := by
  intro age empty source m
  have reached : m.Reachable := .write (.empty rfl) source trivial
  have same : m.schema = empty.schema := congrArg ModelHandle.schema (perform_handle ..)
  have plain : m.schema.Plain := by
    have entries : empty.schema.entries = [(idPath, .leaf (.id .nanoid) { required := true }),
        (⟨"pet", []⟩, .ofKind .object), (⟨"pet", ["age"]⟩, age)] := rfl
    constructor <;> rw [same, entries]
    · simp [FieldType.virtuals, FieldType.ofKind, age]
    · simp [FieldType.IsOpen, FieldType.ofKind, idPath]
  exact ⟨⟨reached, plain⟩, rfl, Reachable.stored_canonical reached plain⟩

end Model

end DocStore
