import DocStore.Proofs.Schema.Text
import DocStore.Proofs.Write.Load
import DocStore.Proofs.Write.Serial

/-!
# Slots through a run

Whatever is written or loaded, every id has one slot, the document in a slot has the id of the slot,
and the size is the number of documents. A write of one document takes no slot away and opens one at
most, behind all others.
-/

namespace DocStore

variable {id : String} {doc : Fields}

-- ---------------------------------------------------------------------------
-- What a request does to the collection
-- ---------------------------------------------------------------------------

/-- Whatever is admitted was filled and has passed the check. -/
theorem Schema.Admits.passed {schema : Schema} (admits : schema.Admits id doc change) :
    ∃ source fields, schema.check (schema.fill source fields) = (.ok (), doc) := by
  cases admits with
  | named _ _ _ checked => exact ⟨_, _, checked⟩
  | given _ _ checked => exact ⟨_, _, checked⟩

/-- Whatever is stored under an id has it. -/
def Schema.Names (schema : Schema) : Prop :=
  ∀ id doc change, schema.Admits id doc change → (Value.string id).name? = some id →
    idOf doc = some id

theorem Schema.IsNamed.names {schema : Schema} (named : schema.IsNamed) : schema.Names := by
  intro id doc change admits text
  cases admits with
  | named source fields own checked =>
    have keeps := fun entry mem => Schema.keepsId_of_stored (named.stored entry mem)
    exact Schema.idOf_checkEntries keeps checked own
  | given source fields checked => exact (idOf_of_at? (named.at?_of_given checked)).trans text

/-- A load puts one document after the other, each under the id that it has then. -/
theorem Collection.ofPersisted_induction {P : Collection → Prop} {schema : Schema}
    {docs : List Json} {start loaded : Collection}
    (step : ∀ j ∈ docs, ∀ members, membersOf (Value.ofJson j) = .ok members →
      ∀ id, idOf (schema.restore members) = some id →
      ∀ c : Collection, P c → P (c.put id (schema.restore members)))
    (ok : ofPersisted schema docs start = .ok loaded) (first : P start) : P loaded := by
  induction docs generalizing start with
  | nil => exact Except.ok.inj ok ▸ first
  | cons j rest ih =>
    obtain ⟨stepFirst, step⟩ := List.forall_mem_cons.mp step
    simp only [ofPersisted, bind_eq_ok] at ok
    obtain ⟨members, given, ok⟩ := ok
    split at ok
    · rename_i id named
      exact ih step ok (stepFirst members given id named start first)
    · simp at ok

namespace Model

variable {m : Model}

/-- A load replaces the collection or is refused, any other request commits once or not at all. -/
theorem perform_changes (m : Model) (source : Source) (request : Request) :
    (m.perform source request).model.collection = m.collection ∨
    (∃ c : Commit, (c.change ≠ .remove → m.schema.Admits c.id c.fields c.change) ∧
      (m.collection.contains c.id = true ↔ c.change ≠ .insert) ∧
      (m.perform source request).model.collection = m.collection.apply (.commit c)) ∨
    ∃ docs, request = .load docs ∧ Collection.ofPersisted m.schema docs {} =
      .ok (m.perform source request).model.collection := by
  by_cases byId : request.IsById
  · exact (m.perform_collection source byId).imp_right .inl
  cases request with
  | load docs =>
    cases loaded : Collection.ofPersisted m.schema docs {} with
    | error e => exact .inl (by simp [perform, prepare, loaded, Except.map, bind, Except.bind])
    | ok c =>
      refine .inr (.inr ⟨docs, rfl, loaded.trans (congrArg Except.ok ?_)⟩)
      simp [perform, prepare, loaded, Except.map, bind, Except.bind, plan, execute, commit,
        Collection.apply]
  | _ => exact absurd trivial byId

theorem perform_schema (m : Model) (source : Source) (request : Request) :
    (m.perform source request).model.schema = m.schema :=
  congrArg ModelHandle.schema (m.perform_handle source request)

/-- What each request preserves while the schema is that of the beginning, a run preserves. -/
theorem performEach_induction {P : Model → Prop} (writes : List (Source × Request))
    (step : ∀ w ∈ writes, ∀ m', m'.schema = m.schema → P m' → P (m'.perform w.1 w.2).model)
    (start : P m) : P (m.performEach writes).1 := by
  induction writes generalizing m with
  | nil => exact start
  | cons w rest ih =>
    obtain ⟨stepFirst, step⟩ := List.forall_mem_cons.mp step
    have same := m.perform_schema w.1 w.2
    exact ih (fun w mem m' later => step w mem m' (later.trans same)) (stepFirst m rfl start)

end Model

-- ---------------------------------------------------------------------------
-- Keys
-- ---------------------------------------------------------------------------

namespace Collection

variable {c : Collection} {k : String}

/-- Every id has one slot, the size is the number of documents, and they are where their ids are. -/
structure Keyed (c : Collection) : Prop extends c.Tidy where
  named : ∀ id doc, (id, some doc) ∈ c.slots → idOf doc = some id

theorem keyed_empty : Keyed {} := ⟨⟨by simp [order], rfl⟩, by simp⟩

theorem Keyed.put (keyed : c.Keyed) (own : idOf doc = some id) : (put c id doc).Keyed := by
  refine ⟨keyed.toTidy.put id doc, fun k d mem => ?_⟩
  rcases mem_slots_put mem with old | ⟨rfl, rfl⟩
  · exact keyed.named k d old
  · exact own

theorem Keyed.erase (keyed : c.Keyed) (id : String) : (erase c id).Keyed :=
  ⟨keyed.toTidy.erase id, fun k d mem => keyed.named k d (mem_slots_erase mem)⟩

theorem mem_slots_of_contains (used : c.contains id = true) : ∃ doc, (id, some doc) ∈ c.slots := by
  obtain ⟨doc, found⟩ := contains_iff.mp used
  obtain ⟨pre, post, slots, -⟩ := List.lookup_eq_some_iff.mp found
  exact ⟨doc, by simp [slots]⟩

/-- What is stored has the id that it is stored under. -/
theorem Keyed.idOf_of_admits {schema : Schema} (keyed : c.Keyed) (names : schema.Names)
    (admits : schema.Admits id doc change) (used : c.contains id = true ↔ change ≠ .insert) :
    idOf doc = some id := by
  refine names id doc change admits ?_
  cases admits with
  | named source fields own checked =>
    obtain ⟨v, -, name⟩ := idOf_eq_some.mp own
    exact Value.name?_string name
  | given source fields checked =>
    -- the id is no empty text, because a document had it before
    obtain ⟨old, mem⟩ := mem_slots_of_contains (used.mpr (by simp))
    obtain ⟨v, -, name⟩ := idOf_eq_some.mp (keyed.named id old mem)
    exact Value.name?_string name

theorem Keyed.apply {schema : Schema} (keyed : c.Keyed) (names : schema.Names) {commit : Commit}
    (admits : commit.change ≠ .remove → schema.Admits commit.id commit.fields commit.change)
    (used : c.contains commit.id = true ↔ commit.change ≠ .insert) :
    (c.apply (.commit commit)).Keyed := by
  obtain ⟨change, id, fields, document⟩ := commit
  cases change with
  | remove => exact keyed.erase id
  | insert | update => exact keyed.put (keyed.idOf_of_admits names (admits (by simp)) used)

end Collection

namespace Model

variable {m : Model} {writes : List (Source × Request)}

theorem performEach_keyed_of_names (names : m.schema.Names) (keyed : m.collection.Keyed)
    (writes : List (Source × Request)) : (m.performEach writes).1.collection.Keyed := by
  refine performEach_induction (P := fun m' => m'.collection.Keyed) writes ?_ keyed
  rintro ⟨source, request⟩ - m' same keyed
  rcases m'.perform_changes source request with
    kept | ⟨c, admits, used, applied⟩ | ⟨docs, -, loaded⟩
  · exact kept ▸ keyed
  · exact applied ▸ keyed.apply (same ▸ names) admits used
  · exact Collection.ofPersisted_induction (fun _ _ _ _ _ own _ keyed => keyed.put own) loaded
      Collection.keyed_empty

theorem performEach_keyed (named : m.schema.IsNamed) (keyed : m.collection.Keyed)
    (writes : List (Source × Request)) : (m.performEach writes).1.collection.Keyed :=
  performEach_keyed_of_names named.names keyed writes

/-- A write of one document opens one slot at most, behind all others. -/
theorem perform_order (m : Model) (source : Source) {request : Request} (byId : request.IsById) :
    let after := (m.perform source request).model.collection
    after.order = m.collection.order ∨
      ∃ id, id ∉ m.collection.order ∧ after.order = m.collection.order ++ [id] := by
  intro after
  rcases m.perform_collection source byId with kept | ⟨c, -, used, applied⟩
  · exact .inl (congrArg Collection.order kept)
  have order : after.order = _ := (congrArg Collection.order applied).trans
    (Collection.order_apply fun removes => used.mpr (by simp [removes]))
  by_cases known : c.id ∈ m.collection.order
  · exact .inl (order.trans (if_pos known))
  · exact .inr ⟨c.id, known, order.trans (if_neg known)⟩

theorem order_prefix_performEach (m : Model) (byId : ∀ w ∈ writes, w.2.IsById) :
    m.collection.order <+: (m.performEach writes).1.collection.order := by
  refine performEach_induction (P := fun m' => m.collection.order <+: m'.collection.order) _
    (fun w mem m' _ sofar => ?_) (List.prefix_refl _)
  rcases m'.perform_order w.1 (byId w mem) with kept | ⟨id, -, grown⟩
  · exact kept ▸ sofar
  · exact grown ▸ sofar.trans (List.prefix_append _ _)

/-- The order of the ids, the slots and the size tell the same. -/
structure Consistent (m : Model) : Prop where
  nodup : m.collection.order.Nodup
  keys : ∀ id, id ∈ m.collection.order ↔ (m.collection.slot? id).isSome = true
  size : m.collection.size = m.collection.live.length
  /-- So the size can be made one less for every document that is there. -/
  positive : ∀ id, m.collection.contains id = true → 0 < m.collection.size
  count : ∀ source, m.count = (m.query source).items.length
  named : ∀ id doc, m.collection.find? id = some doc → idOf doc = some id
  grows : ∀ source request, request.IsById →
    let after := (m.perform source request).model.collection
    after.order = m.collection.order ∨
      ∃ id, id ∉ m.collection.order ∧ after.order = m.collection.order ++ [id]
  /-- An id keeps its position, also while its slot is empty. -/
  stays : ∀ writes : List (Source × Request), (∀ w ∈ writes, w.2.IsById) →
    ∀ (i : Nat) id, m.collection.order[i]? = some id →
      (m.performEach writes).1.collection.order[i]? = some id

theorem consistent_of_keyed (keyed : m.collection.Keyed) : m.Consistent where
  nodup := keyed.nodup
  keys id := by
    rw [Collection.slot?, ← Option.ne_none_iff_isSome, ne_eq, List.lookup_eq_none_iff]
    simp [Collection.order]
  size := keyed.size
  positive id used := by
    obtain ⟨doc, mem⟩ := Collection.mem_slots_of_contains used
    rw [keyed.size]
    exact List.length_pos_of_mem (Collection.mem_live.mpr ⟨id, mem⟩)
  count source := by simp [count, query, documentsOf, keyed.size]
  named id doc found := keyed.named id doc (Collection.mem_slots_of_find? found)
  grows source request byId := m.perform_order source byId
  stays writes byId i id held := by
    obtain ⟨more, grown⟩ := m.order_prefix_performEach byId
    rw [← grown, List.getElem?_append_left (List.getElem?_eq_some_iff.mp held).1, held]

end Model

end DocStore
