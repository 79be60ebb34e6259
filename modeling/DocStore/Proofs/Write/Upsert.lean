import DocStore.Proofs.FieldType.Canonical
import DocStore.Proofs.FieldType.Normal
import DocStore.Proofs.Write.Selected
import DocStore.Proofs.Write.Setters

/-!
# Saving

A document that is saved is put under its id, whether a document is there or not. Which of the two
it is gets decided by the id as it is given, but an insertion goes by the id as it is read after
coercion; where the two differ, a document that should have been replaced refuses its successor.
-/

namespace DocStore

-- ---------------------------------------------------------------------------
-- How an id is read
-- ---------------------------------------------------------------------------

/-- Coercion makes no other id of a value than the one that it stood for. -/
def FieldType.ReadsIdsAsGiven (type : FieldType) : Prop :=
  ∀ v id, v ≠ .null → (type.coerce v).name? = some id → v.name? = some id

/-- The kinds that coerce ids. -/
def Kind.RereadsIds : Kind → Prop
  | .string | .number | .integer => True
  | _ => False

namespace Kind

variable {kind : Kind} {v : Value} {id : String}

theorem name?_of_coerce (asGiven : ¬ kind.RereadsIds) (named : (kind.coerce v).name? = some id) :
    v.name? = some id := by
  cases kind with
  | string | number | integer => exact absurd trivial asGiven
  | mixed | object | enumeration elements => exact named
  | boolean | virtual field => cases named
  | date =>
    rcases v.asDate_eq_self_or with same | ⟨t, date⟩
    · rwa [coerce, same] at named
    · rw [coerce, date] at named
      cases named
  | buffer =>
    rcases v.asBuffer_eq_self_or with same | ⟨bytes, buffer⟩
    · rwa [coerce, same] at named
    · rw [coerce, buffer] at named
      cases named
  | id strategy =>
    cases v with
    | number x => simpa [coerce, Value.name?, Number.text_ne_empty] using named
    | _ => exact named

/-- A truth value is no id before, but one after it was coerced. -/
theorem name?_coerce_true (rereads : kind.RereadsIds) :
    ∃ id, (kind.coerce (.bool true)).name? = some id ∧
      kind.fault? (kind.coerce (.bool true)) = none := by
  cases kind with
  | string => exact ⟨_, rfl, rfl⟩
  | number | integer => exact ⟨_, rfl, by decide +kernel⟩
  | _ => exact rereads.elim

end Kind

namespace FieldType

theorem readsIdsAsGiven_array : (array child opts).ReadsIdsAsGiven := by
  intro v id present named
  cases v with
  | null => exact absurd rfl present
  | _ => cases named

theorem readsIdsAsGiven_leaf : (leaf kind opts).ReadsIdsAsGiven ↔ ¬ kind.RereadsIds := by
  constructor
  · intro asGiven rereads
    obtain ⟨id, named, -⟩ := Kind.name?_coerce_true rereads
    cases asGiven (.bool true) id (by simp) named
  · intro asGiven v id present named
    rw [coerce_leaf present] at named
    exact Kind.name?_of_coerce asGiven named

end FieldType

namespace Schema

open FieldType

variable {schema : Schema} {entries : List (Path × FieldType)} {source : Source} {doc : Fields}
  {id : String}

/-- Where its type reads an id as given, a document that has one after it was filled was given that
one, if it was given anything. -/
theorem idOf_of_fillFrom (distinct : (entries.map Prod.fst).Nodup)
    (asGiven : ∀ entry ∈ entries, entry.1 = idPath → entry.2.ReadsIdsAsGiven)
    (present : doc.atD idPath ≠ .null) (named : idOf (fillFrom source n entries doc) = some id) :
    idOf doc = some id := by
  induction entries generalizing doc n with
  | nil => exact named
  | cons first rest ih =>
    obtain ⟨apart, distinctRest⟩ := List.nodup_cons.mp distinct
    obtain ⟨asGivenFirst, asGivenRest⟩ := List.forall_mem_cons.mp asGiven
    by_cases here : first.1 = idPath
    · rw [here] at apart
      rcases at?_id_fillFrom_or apart (n + 1) with same | ⟨c, object⟩
      · rw [fillFrom, idOf_eq, same, ← idOf_eq] at named
        cases stored : first.2.isVirtual with
        | true => rwa [fillEntry_of_isVirtual stored] at named
        | false =>
          rcases fillEntry_eq stored (source.branch n) doc with ⟨-, untouched⟩ | ⟨-, set⟩
          · rwa [untouched] at named
          · rw [set, here, idOf_of_at? Fields.at?_set_self, cast_of_ne_null present] at named
            rw [idOf_of_at? (Fields.at?_eq_some_atD present)]
            exact asGivenFirst here _ id present named
      · rw [fillFrom, idOf_of_at? object] at named
        cases named
    · rcases at?_id_fillEntry here with same | ⟨-, -, -, c, object⟩
      · have given := ih distinctRest asGivenRest (by rwa [Fields.atD, same]) named
        rwa [idOf_eq, same, ← idOf_eq] at given
      · obtain ⟨v, held, nameless⟩ := object_fillFrom distinctRest object (n + 1)
        rw [fillFrom, idOf_of_at? held, nameless.name?] at named
        cases named

/-- What conforms to the schema keeps its id when it is filled again. -/
theorem Conforms.idOf_fill (conforms : schema.Conforms id doc)
    (distinct : (schema.entries.map Prod.fst).Nodup) (bare : IsBare schema.entries)
    (source : Source) : idOf (schema.fill source doc) = some id := by
  obtain ⟨v, held, name⟩ := idOf_eq_some.mp conforms.named
  refine idOf_fillFrom bare distinct (fun entry mem here stored => ?_) held name 0
  have taken := conforms.sound entry mem
  rw [Sound, stored, if_neg (by simp), here, Fields.atD_of_at? held] at taken
  cases type : entry.2 with
  | array child opts =>
    rw [type] at taken
    cases v <;> simp [Accepts, validate, Value.name?] at taken name
  | leaf kind opts =>
    rw [type] at taken stored
    have concrete : virtuals (.leaf kind opts) = [] := by
      cases kind <;> first | rfl | cases stored
    rwa [coerce_of_accepts concrete taken]

end Schema

namespace Model

variable {m : Model} {source : Source} {doc : Value} {fields out : Fields} {id : String}
  {d : Option Document}

-- ---------------------------------------------------------------------------
-- Collisions
-- ---------------------------------------------------------------------------

/-- What is saved is not under the id that it was given, but a document is stored under the id that
it gets. -/
structure Collides (m : Model) (source : Source) (fields : Fields) (id : String) : Prop where
  named : idOf (m.schema.fill (source.branch 0) fields) = some id
  used : m.collection.contains id = true
  unused : ∀ given, idOf fields = some given → m.collection.contains given = false

theorem planReplace_ne_idExists (m : Model) (source : Source) (given : String) (fields : Fields) :
    m.planReplace source given fields ≠ .error (.idExists id) := by
  intro failed
  simp only [planReplace, bind_eq_error, reduceCtorEq, and_false, exists_false, or_false] at failed
  obtain ⟨path, fault, invalid⟩ := checked_error failed
  cases invalid

theorem planInsert_eq_idExists : m.planInsert source fields = .error (.idExists id) ↔
    idOf (m.schema.fill (source.branch 0) fields) = some id ∧ m.collection.contains id = true := by
  cases named : idOf (m.schema.fill (source.branch 0) fields) with
  | none => simp [planInsert, named]
  | some other =>
    cases used : m.collection.contains other with
    | true =>
      simp only [planInsert, named, used, if_true, Except.error.injEq, Error.idExists.injEq,
        Option.some.injEq]
      exact ⟨fun same => ⟨same, same ▸ used⟩, And.left⟩
    | false =>
      simp only [planInsert, named, used, Bool.false_eq_true, if_false, bind_eq_error, reduceCtorEq,
        and_false, exists_false, or_false, Option.some.injEq]
      constructor
      · intro failed
        obtain ⟨path, fault, invalid⟩ := checked_error failed
        cases invalid
      · rintro ⟨rfl, contained⟩
        rw [used] at contained
        cases contained

theorem plan_save_eq_idExists :
    m.plan source (.save fields) = .error (.idExists id) ↔ m.Collides source fields id := by
  cases known : (idOf fields).filter m.collection.contains with
  | some given =>
    obtain ⟨named, used⟩ := Option.filter_eq_some_iff.mp known
    simp only [plan, known, planReplace_ne_idExists, false_iff]
    intro collides
    rw [collides.unused given named] at used
    cases used
  | none =>
    simp only [plan, known, planInsert_eq_idExists]
    have unused : ∀ given, idOf fields = some given → m.collection.contains given = false :=
      fun given named => Bool.eq_false_iff.mpr (Option.filter_eq_none_iff.mp known given named)
    constructor
    · rintro ⟨named, used⟩
      exact ⟨named, used, unused⟩
    · intro collides
      exact ⟨collides.named, collides.used⟩

theorem perform_save_eq_idExists (passes : m.NeverRefuses) :
    (m.perform source (.save doc)).result = .error (.idExists id) ↔
      ∃ fields, doc = .object fields ∧ m.Collides source fields id := by
  cases doc with
  | object fields =>
    have prepared : m.prepare (.save (.object fields)) >>= m.plan source =
        m.plan source (.save fields) := rfl
    simp only [Value.object.injEq, exists_eq_left', ← plan_save_eq_idExists, perform, prepared]
    have comes : m.Plans source (.save (.object fields)) (m.plan source (.save fields)) :=
      plans_save fields
    rcases comes with ⟨e, planned, -⟩ | ⟨c, planned, -⟩
    · rw [planned]
      exact Iff.of_eq (by rw [Except.error.injEq, Except.error.injEq])
    · have ran : (m.execute (.commit c)).result = .ok (some c.document) :=
        execute_ok_iff.mpr ⟨passes _ _, rfl⟩
      simp only [planned, ran, reduceCtorEq]
  | _ => simp [perform, prepare, membersOf, Except.map, bind, Except.bind]

/-- Where ids are read as they are given, no document that is given one collides. -/
theorem not_collides (distinct : (m.schema.entries.map Prod.fst).Nodup)
    (asGiven : ∀ entry ∈ m.schema.entries, entry.1 = idPath → entry.2.ReadsIdsAsGiven)
    (present : fields.atD idPath ≠ .null) : ¬ m.Collides source fields id := by
  intro collides
  have given := Schema.idOf_of_fillFrom distinct asGiven present collides.named
  have used := collides.used
  rw [collides.unused id given] at used
  cases used

/-- Any other kind lets a truth value be saved once, and refuses it the second time. -/
theorem exists_collides (rereads : kind.RereadsIds) (opts : Options) :
    ∃ m : Model, m.Reachable ∧ m.schema = Schema.initial.declare idPath (.leaf kind opts) ∧
      ∃ id, ∀ source, m.Collides source [("_id", .bool true)] id := by
  obtain ⟨id, named, taken⟩ := Kind.name?_coerce_true rereads
  let schema := Schema.initial.declare idPath (.leaf kind opts)
  let given : Fields := [("_id", .bool true)]
  let out : Fields := [("_id", kind.coerce (.bool true))]
  have concrete : FieldType.virtuals (.leaf kind opts) = [] := by
    cases kind <;> first | rfl | exact rereads.elim
  have filled (source : Source) : schema.fill source given = out := by
    cases kind <;> first | rfl | exact rereads.elim
  have ofGiven (source : Source) : idOf (schema.fill source given) = some id := by
    rw [filled, idOf_of_at? (v := kind.coerce (.bool true)) rfl, named]
  have passes (source : Source) : schema.check (schema.fill source given) = (.ok (), out) := by
    have present : kind.coerce (.bool true) ≠ .null :=
      Kind.coerce_ne_null (FieldType.virtuals_leaf_eq_nil.mp concrete) (by simp)
    have checked : Schema.Checked (idPath, .leaf kind opts) out :=
      ⟨fun null => present (Option.some.inj null),
        FieldType.accepts_of_fault? concrete present taken⟩
    have step := Schema.checkEntry_eq_self concrete checked
    have entries : schema.entries = [(idPath, .leaf kind opts)] := rfl
    simp only [filled, Schema.check, entries, Schema.checkEntries, step]
  let source : Source := ⟨fun _ => 0, ⟨0, 0⟩, []⟩
  obtain ⟨m, reached, same, mem⟩ := exists_reachable schema (ofGiven (source.branch 0)) (passes _)
  refine ⟨m, reached, same, id, fun source => ⟨same ▸ ofGiven _, ?_, by rintro _ ⟨⟩⟩⟩
  exact contains_of_find? (reached.tidy.find?_of_mem (Collection.mem_entries.mpr mem))

/-- The types that read ids as they are given are those for which no document that is given one ever
collides. -/
theorem readsIdsAsGiven_iff (type : FieldType) :
    type.ReadsIdsAsGiven ↔
      ∀ m : Model, m.Reachable → m.schema = Schema.initial.declare idPath type →
        ∀ source fields id, fields.atD idPath ≠ .null → ¬ m.Collides source fields id := by
  constructor
  · intro asGiven m reached same source fields id present
    have entries : m.schema.entries = [(idPath, type)] := congrArg Schema.entries same
    refine not_collides ?_ ?_ present <;> rw [entries]
    · simp
    · exact List.forall_mem_singleton.mpr fun _ => asGiven
  · intro apart
    cases type with
    | array child opts => exact FieldType.readsIdsAsGiven_array
    | leaf kind opts =>
      refine FieldType.readsIdsAsGiven_leaf.mpr fun rereads => ?_
      obtain ⟨m, reached, same, id, collides⟩ := exists_collides rereads opts
      have present : Fields.atD [("_id", .bool true)] idPath ≠ .null := by rintro ⟨⟩
      exact apart m reached same ⟨fun _ => 0, ⟨0, 0⟩, []⟩ _ id present (collides _)

-- ---------------------------------------------------------------------------
-- Upserts
-- ---------------------------------------------------------------------------

/-- The document is put under the id, and counted unless another one was there. -/
structure Upserts (m : Model) (id : String) (out : Fields) (outcome : Outcome (Option Document)) :
    Prop where
  model : outcome.model = { m with collection := m.collection.put id out }
  stored : outcome.model.collection.find? id = some out
  count : outcome.model.count = if m.collection.contains id then m.count else m.count + 1

theorem perform_save_ok (ok : (m.perform source (.save doc)).result = .ok d) :
    ∃ id out, m.Upserts id out (m.perform source (.save doc)) ∧
      d = some (m.documentOf (source.branch 1) out) := by
  have byId : (Request.save doc).IsById := trivial
  rcases m.plans source byId with ⟨e, planned, -⟩ | ⟨c, planned, fits, -⟩
  · simp only [perform, planned, reduceCtorEq] at ok
  · simp only [perform, planned] at ok ⊢
    obtain ⟨passes, answer⟩ := execute_ok_iff.mp ok
    have put : m.collection.apply (.commit c) = m.collection.put c.id c.fields := by
      obtain ⟨change, id, fields, document⟩ := c
      cases change with
      | remove =>
        have stores := fits.change
        simp [Request.changes] at stores
      | _ => rfl
    have model := execute_model passes
    rw [put] at model
    refine ⟨c.id, c.fields, ⟨model, ?_, ?_⟩, by rw [← answer, fits.document]⟩ <;> rw [model]
    · exact Collection.find?_put_self
    · rfl

/-- The document that is shown has the id under which it was put, if no setter undoes it. -/
theorem Upserts.idOf_fill {outcome : Outcome (Option Document)} (upserts : m.Upserts id out outcome)
    (reached : outcome.model.Reachable) (distinct : (m.schema.entries.map Prod.fst).Nodup)
    (shelters : m.schema.Shelters) (source : Source) :
    idOf (m.schema.fill source out) = some id := by
  have same : outcome.model.schema = m.schema := by rw [upserts.model]; rfl
  have mem := Collection.mem_slots_of_find? upserts.stored
  have conforms := reached.conforms (same ▸ distinct) (same ▸ shelters) mem
  obtain ⟨first, admits⟩ := reached.stocked.issued id (List.mem_map_of_mem mem)
  rw [same] at conforms admits
  cases admits with
  | named _ _ named checked =>
    exact conforms.idOf_fill distinct (Schema.isBare_of_idOf distinct named) source

/-- Without a hook that refuses, a save fails over a taken id exactly when it collides, which it
does not if the document is given an id and ids are read as they are given. Every save that is
answered is an upsert under the id that the document has in the end. -/
theorem Reachable.save_upserts_iff (reached : m.Reachable) (passes : m.NeverRefuses) :
    (∀ source doc id, (m.perform source (.save doc)).result = .error (.idExists id) ↔
      ∃ fields, doc = .object fields ∧ m.Collides source fields id) ∧
    ((m.schema.entries.map Prod.fst).Nodup →
      (∀ entry ∈ m.schema.entries, entry.1 = idPath → entry.2.ReadsIdsAsGiven) →
      ∀ source fields id, fields.atD idPath ≠ .null → ¬ m.Collides source fields id) ∧
    ∀ source doc d, (m.perform source (.save doc)).result = .ok d →
      ∃ id out, m.Upserts id out (m.perform source (.save doc)) ∧
        d = some (m.documentOf (source.branch 1) out) ∧
        ((m.schema.entries.map Prod.fst).Nodup → m.schema.Shelters →
          ∀ source, idOf (m.documentOf source out).fields = some id) := by
  refine ⟨fun source doc id => perform_save_eq_idExists passes,
    fun distinct asGiven source fields id => not_collides distinct asGiven, ?_⟩
  intro source doc d ok
  obtain ⟨id, out, upserts, answer⟩ := perform_save_ok ok
  have byId : (Request.save doc).IsById := trivial
  exact ⟨id, out, upserts, answer, upserts.idOf_fill (reached.write source byId)⟩

/-- The same document is saved twice, and is there once. -/
theorem Reachable.save_upserts_iff_twice :
    let empty : Model := { handle := ⟨0, "pets", Schema.initial⟩ }
    let source : Source := ⟨fun _ => 0, ⟨0, 0⟩, []⟩
    let pet : Fields := [("_id", .string "a")]
    let m := (empty.perform source (.save (.object pet))).model
    let again := m.perform source (.save (.object pet))
    m.Reachable ∧ m.NeverRefuses ∧ (m.schema.entries.map Prod.fst).Nodup ∧ m.schema.Shelters ∧
      (∀ entry ∈ m.schema.entries, entry.1 = idPath → entry.2.ReadsIdsAsGiven) ∧
      (∀ id, ¬ m.Collides source pet id) ∧ m.collection.contains "a" = true ∧
      ∃ id out, m.Upserts id out again ∧
        again.result = .ok (some (m.documentOf (source.branch 1) out)) ∧
        ∀ source, idOf (m.documentOf source out).fields = some id := by
  intro empty source pet m again
  have same : m.schema = Schema.initial := congrArg ModelHandle.schema (perform_handle ..)
  have entries : m.schema.entries = [(idPath, .leaf (.id .nanoid) { required := true })] :=
    congrArg Schema.entries same
  have reached : m.Reachable := .write (.empty rfl) source trivial
  have passes : m.NeverRefuses := by
    rintro action d phase h ⟨⟩
  have distinct : (m.schema.entries.map Prod.fst).Nodup := by
    rw [entries]
    exact List.nodup_singleton _
  have shelters : m.schema.Shelters := by
    refine Schema.Steady.shelters ⟨?_, ?_⟩ <;> rw [entries]
    · exact List.pairwise_singleton ..
    · exact List.forall_mem_singleton.mpr fun set => absurd rfl set
  have asGiven : ∀ entry ∈ m.schema.entries, entry.1 = idPath → entry.2.ReadsIdsAsGiven := by
    rw [entries]
    exact List.forall_mem_singleton.mpr fun _ => FieldType.readsIdsAsGiven_leaf.mpr not_false
  obtain ⟨-, apart, upserts⟩ := reached.save_upserts_iff passes
  obtain ⟨id, out, put, answer, shown⟩ := upserts source (.object pet) _ rfl
  exact ⟨reached, passes, distinct, shelters, asGiven,
    fun id => apart distinct asGiven source pet id (by rintro ⟨⟩), rfl, id, out, put,
    congrArg Except.ok answer, shown distinct shelters⟩

/-- The ids are numbers, and a text that is read as the id of a stored document is refused. -/
theorem not_upserts_number :
    let empty : Model := { handle := ⟨0, "pets", Schema.initial.declare idPath (.ofKind .number)⟩ }
    let source : Source := ⟨fun _ => 0, ⟨0, 0⟩, []⟩
    let pet : Fields := [("_id", .number 5)]
    let m := (empty.perform source (.insert (.object pet))).model
    m.Reachable ∧ m.NeverRefuses ∧ m.collection.live = [pet] ∧
      (m.perform source (.save (.object [("_id", .string "5.0")]))).result =
        .error (.idExists "5") := by
  intro empty source pet m
  have inserted : m = { empty with collection := { slots := [("5", some pet)], size := 1 } } :=
    perform_insert_number source
  have passes : m.NeverRefuses := by
    intro action d phase h mem
    simp [hooks, inserted, empty] at mem
  refine ⟨.write (.empty rfl) source trivial, passes, by rw [inserted]; rfl, ?_⟩
  refine (perform_save_eq_idExists passes).mpr ⟨_, rfl, ?_, ?_, ?_⟩
  · have read : Number.ofNumeral? (Text.trim "5.0".toList) = some 5 := by decide +kernel
    have coerced : (FieldType.ofKind .number).coerce (.string "5.0") = .number 5 := by
      simp only [FieldType.ofKind, FieldType.coerce, Kind.coerce, Value.asNumber?, read]
    have entries : m.schema.entries = [(idPath, .ofKind .number)] := by
      rw [inserted]
      rfl
    have given : Fields.atD [("_id", .string "5.0")] idPath = .string "5.0" := rfl
    have stored : (FieldType.ofKind .number).isVirtual = false := rfl
    have filled : m.schema.fill (source.branch 0) [("_id", .string "5.0")] = pet := by
      simp only [Schema.fill, entries, Schema.fillFrom, Schema.fillEntry, stored, given,
        FieldType.cast, Value.isNull, coerced]
      rfl
    rw [filled]
    exact congrArg some (by decide +kernel)
  · rw [inserted]
    rfl
  · intro given shown
    obtain rfl : "5.0" = given := Option.some.inj shown
    rw [inserted]
    rfl

end Model

end DocStore
