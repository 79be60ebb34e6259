import DocStore.Proofs.Realm.Load
import DocStore.Proofs.Value.Text
import DocStore.Proofs.Write.Update

/-!
# Edits of one document

A write of one document to a model without a declaration appends a document, changes the one it
names or removes it. All the other documents stay as they are, in their order.
-/

namespace DocStore

variable {id name : String} {doc fields : Fields}

-- ---------------------------------------------------------------------------
-- Edits
-- ---------------------------------------------------------------------------

/-- What a write of one document does to the list of documents. -/
inductive Edit where
  | append
  | change (id : String)
  | remove (id : String)

/-- The id of a document, if it is a text. -/
def Value.textId? : Value → Option String
  | .object fields => textId fields
  | _ => none

namespace Edit

/-- The documents after an edit that leaves a document at the addressed place. -/
def apply (edit : Edit) (doc : Value) (docs : List Value) : List Value :=
  match edit with
  | .append => docs ++ [doc]
  | .change id => docs.map fun v => if v.textId? = some id then doc else v
  | .remove id => docs.filter fun v => v.textId? ≠ some id

/-- The edit leaves a document behind. -/
def stores : Edit → Bool
  | .remove _ => false
  | _ => true

theorem mem_apply {edit : Edit} {doc v : Value} {docs : List Value}
    (mem : v ∈ edit.apply doc docs) : v ∈ docs ∨ edit.stores = true ∧ v = doc := by
  cases edit with
  | append =>
    rcases List.mem_append.mp mem with old | new
    · exact .inl old
    · exact .inr ⟨rfl, List.mem_singleton.mp new⟩
  | change id =>
    obtain ⟨w, old, rfl⟩ := List.mem_map.mp mem
    split
    · exact .inr ⟨rfl, rfl⟩
    · exact .inl old
  | remove id => exact .inl (List.mem_filter.mp mem).1

/-- The edit does not address the document. -/
def Spares : Edit → Value → Prop
  | .append, _ => True
  | .change id, v | .remove id, v => v.textId? ≠ some id

/-- The document that the edit addresses is there. -/
def Finds : Edit → List Value → Prop
  | .append, _ => True
  | .change id, docs | .remove id, docs => ∃ v ∈ docs, v.textId? = some id

/-- The edit may leave a document under that id: one of its own if it is appended. -/
def Gives (edit : Edit) (id : String) (docs : List Value) : Prop :=
  match edit with
  | .append => ∀ v ∈ docs, v.textId? ≠ some id
  | .change other => id = other
  | .remove _ => False

end Edit

def Request.edit? : Request → Option Edit
  | .insert _ => some .append
  | .update id _ => some (.change id)
  | .remove id => some (.remove id)
  | _ => none

theorem Value.textId?_eq_some {v : Value} : v.textId? = some id ↔
    ∃ doc : Fields, v = .object doc ∧ doc.at? idPath = some (.string id) := by
  cases v with
  | object doc =>
    have single : (Value.object doc).textId? = (Fields.at? doc idPath).bind string? := rfl
    rw [single, Option.bind_eq_some_iff]
    constructor
    · rintro ⟨w, held, text⟩
      cases w <;> simp only [Value.string?, Option.some.injEq, reduceCtorEq] at text
      exact ⟨doc, rfl, text ▸ held⟩
    · rintro ⟨doc, same, held⟩
      cases same
      exact ⟨_, held, rfl⟩
  | _ => simp [Value.textId?]

theorem Fields.IsNamed.textId (named : doc.IsNamed id) : (Value.object doc).textId? = some id :=
  Value.textId?_eq_some.mpr ⟨doc, rfl, named.held⟩

-- ---------------------------------------------------------------------------
-- Keys
-- ---------------------------------------------------------------------------

namespace Fields

theorem HasKeysOnce.ofMembers {j : Json} (members : membersOf (Value.ofJson j) = .ok fields) :
    fields.HasKeysOnce := by
  cases j with
  | object entries =>
    obtain rfl := Except.ok.inj members
    exact Value.once_ofJsonMembers List.nodup_nil
  | _ => simp [Value.ofJson, membersOf] at members

theorem HasKeysOnce.applyAll {mutations : List Mutation} {out : Fields} (once : doc.HasKeysOnce)
    (applied : Mutation.applyAll mutations doc = (.ok (), out)) : out.HasKeysOnce :=
  Mutation.applyAll_preserves (fun t _ v _ once => once.set t v) (fun t _ _ once => once.remove t)
    applied once

theorem HasKeysOnce.fillFrom (once : doc.HasKeysOnce) (source : Source) (n : Nat)
    (entries : List (Path × FieldType)) : (Schema.fillFrom source n entries doc).HasKeysOnce := by
  induction entries generalizing doc n with
  | nil => exact once
  | cons entry rest ih =>
    refine ih ?_ (n + 1)
    simp only [Schema.fillEntry]
    repeat' split
    · exact once
    · exact once
    · exact once.set _ _

theorem HasKeysOnce.check {entries : List (Path × FieldType)} {out : Fields}
    (once : doc.HasKeysOnce) (stored : ∀ entry ∈ entries, entry.2.virtuals = [])
    (ok : Schema.checkEntries entries doc = (.ok (), out)) : out.HasKeysOnce :=
  Schema.checkEntries_induction (P := HasKeysOnce)
    (fun entry mem _ _ once step => by
      obtain ⟨-, ⟨rfl, -⟩ | ⟨rfl, -⟩⟩ := Schema.checkEntry_ok (stored entry mem) step
      · exact once
      · exact once.remove _)
    ok once

end Fields

-- ---------------------------------------------------------------------------
-- Collections
-- ---------------------------------------------------------------------------

namespace Collection

variable {entries : List (String × Fields)}

/-- The documents of a collection. -/
def documents (c : Collection) : List Value := c.live.map Value.object

/-- Documents under ids of their own, each id and each key once. -/
structure AreProper (entries : List (String × Fields)) : Prop where
  named : ∀ e ∈ entries, e.2.IsNamed e.1
  nodup : (entries.map Prod.fst).Nodup
  once : ∀ e ∈ entries, e.2.HasKeysOnce

@[simp] theorem documents_ofEntries :
    (ofEntries entries).documents = entries.map fun e => .object e.2 := by
  simp [documents]

theorem AreProper.finds (proper : AreProper entries) (used : id ∈ entries.map Prod.fst) :
    ∃ v ∈ (ofEntries entries).documents, v.textId? = some id := by
  obtain ⟨e, held, rfl⟩ := List.mem_map.mp used
  rw [documents_ofEntries]
  exact ⟨_, List.mem_map_of_mem held, (proper.named e held).textId⟩

theorem contains_ofEntries :
    (ofEntries entries).contains id = true ↔ id ∈ entries.map Prod.fst := by
  constructor
  · exact fun used => order_ofEntries ▸ mem_order used
  · intro mem
    obtain ⟨e, held, rfl⟩ := List.mem_map.mp mem
    have slot : (e.1, some e.2) ∈ (ofEntries entries).slots := List.mem_map_of_mem held
    cases found : (ofEntries entries).slot? e.1 with
    | none => simpa using List.lookup_eq_none_iff.mp found _ slot
    | some content =>
      obtain ⟨pre, post, slots, -⟩ := List.lookup_eq_some_iff.mp found
      have here : (e.1, content) ∈ (ofEntries entries).slots := by simp [slots]
      obtain ⟨f, -, same⟩ := List.mem_map.mp here
      obtain ⟨-, rfl⟩ := Prod.mk.inj same
      exact contains_iff.mpr ⟨f.2, found⟩

theorem writeSlot_eq_map (nodup : (entries.map Prod.fst).Nodup) (used : id ∈ entries.map Prod.fst)
    (content : Option Fields) :
    writeSlot id content (entries.map fun e => (e.1, some e.2)) =
      entries.map fun e => (e.1, if e.1 = id then content else some e.2) := by
  induction entries with
  | nil => simp at used
  | cons e rest ih =>
    obtain ⟨fresh, nodup⟩ := List.nodup_cons.mp nodup
    by_cases same : e.1 = id
    · subst same
      have others : ∀ f ∈ rest, f.1 ≠ e.1 :=
        fun f mem same => fresh (same ▸ List.mem_map_of_mem mem)
      simp [writeSlot]
      exact fun f g mem same => absurd same (others _ mem)
    · have used : id ∈ rest.map Prod.fst := (List.mem_cons.mp used).resolve_left (Ne.symm same)
      simp [writeSlot, same, ih nodup used]

theorem documents_put_of_fresh (fresh : id ∉ entries.map Prod.fst) (doc : Fields) :
    ((ofEntries entries).put id doc).documents =
      Edit.append.apply (.object doc) (ofEntries entries).documents := by
  rw [put_of_fresh (by simpa using fresh)]
  simp [documents, live, Edit.apply, ofEntries]

section

variable (proper : AreProper entries) (used : id ∈ entries.map Prod.fst)

include proper used

theorem documents_put_of_used (doc : Fields) :
    ((ofEntries entries).put id doc).documents =
      (Edit.change id).apply (.object doc) (ofEntries entries).documents := by
  have slots : ((ofEntries entries).put id doc).slots =
      entries.map fun e => (e.1, if e.1 = id then some doc else some e.2) :=
    writeSlot_eq_map proper.nodup used (some doc)
  rw [documents, live, slots, documents_ofEntries, Edit.apply, List.filterMap_map,
    List.map_filterMap, List.map_map, ← List.filterMap_eq_map]
  refine List.filterMap_congr fun e mem => ?_
  simp only [Function.comp_apply, (proper.named e mem).textId, Option.some.injEq]
  split <;> rfl

theorem documents_erase (doc : Fields) :
    ((ofEntries entries).erase id).documents =
      (Edit.remove id).apply (.object doc) (ofEntries entries).documents := by
  have slots : ((ofEntries entries).erase id).slots =
      entries.map fun e => (e.1, if e.1 = id then none else some e.2) := by
    rw [erase, if_pos (contains_ofEntries.mpr used)]
    exact writeSlot_eq_map proper.nodup used none
  rw [documents, live, slots, documents_ofEntries, Edit.apply, List.filterMap_map,
    List.map_filterMap, ← List.filterMap_eq_filter, ← List.filterMap_eq_map,
    List.filterMap_filterMap]
  refine List.filterMap_congr fun e mem => ?_
  have own := (proper.named e mem).textId
  by_cases same : e.1 = id <;> simp [Option.guard, own, same]

end

end Collection

-- ---------------------------------------------------------------------------
-- Writes
-- ---------------------------------------------------------------------------

/-- The value that an inserted document is given as came out of interchange text. -/
def Request.IsOfTree : Request → Prop
  | .insert v => ∃ j, v = Value.ofJson j
  | _ => True

/-- What an edit leaves behind is stored under an id that it may give, each key once. -/
structure Edit.Leaves (edit : Edit) (doc : Fields) (docs : List Value) : Prop where
  named : ∃ id, doc.IsNamed id ∧ edit.Gives id docs
  once : doc.HasKeysOnce

namespace Model

variable {m : Model} {source : Source} {request : Request} {c : Commit} {number : Nat}
  {entries : List (String × Fields)} {edit : Edit}

theorem once_of_check {doc : Fields} (schema : m.schema = Schema.initial) (once : doc.HasKeysOnce)
    (checked : m.checked (m.schema.fill source doc) = .ok out) : out.HasKeysOnce := by
  have ok := checked_eq_ok checked
  rw [schema] at ok
  exact (once.fillFrom source 0 _).check Schema.isNamed_initial.stored ok

/-- Each key comes up once in what is stored if it did in what was given. -/
theorem once_of_plan (schema : m.schema = Schema.initial) (ofTree : request.IsOfTree)
    (edits : request.edit? = some edit) (once : ∀ doc ∈ m.collection.live, doc.HasKeysOnce)
    (planned : m.prepare request >>= m.plan source = .ok (.commit c)) : c.fields.HasKeysOnce := by
  obtain ⟨job, prepared, planned⟩ := bind_eq_ok.mp planned
  cases request with
  | insert v =>
    obtain ⟨j, rfl⟩ := ofTree
    obtain ⟨fields, members, rfl⟩ := map_eq_ok.mp prepared
    simp only [plan, planInsert] at planned
    split at planned
    · simp at planned
    split at planned
    · simp at planned
    obtain ⟨out, checked, done⟩ := bind_eq_ok.mp planned
    cases done
    exact once_of_check schema (.ofMembers members) checked
  | update id update =>
    obtain ⟨mutations, compiled, rfl⟩ := map_eq_ok.mp prepared
    simp only [plan] at planned
    split at planned
    · simp at planned
    · rename_i stored found
      split at planned
      · rename_i changed applied
        obtain ⟨out, checked, done⟩ := bind_eq_ok.mp planned
        cases done
        have once := (once stored (Collection.mem_live_of_find? found)).applyAll applied
        exact once_of_check schema (once.set ⟨"_id", []⟩ _) checked
      · simp at planned
  | remove id =>
    cases prepared
    simp only [plan] at planned
    split at planned
    · simp at planned
    · rename_i stored found
      cases planned
      exact once stored (Collection.mem_live_of_find? found)
  | _ => cases edits

/-- A model without hooks and listeners carries out what it has planned. -/
theorem perform_plain {collection : Collection} (byId : request.IsById)
    (done : ((Model.plain number name collection).perform source request).result = .ok reply) :
    let m : Model := .plain number name collection
    ∃ c, m.prepare request >>= m.plan source = .ok (.commit c) ∧ c.Fits m source request ∧
      (c.change ≠ .remove → m.schema.Admits c.id c.fields c.change) ∧
      (m.perform source request).model = .plain number name (collection.apply (.commit c)) := by
  intro m
  rcases m.plans source byId with ⟨e, planned, -⟩ | ⟨c, planned, fits, admits⟩
  · have done : (m.perform source request).result = .ok reply := done
    simp [perform, planned] at done
  · refine ⟨c, planned, fits, admits, ?_⟩
    simp only [perform, planned]
    rfl

/-- Whatever an edit stores under a fresh id or under the one that it names holds it as a text. -/
theorem isNamed_of_admits {schema : Schema} {id : String} {doc : Fields} {change : Change}
    (initial : schema = Schema.initial) (nonempty : change ≠ .insert → id ≠ "")
    (admits : schema.Admits id doc change) : doc.IsNamed id := by
  subst initial
  cases admits with
  | named source fields own checked =>
    refine ⟨Schema.isNamed_initial.at?_of_idOf checked own, ?_⟩
    obtain ⟨v, -, name⟩ := idOf_eq_some.mp own
    rintro rfl
    simpa [Value.name?] using Value.name?_string name
  | given source fields checked =>
    exact ⟨Schema.isNamed_initial.at?_of_given checked, nonempty (by simp)⟩

/-- A write that succeeds does its edit, and no more. -/
theorem perform_edit (proper : Collection.AreProper entries) (ofTree : request.IsOfTree)
    (edits : request.edit? = some edit)
    (done : ((Model.plain number name (.ofEntries entries)).perform source request).result =
      .ok reply) :
    let docs := (Collection.ofEntries entries).documents
    ∃ after doc,
      ((Model.plain number name (.ofEntries entries)).perform source request).model =
        .plain number name after ∧
      after.documents = edit.apply (.object doc) docs ∧ edit.Finds docs ∧
      (edit.stores = true → edit.Leaves doc docs) := by
  intro docs
  have byId : request.IsById := by
    cases request <;> trivial
  obtain ⟨c, planned, fits, admits, model⟩ := perform_plain byId done
  have once : c.fields.HasKeysOnce := by
    refine once_of_plan rfl ofTree edits (fun doc mem => ?_) planned
    obtain ⟨e, held, rfl⟩ := List.mem_map.mp (Collection.live_ofEntries ▸ mem)
    exact proper.once e held
  have nonempty : c.change ≠ .insert → c.id ≠ "" := by
    intro used
    have used := Collection.contains_ofEntries.mp (fits.used.mpr used)
    obtain ⟨e, held, same⟩ := List.mem_map.mp used
    exact same ▸ (proper.named e held).nonempty
  have named : c.change ≠ .remove → c.fields.IsNamed c.id :=
    fun stores => isNamed_of_admits rfl nonempty (admits stores)
  obtain ⟨change, id, fields, document⟩ := c
  refine ⟨_, fields, model, ?_⟩
  cases request with
  | insert doc =>
    obtain rfl : change = .insert := by simpa [Request.changes] using fits.change
    cases edits
    have fresh : id ∉ entries.map Prod.fst := fun mem =>
      absurd rfl (fits.used.mp (Collection.contains_ofEntries.mpr mem))
    refine ⟨Collection.documents_put_of_fresh fresh fields, trivial,
      fun _ => ⟨⟨id, named (by simp), fun v mem same => fresh ?_⟩, once⟩⟩
    have mem : v ∈ (Collection.ofEntries entries).documents := mem
    rw [Collection.documents_ofEntries] at mem
    obtain ⟨e, held, rfl⟩ := List.mem_map.mp mem
    rw [(proper.named e held).textId, Option.some.injEq] at same
    exact same ▸ List.mem_map_of_mem held
  | update other update =>
    obtain rfl : change = .update := by simpa [Request.changes] using fits.change
    obtain rfl : id = other := fits.named other rfl
    cases edits
    have used := Collection.contains_ofEntries.mp (fits.used.mpr (by simp))
    exact ⟨Collection.documents_put_of_used proper used fields, proper.finds used,
      fun _ => ⟨⟨id, named (by simp), rfl⟩, once⟩⟩
  | remove other =>
    obtain rfl : change = .remove := by simpa [Request.changes] using fits.change
    obtain rfl : id = other := fits.named other rfl
    cases edits
    have used := Collection.contains_ofEntries.mp (fits.used.mpr (by simp))
    exact ⟨Collection.documents_erase proper used fields, proper.finds used, by simp [Edit.stores]⟩
  | _ => cases edits

end Model

/-- Documents that hold their ids are kept as they are. -/
theorem Realm.exported_eq {c : Collection} (named : ∀ doc ∈ c.live, ∃ id, doc.IsNamed id) :
    exported c = c.documents.map Value.toJson := by
  rw [exported, Collection.documents, List.map_map]
  refine List.map_congr_left fun doc mem => ?_
  obtain ⟨id, held⟩ := named doc mem
  rw [Function.comp_apply, held.persist]

theorem Collection.AreProper.exported {entries : List (String × Fields)}
    (proper : AreProper entries) :
    Realm.exported (ofEntries entries) = (ofEntries entries).documents.map Value.toJson := by
  refine Realm.exported_eq fun doc mem => ?_
  obtain ⟨e, held, rfl⟩ := List.mem_map.mp (live_ofEntries ▸ mem)
  exact ⟨e.1, proper.named e held⟩

theorem Edit.exported_apply {edit : Edit} {entries : List (String × Fields)} {after : Collection}
    (proper : Collection.AreProper entries)
    (documents : after.documents =
      edit.apply (.object doc) (Collection.ofEntries entries).documents)
    (leaves : edit.stores = true → edit.Leaves doc (Collection.ofEntries entries).documents) :
    Realm.exported after = after.documents.map Value.toJson := by
  refine Realm.exported_eq fun d mem => ?_
  have mem : Value.object d ∈ after.documents := List.mem_map_of_mem mem
  rw [documents] at mem
  rcases mem_apply mem with old | ⟨stores, same⟩
  · rw [Collection.documents_ofEntries] at old
    obtain ⟨e, held, same⟩ := List.mem_map.mp old
    cases same
    exact ⟨e.1, proper.named e held⟩
  · cases same
    obtain ⟨id, named, -⟩ := (leaves stores).named
    exact ⟨id, named⟩

end DocStore
