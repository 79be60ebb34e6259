import DocStore.Proofs.Database.File
import DocStore.Proofs.Schema.Text
import DocStore.Proofs.Write.Stored

/-!
# Databases without declarations

A database that was opened without a schema holds a model for each name in its file, all of the
schema that declares nothing but the id. Loading and saving carry every document over as it is.
-/

namespace DocStore

variable {id name : String} {doc fields : Fields}

-- ---------------------------------------------------------------------------
-- Documents
-- ---------------------------------------------------------------------------

/-- A document that holds its id as a text, the empty one excepted. -/
structure Fields.IsNamed (doc : Fields) (id : String) : Prop where
  held : doc.at? idPath = some (.string id)
  nonempty : id ≠ ""

theorem Fields.IsNamed.idOf (named : doc.IsNamed id) : idOf doc = some id := by
  rw [idOf_of_at? named.held]
  simp [Value.name?, named.nonempty]

theorem Fields.IsNamed.restore (named : doc.IsNamed id) : Schema.initial.restore doc = doc := by
  have entries : Schema.initial.entries = [(idPath, .leaf (.id .nanoid) { required := true })] := rfl
  simp only [Schema.restore, entries, List.foldl_cons, List.foldl_nil, named.held]
  exact Fields.set_eq_self named.held

theorem Fields.IsNamed.persist (named : doc.IsNamed id) : Schema.initial.persist doc = doc := by
  have single : Schema.initial.persist doc =
      Schema.store idPath ((FieldType.leaf (.id .nanoid) { required := true }).persist
        (doc.atD idPath)) doc := rfl
  rw [single, Fields.atD_of_at? named.held]
  exact Fields.set_eq_self named.held

-- ---------------------------------------------------------------------------
-- Collections
-- ---------------------------------------------------------------------------

namespace Collection

variable {entries : List (String × Fields)} {done : Collection}

/-- The collection of documents under ids of their own. -/
def ofEntries (entries : List (String × Fields)) : Collection :=
  { slots := entries.map fun e => (e.1, some e.2), size := entries.length }

@[simp] theorem order_ofEntries : (ofEntries entries).order = entries.map Prod.fst := by
  simp [ofEntries, order]

@[simp] theorem live_ofEntries : (ofEntries entries).live = entries.map Prod.snd := by
  simp [ofEntries, live, List.filterMap_map]

theorem ofPersisted_named {docs : List Json}
    (each : List.Forall₂ (fun j e => Value.ofJson j = .object e.2 ∧ e.2.IsNamed e.1) docs entries)
    (nodup : (done.order ++ entries.map Prod.fst).Nodup) :
    ofPersisted Schema.initial docs done =
      .ok { slots := done.slots ++ entries.map fun e => (e.1, some e.2),
            size := done.size + entries.length } := by
  induction each generalizing done with
  | nil => simp [ofPersisted]
  | @cons j e docs rest first _ ih =>
    obtain ⟨value, named⟩ := first
    have fresh : e.1 ∉ done.order := by
      intro mem
      exact (List.nodup_append.mp nodup).2.2 e.1 mem e.1 (by simp) rfl
    have nodup : ((done.put e.1 e.2).order ++ rest.map Prod.fst).Nodup := by
      rw [order_put, if_neg fresh]
      simpa using nodup
    have later := ih nodup
    rw [put_of_fresh fresh] at later
    simp only [ofPersisted, value, membersOf, bind, Except.bind, named.restore, named.idOf,
      put_of_fresh fresh, later]
    simp [Nat.add_assoc, Nat.add_comm 1]

theorem ofPersisted_eq_ofEntries {docs : List Json}
    (each : List.Forall₂ (fun j e => Value.ofJson j = .object e.2 ∧ e.2.IsNamed e.1) docs entries)
    (nodup : (entries.map Prod.fst).Nodup) :
    ofPersisted Schema.initial docs {} = .ok (ofEntries entries) := by
  have loaded : ofPersisted Schema.initial docs ({} : Collection) = _ :=
    ofPersisted_named each (by simpa [order] using nodup)
  simpa [ofEntries] using loaded

end Collection

-- ---------------------------------------------------------------------------
-- Realms
-- ---------------------------------------------------------------------------

/-- A model without a declaration, the one of a number in the first database. -/
def Model.plain (number : Nat) (name : String) (collection : Collection) : Model :=
  { handle := ⟨number, name, Schema.initial⟩, collection, database := some 0 }

namespace Realm

variable {settings : Settings} {models : List (String × Collection)} {m : Model} {c : Collection}

/-- The names of models with their numbers, which count from `start`. -/
def numbered (start : Nat) (models : List (String × Collection)) : List (String × Nat) :=
  (models.zipIdx start).map fun (e, n) => (e.1, n)

def plainModels (models : List (String × Collection)) : List Model :=
  models.zipIdx.map fun (e, n) => .plain n e.1 e.2

/-- The realm of one database that holds models without declarations. -/
def holding (settings : Settings) (models : List (String × Collection)) : Realm :=
  { models := plainModels models, databases := [{ settings, registry := numbered 0 models }] }

theorem openDatabase_eq_holding (settings : Settings) :
    ({} : Realm).openDatabase settings = (holding settings [], 0) := rfl

theorem numbered_cons (start : Nat) (e : String × Collection) (rest) :
    numbered start (e :: rest) = (e.1, start) :: numbered (start + 1) rest := rfl

theorem registry_holding (settings : Settings) (models : List (String × Collection)) :
    (holding settings models).registry 0 = numbered 0 models := rfl

@[simp] theorem map_fst_numbered (start : Nat) :
    (numbered start models).map Prod.fst = models.map Prod.fst := by
  induction models generalizing start with
  | nil => rfl
  | cons e rest ih => rw [numbered_cons, List.map_cons, List.map_cons, ih]

theorem lookup_numbered_of_fresh (fresh : name ∉ models.map Prod.fst) (start : Nat) :
    (numbered start models).lookup name = none := by
  induction models generalizing start with
  | nil => rfl
  | cons e rest ih =>
    simp only [List.map_cons, List.mem_cons, not_or] at fresh
    rw [numbered_cons, List.lookup_cons, beq_eq_false_iff_ne.mpr fresh.1]
    exact ih fresh.2 _

theorem lookup_numbered (nodup : (models.map Prod.fst).Nodup) (held : models[n]? = some e)
    (start : Nat) : (numbered start models).lookup e.1 = some (start + n) := by
  induction models generalizing start n with
  | nil => simp at held
  | cons first rest ih =>
    obtain ⟨fresh, nodup⟩ := List.nodup_cons.mp nodup
    rw [numbered_cons, List.lookup_cons]
    cases n with
    | zero =>
      obtain rfl : first = e := by simpa using held
      simp
    | succ n =>
      have held : rest[n]? = some e := by simpa using held
      have mem : e.1 ∈ rest.map Prod.fst := List.mem_map_of_mem (List.mem_of_getElem? held)
      have other : e.1 ≠ first.1 := fun same => fresh (same ▸ mem)
      rw [beq_eq_false_iff_ne.mpr other, ih nodup held]
      simp
      omega

theorem exists_of_lookup_numbered {start i : Nat}
    (found : (numbered start models).lookup name = some i) :
    ∃ n c, i = start + n ∧ models[n]? = some (name, c) := by
  induction models generalizing start with
  | nil => simp [numbered] at found
  | cons first rest ih =>
    rw [numbered_cons, List.lookup_cons] at found
    split at found
    · rename_i same
      exact ⟨0, first.2, by simpa using found.symm, by simp [beq_iff_eq.mp same]⟩
    · obtain ⟨n, c, rfl, held⟩ := ih found
      exact ⟨n + 1, c, by omega, by simpa using held⟩

theorem model?_holding (n : Nat) :
    (holding settings models).model? n = models[n]?.map fun e => .plain n e.1 e.2 := by
  simp only [holding, plainModels, model?, List.getElem?_map, List.getElem?_zipIdx, Option.map_map]
  cases models[n]? <;> simp

theorem lookUp?_holding (nodup : (models.map Prod.fst).Nodup)
    (held : models[n]? = some (name, c)) :
    (holding settings models).lookUp? 0 name = some (.plain n name c) := by
  have number : (numbered 0 models).lookup name = some n := by
    simpa using lookup_numbered nodup held 0
  rw [lookUp?, registry_holding, number, Option.bind_some, model?_holding, held]
  rfl

theorem exists_of_lookUp?_holding (found : (holding settings models).lookUp? 0 name = some m) :
    ∃ n c, models[n]? = some (name, c) ∧ m = .plain n name c := by
  rw [lookUp?, registry_holding, Option.bind_eq_some_iff] at found
  obtain ⟨i, number, found⟩ := found
  obtain ⟨n, c, rfl, held⟩ := exists_of_lookup_numbered number
  rw [Nat.zero_add, model?_holding, held] at found
  exact ⟨n, c, held, (Option.some.inj found).symm⟩

-- ---------------------------------------------------------------------------
-- Loading
-- ---------------------------------------------------------------------------

theorem register_holding (fresh : name ∉ models.map Prod.fst) :
    (holding settings models).register 0 name Schema.initial {} =
      (holding settings (models ++ [(name, ({} : Collection))]), .plain models.length name {}) := by
  have absent : (holding settings models).lookUp? 0 name = none := by
    rw [lookUp?, registry_holding, lookup_numbered_of_fresh fresh]
    rfl
  have count : (holding settings models).models.length = models.length := by
    simp [holding, plainModels]
  simp only [register, absent, newModel, count]
  simp [holding, plainModels, numbered, changeDatabase, List.zipIdx_append, Model.plain]

theorem putModel_last (c : Collection) :
    (holding settings (models ++ [(name, ({} : Collection))])).putModel
        (.plain models.length name c) =
      holding settings (models ++ [(name, c)]) := by
  simp [holding, plainModels, numbered, putModel, List.zipIdx_append, Model.plain]

theorem perform_load {docs : List Json} {number : Nat} (source : Source)
    (loads : Collection.ofPersisted Schema.initial docs {} = .ok c) :
    (Model.plain number name {}).perform source (.load docs) =
      { model := .plain number name c, result := .ok none } := by
  have schema : (Model.plain number name {}).schema = Schema.initial := rfl
  simp only [Model.perform, Model.prepare, schema, loads]
  rfl

/-- The models of a file are registered and loaded in order. -/
theorem loadModels_holding {file : List (String × List Json)}
    {loaded : List (String × Collection)} (source : Source)
    (each : List.Forall₂ (fun e l => l.1 = e.1 ∧
      Collection.ofPersisted Schema.initial e.2 {} = .ok l.2) file loaded)
    (nodup : ((models ++ loaded).map Prod.fst).Nodup) :
    (holding settings models).loadModels 0 source file =
      (.ok (), holding settings (models ++ loaded)) := by
  induction each generalizing models with
  | nil => simp [loadModels]
  | @cons e l file loaded first _ ih =>
    obtain ⟨_, docs⟩ := e
    obtain ⟨name, c⟩ := l
    obtain ⟨rfl, loads⟩ := first
    have fresh : name ∉ models.map Prod.fst := by
      intro mem
      rw [List.map_append] at nodup
      exact (List.nodup_append.mp nodup).2.2 name mem name (.head _) rfl
    have later : (holding settings (models ++ [(name, c)])).loadModels 0 source file = _ :=
      ih (by simpa using nodup)
    rw [loadModels, register_holding fresh]
    simp only [perform_load source loads, putModel_last, later]
    simp

-- ---------------------------------------------------------------------------
-- Saving
-- ---------------------------------------------------------------------------

/-- The collection of one name replaced. -/
def replace (name : String) (c : Collection) (models : List (String × Collection)) :
    List (String × Collection) :=
  models.map fun e => if e.1 = name then (e.1, c) else e

@[simp] theorem map_fst_replace (name : String) (c : Collection)
    (models : List (String × Collection)) :
    (replace name c models).map Prod.fst = models.map Prod.fst := by
  rw [replace, List.map_map]
  refine List.map_congr_left fun e _ => ?_
  simp only [Function.comp_apply]
  split <;> rfl

theorem replace_eq_set (nodup : (models.map Prod.fst).Nodup)
    (held : models[n]? = some (name, c)) (c' : Collection) :
    replace name c' models = models.set n (name, c') := by
  refine List.ext_getElem? fun i => ?_
  rw [replace, List.getElem?_map, List.getElem?_set]
  by_cases here : n = i
  · subst here
    rw [if_pos rfl, if_pos (List.getElem?_eq_some_iff.mp held).1, held]
    simp
  · rw [if_neg here]
    cases other : models[i]? with
    | none => rfl
    | some e =>
      have apart : e.1 ≠ name := by
        rintro rfl
        have first := lookup_numbered nodup held 0
        have second := lookup_numbered nodup other 0
        rw [first] at second
        simp only [Nat.zero_add, Option.some.injEq] at second
        exact here second
      simp [apart]

theorem putModel_holding (nodup : (models.map Prod.fst).Nodup)
    (held : models[n]? = some (name, c)) (c' : Collection) :
    (holding settings models).putModel (.plain n name c') =
      holding settings (replace name c' models) := by
  obtain ⟨inside, here⟩ := List.getElem?_eq_some_iff.mp held
  have names : numbered 0 (models.set n (name, c')) = numbered 0 models := by
    refine List.ext_getElem? fun i => ?_
    simp only [numbered, List.getElem?_map, List.getElem?_zipIdx, List.getElem?_set]
    by_cases same : n = i
    · subst same
      simp [inside, here]
    · simp [same]
  have all : plainModels (models.set n (name, c')) =
      (plainModels models).set n (.plain n name c') := by
    refine List.ext_getElem? fun i => ?_
    simp only [plainModels, List.getElem?_map, List.getElem?_zipIdx, List.getElem?_set,
      List.length_map, List.length_zipIdx]
    by_cases same : n = i
    · subst same
      simp [inside]
    · simp [same]
  rw [replace_eq_set nodup held, holding, holding, all, names]
  rfl

/-- The documents of a collection as they are kept in a file. -/
def exported (c : Collection) : List Json :=
  c.live.map fun doc => (Value.object (Schema.initial.persist doc)).toJson

/-- What is saved are the models in the order of their names, each with its documents. -/
theorem saved_holding (inOrder : DatabaseFile.InOrder models) :
    (holding settings models).saved 0 =
      ({ version := settings.version, engine := engineVersion,
         models := models.map fun e => (e.1, exported e.2) } : DatabaseFile).text := by
  have names : (holding settings models).modelNames 0 = models.map Prod.fst := by
    rw [modelNames, registry_holding, map_fst_numbered]
    refine List.mergeSort_of_pairwise (List.pairwise_map.mpr (inOrder.imp fun less => ?_))
    exact decide_eq_true (le_of_lt less)
  have each : (models.map Prod.fst).filterMap (fun name =>
      ((holding settings models).lookUp? 0 name).map fun m => (name, m.exported)) =
      models.map fun e => (e.1, exported e.2) := by
    rw [List.filterMap_map, ← List.filterMap_eq_map]
    refine List.filterMap_congr fun e mem => ?_
    obtain ⟨n, held⟩ := List.getElem?_of_mem mem
    rw [Function.comp_apply, lookUp?_holding inOrder.nodup held]
    rfl
  rw [saved, names, each]
  rfl

end Realm

end DocStore
