import DocStore.Proofs.Database.File
import DocStore.Proofs.Realm.Names

/-!
# Loads that stop short

A file is loaded model by model, in the order of their names. The documents of one model replace all
that it had or, if one of them cannot be stored, none; and then the load stops. What was loaded before
stays, so a failed load leaves things as they were only up to the names before the failure.
-/

namespace DocStore

-- ---------------------------------------------------------------------------
-- The documents of one model
-- ---------------------------------------------------------------------------

/-- The tree is not that of an object, or that of one without an id. -/
def Schema.Unusable (schema : Schema) (j : Json) : Prop :=
  ∀ fields, Value.ofJson j = .object fields → idOf (schema.restore fields) = none

theorem Collection.exists_ofPersisted_eq_error_iff {schema : Schema} {docs : List Json}
    {done : Collection} :
    (∃ e, ofPersisted schema docs done = .error e) ↔ ∃ j ∈ docs, schema.Unusable j := by
  induction docs generalizing done with
  | nil => simp [ofPersisted]
  | cons j rest ih =>
    rw [List.exists_mem_cons_iff]
    cases value : Value.ofJson j with
    | object fields =>
      cases name : idOf (schema.restore fields) with
      | none =>
        have bad : schema.Unusable j := by
          intro other same
          obtain rfl := Value.object.inj (value.symm.trans same)
          exact name
        simp [ofPersisted, value, membersOf, name, bind, Except.bind, bad]
      | some id =>
        have good : ¬ schema.Unusable j := fun bad => by simp [bad fields value] at name
        simp only [ofPersisted, value, membersOf, name, bind, Except.bind, ih, good, false_or]
    | _ => simp [ofPersisted, value, membersOf, bind, Except.bind, Schema.Unusable]

/-- A model takes in all documents of a list, or none. -/
theorem Model.perform_load (m : Model) (source : Source) (docs : List Json) :
    m.perform source (.load docs) = match Collection.ofPersisted m.schema docs {} with
      | .ok collection => { model := { m with collection }, result := .ok none }
      | .error e => { model := m, result := .error e } := by
  rw [perform, prepare]
  cases Collection.ofPersisted m.schema docs {} <;> rfl

namespace Realm

variable {r r' : Realm} {n : Nat} {name : String} {m m' : Model} {d : Database}
  {file models : List (String × List Json)} {docs : List Json}

-- ---------------------------------------------------------------------------
-- One model
-- ---------------------------------------------------------------------------

/-- The model that the documents of a name are loaded into: the one that is registered, or a new one
that declares nothing but the id. -/
inductive Opens (r : Realm) (n : Nat) (name : String) : Model → Prop
  | registered {m : Model} (found : r.lookUp? n name = some m) : Opens r n name m
  | new (number : Nat) (absent : r.lookUp? n name = none) :
      Opens r n name { handle := ⟨number, name, Schema.initial⟩, database := some n }

theorem opens_register (r : Realm) (n : Nat) (name : String) :
    r.Opens n name (r.register n name Schema.initial {}).2 := by
  cases found : r.lookUp? n name with
  | some m =>
    rw [register, found]
    exact .registered found
  | none =>
    rw [register_of_absent found]
    exact .new r.models.length found

theorem Opens.congr (opens : r.Opens n name m) (same : r'.lookUp? n name = r.lookUp? n name) :
    r'.Opens n name m := by
  cases opens with
  | registered found => exact .registered (same.trans found)
  | new number absent => exact .new number (same.trans absent)

theorem Opens.schema_eq (opens : r.Opens n name m) (opens' : r.Opens n name m') :
    m.schema = m'.schema := by
  cases opens with
  | registered found =>
    cases opens' with
    | registered found' => rw [Option.some.inj (found.symm.trans found')]
    | new number absent => simp [found] at absent
  | new number absent =>
    cases opens' with
    | registered found => simp [absent] at found
    | new => rfl

/-- Some of the documents cannot be loaded under the name. -/
def Blocked (r : Realm) (n : Nat) (e : String × List Json) : Prop :=
  ∃ m, r.Opens n e.1 m ∧ ∃ j ∈ e.2, m.schema.Unusable j

theorem Opens.blocked_iff (opens : r.Opens n name m) :
    r.Blocked n (name, docs) ↔ ∃ e, Collection.ofPersisted m.schema docs {} = .error e := by
  rw [Collection.exists_ofPersisted_eq_error_iff]
  refine ⟨fun ⟨m', opens', bad⟩ => ?_, fun bad => ⟨m, opens, bad⟩⟩
  rwa [opens.schema_eq opens']

theorem Blocked.congr {e : String × List Json} (blocked : r.Blocked n e)
    (same : r'.lookUp? n e.1 = r.lookUp? n e.1) : r'.Blocked n e := by
  obtain ⟨m, opens, bad⟩ := blocked
  exact ⟨m, opens.congr same, bad⟩

/-- Loading under one name leaves all others alone. -/
theorem Orderly.lookUp?_putModel_register (orderly : r.Orderly) (there : r.databases[n]? = some d)
    (same : m.handle = (r.register n name Schema.initial {}).2.handle) (other : String) :
    ((r.register n name Schema.initial {}).1.putModel m).lookUp? n other =
      if other = name then some m else r.lookUp? n other := by
  have names := orderly.lookUp?_register there name Schema.initial {}
  have registered := (names name).trans (if_pos rfl)
  rw [(orderly.register n name Schema.initial {}).lookUp?_putModel registered same, names]
  by_cases here : other = name <;> simp [here]

theorem Orderly.putModel_register (orderly : r.Orderly) (there : r.databases[n]? = some d)
    (same : m.handle = (r.register n name Schema.initial {}).2.handle) :
    ((r.register n name Schema.initial {}).1.putModel m).Orderly ∧
      ∃ d', ((r.register n name Schema.initial {}).1.putModel m).databases[n]? = some d' := by
  have held := orderly.model?_registered n name Schema.initial {}
  rw [← same] at held
  exact ⟨(orderly.register n name Schema.initial {}).putModel held same,
    exists_databases_register there name Schema.initial {}⟩

-- ---------------------------------------------------------------------------
-- A whole file
-- ---------------------------------------------------------------------------

/-- What a load leaves that stops at a name. The names before hold what the file says, the name itself
what it held, nothing if it is new, and all other names what they held. -/
structure Stopped (r r' : Realm) (n : Nat) (before : List (String × List Json)) (name : String)
    (docs : List Json) (e : Error) : Prop where
  loaded : ∀ k ks, (k, ks) ∈ before → ∃ m collection, r.Opens n k m ∧
    Collection.ofPersisted m.schema ks {} = .ok collection ∧
    r'.lookUp? n k = some { m with collection }
  refused : ∃ m, r.Opens n name m ∧ Collection.ofPersisted m.schema docs {} = .error e ∧
    r'.lookUp? n name = some m
  others : ∀ k, k ∉ before.map Prod.fst → k ≠ name → r'.lookUp? n k = r.lookUp? n k

theorem Stopped.cons {between : Realm} {before : List (String × List Json)} {e : Error}
    {k : String} {ks : List Json} {collection : Collection}
    (stopped : Stopped between r' n before name docs e) (opens : r.Opens n k m)
    (loads : Collection.ofPersisted m.schema ks {} = .ok collection)
    (names : ∀ other, between.lookUp? n other =
      if other = k then some { m with collection } else r.lookUp? n other)
    (fresh : k ∉ before.map Prod.fst) (apart : k ≠ name) :
    Stopped r r' n ((k, ks) :: before) name docs e := by
  have back {other : String} (ne : other ≠ k) : r.lookUp? n other = between.lookUp? n other := by
    rw [names, if_neg ne]
  constructor
  · intro other others mem
    rcases List.mem_cons.mp mem with same | mem
    · cases same
      refine ⟨m, collection, opens, loads, ?_⟩
      rw [stopped.others k fresh apart, names, if_pos rfl]
    · have ne : other ≠ k := fun same => fresh (same ▸ List.mem_map_of_mem mem)
      obtain ⟨m', collection', opens', rest⟩ := stopped.loaded other others mem
      exact ⟨m', collection', opens'.congr (back ne), rest⟩
  · obtain ⟨m', opens', rest⟩ := stopped.refused
    exact ⟨m', opens'.congr (back apart.symm), rest⟩
  · intro other absent ne
    rw [List.map_cons, List.mem_cons, not_or] at absent
    rw [stopped.others other absent.2 ne, back absent.1]

theorem loadModels_stops (orderly : r.Orderly) (there : r.databases[n]? = some d) (source : Source)
    (nodup : (models.map Prod.fst).Nodup) (blocked : ∃ e ∈ models, r.Blocked n e) :
    ∃ e before name docs after, models = before ++ (name, docs) :: after ∧
      (r.loadModels n source models).1 = .error e ∧
      Stopped r (r.loadModels n source models).2 n before name docs e := by
  induction models generalizing r d with
  | nil => simp at blocked
  | cons first rest ih =>
    obtain ⟨k, ks⟩ := first
    obtain ⟨fresh, nodup⟩ := List.nodup_cons.mp nodup
    have opens := r.opens_register n k
    cases loads : Collection.ofPersisted (r.register n k Schema.initial {}).2.schema ks {} with
    | error e =>
      let m := (r.register n k Schema.initial {}).2
      have names : ∀ other, ((r.register n k Schema.initial {}).1.putModel m).lookUp? n other =
          if other = k then some m else r.lookUp? n other :=
        orderly.lookUp?_putModel_register there rfl
      refine ⟨e, [], k, ks, rest, rfl, ?_⟩
      simp only [loadModels, Model.perform_load, loads, true_and]
      refine ⟨by simp, ⟨_, opens, loads, (names k).trans (if_pos rfl)⟩, fun other _ ne => ?_⟩
      exact (names other).trans (if_neg ne)
    | ok collection =>
      let m : Model := { (r.register n k Schema.initial {}).2 with collection }
      let between := (r.register n k Schema.initial {}).1.putModel m
      have names : ∀ other, between.lookUp? n other =
          if other = k then some m else r.lookUp? n other :=
        orderly.lookUp?_putModel_register there rfl
      obtain ⟨orderly', d', there'⟩ : between.Orderly ∧ ∃ d', between.databases[n]? = some d' :=
        orderly.putModel_register there rfl
      have blocked' : ∃ e ∈ rest, between.Blocked n e := by
        obtain ⟨e, mem, bad⟩ := blocked
        rcases List.mem_cons.mp mem with rfl | later
        · obtain ⟨e, fails⟩ := opens.blocked_iff.mp bad
          cases loads.symm.trans fails
        · have other : e.1 ∈ rest.map Prod.fst := List.mem_map_of_mem later
          have ne : e.1 ≠ k := fun same => fresh (same ▸ other)
          exact ⟨e, later, bad.congr ((names e.1).trans (if_neg ne))⟩
      obtain ⟨e, before, name, docs, after, rfl, failed, stopped⟩ :=
        ih orderly' there' nodup blocked'
      rw [List.map_append, List.map_cons, List.mem_append, List.mem_cons, not_or, not_or] at fresh
      refine ⟨e, (k, ks) :: before, name, docs, after, rfl, ?_⟩
      simp only [loadModels, Model.perform_load, loads]
      exact ⟨failed, stopped.cons opens loads names fresh.1 fresh.2.1⟩

theorem load_of_failed {path text : String} {decoded : DatabaseFile} {source : Source} {e : Error}
    (kept : r.file n = .ok path) (read : DatabaseFile.ofText? text = some decoded)
    (failed : r.loadModels n source decoded.models = (.error e, r')) :
    r.load n source (some text) = (.error e, r', none) := by
  simp only [load, kept, loadText, read, failed]

/-- A file that is no database changes nothing. One with documents that cannot be loaded is loaded up
to the first name that has such, in the order of names, and this name keeps what it held. -/
theorem load_stops (lived : Lived r) {path : String} (kept : r.file n = .ok path) (source : Source)
    (text : String) :
    (DatabaseFile.ofText? text = none →
      r.load n source (some text) = (.error .interchange, r, none)) ∧
    ∀ file, DatabaseFile.ofText? text = some file → (∃ e ∈ file.models, r.Blocked n e) →
      ∃ e before name docs after, file.models = before ++ (name, docs) :: after ∧
        (r.load n source (some text)).1 = .error e ∧
        Stopped r (r.load n source (some text)).2.1 n before name docs e := by
  refine ⟨fun malformed => ?_, fun file decoded blocked => ?_⟩
  · simp only [load, kept, loadText, malformed]
  · obtain ⟨d, there⟩ : ∃ d, r.databases[n]? = some d := by
      cases there : r.databases[n]? with
      | none => simp [Realm.file, settingsOf, there] at kept
      | some d => exact ⟨d, rfl⟩
    have nodup := (DatabaseFile.isDecoded_of_ofText? decoded).inOrder.nodup
    obtain ⟨e, before, name, docs, after, split, failed, stopped⟩ :=
      loadModels_stops lived.orderly there source nodup blocked
    rw [load_of_failed kept decoded (Prod.ext failed rfl)]
    exact ⟨e, before, name, docs, after, split, rfl, stopped⟩

/-- The dogs are not documents, and pigs come after them: neither loading them nor registering their
name is tried. -/
theorem load_stops_dogs :
    let r := ((({} : Realm).openDatabase { file := some "db.json" }).1.register 0 "cats"
      Schema.initial {}).1
    let file : DatabaseFile := { models := [("cats", [.object [("_id", .string "x")]]),
      ("dogs", [.integer 5]), ("pigs", [.object [("_id", .string "y")]])] }
    let source : Source := ⟨fun _ => 0, ⟨0, 0⟩, []⟩
    (Lived r ∧ r.file 0 = .ok "db.json" ∧ DatabaseFile.ofText? file.text = some file ∧
      ∃ e ∈ file.models, r.Blocked 0 e) ∧
      ∃ e before name docs after, file.models = before ++ (name, docs) :: after ∧
        (r.load 0 source (some file.text)).1 = .error e ∧
        Stopped r (r.load 0 source (some file.text)).2.1 0 before name docs e := by
  intro r file source
  have lived : Lived r := (Lived.empty.opened { file := some "db.json" }).registered 0 "cats" _ {}
  have kept : r.file 0 = .ok "db.json" := rfl
  have decoded : DatabaseFile.ofText? file.text = some file := by
    rw [DatabaseFile.ofText?_text (by decide) (by unfold DatabaseFile.InOrder; decide)]
    rfl
  have blocked : ∃ e ∈ file.models, r.Blocked 0 e := by
    refine ⟨("dogs", [.integer 5]), .tail _ (.head _), _, .new 1 rfl, .integer 5, .head _, ?_⟩
    intro fields same
    cases same
  exact ⟨⟨lived, kept, decoded, blocked⟩,
    (load_stops lived kept source file.text).2 file decoded blocked⟩

/-- The cats were loaded and dogs were registered when the dogs were refused, and so they stay. -/
theorem load_not_atomic :
    let r := ((({} : Realm).openDatabase { file := some "db.json" }).1.register 0 "cats"
      Schema.initial {}).1
    let file : DatabaseFile := { models := [("cats", [.object [("_id", .string "x")]]),
      ("dogs", [.integer 5])] }
    let source : Source := ⟨fun _ => 0, ⟨0, 0⟩, []⟩
    let loaded := r.load 0 source (some file.text)
    DatabaseFile.ofText? file.text = some file ∧
      loaded.1 = .error (.usage (.documentNotAnObject "number")) ∧
      (r.lookUp? 0 "cats").map (·.collection.live) = some [] ∧
      (loaded.2.1.lookUp? 0 "cats").map (·.collection.live) = some [[("_id", .string "x")]] ∧
      r.hasModel 0 "dogs" = false ∧ loaded.2.1.hasModel 0 "dogs" = true := by
  intro r file source loaded
  have decoded : DatabaseFile.ofText? file.text = some file := by
    rw [DatabaseFile.ofText?_text (by decide) (by unfold DatabaseFile.InOrder; decide)]
    rfl
  have kept : r.file 0 = .ok "db.json" := rfl
  have failed : loaded = _ := load_of_failed kept decoded rfl
  rw [failed]
  exact ⟨decoded, rfl, rfl, rfl, rfl, rfl⟩

end Realm

end DocStore
