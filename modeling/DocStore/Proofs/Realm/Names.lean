import DocStore.Proofs.Write.Holder
import DocStore.Realm

/-!
# Names and numbers

Whatever is done with a realm, each registered name leads to a model of a number of its own. So what
is registered or stored under one name leaves all other names of a database to their models.
-/

namespace DocStore

namespace Realm

variable {r r' : Realm} {n : Nat} {name other : String} {m old : Model} {d : Database}

/-- A registered name leads to a model that has the number of the name, and no number is that of two
names. -/
structure Orderly (r : Realm) : Prop where
  leads : ∀ n name i, (name, i) ∈ r.registry n → ∃ m, r.model? i = some m ∧ m.handle.number = i
  apart : ∀ n name other i, (name, i) ∈ r.registry n → (other, i) ∈ r.registry n → name = other

theorem mem_registry_of_lookup {i : Nat} (found : (r.registry n).lookup name = some i) :
    (name, i) ∈ r.registry n := by
  obtain ⟨pre, post, entries, -⟩ := List.lookup_eq_some_iff.mp found
  simp [entries]

theorem Orderly.lookup_of_lookUp? (orderly : r.Orderly) (found : r.lookUp? n name = some m) :
    (r.registry n).lookup name = some m.handle.number ∧ r.model? m.handle.number = some m := by
  obtain ⟨i, number, there⟩ := Option.bind_eq_some_iff.mp found
  obtain ⟨held, there', same⟩ := orderly.leads n name i (mem_registry_of_lookup number)
  obtain rfl := Option.some.inj (there'.symm.trans there)
  exact same.symm ▸ ⟨number, there⟩

theorem Orderly.lookup_of_absent (orderly : r.Orderly) (absent : r.lookUp? n name = none) :
    (r.registry n).lookup name = none := by
  cases number : (r.registry n).lookup name with
  | none => rfl
  | some i =>
    obtain ⟨m, there, -⟩ := orderly.leads n name i (mem_registry_of_lookup number)
    simp [lookUp?, number, there] at absent

/-- Models may be stored anew under their handles, and names may be taken away. -/
theorem Orderly.mono (orderly : r.Orderly)
    (models : ∀ i m, r.model? i = some m → ∃ m', r'.model? i = some m' ∧ m'.handle = m.handle)
    (names : ∀ n, r'.registry n ⊆ r.registry n) : r'.Orderly where
  leads n name i mem := by
    obtain ⟨m, there, number⟩ := orderly.leads n name i (names n mem)
    obtain ⟨m', there', same⟩ := models i m there
    exact ⟨m', there', same ▸ number⟩
  apart n name other i mem mem' := orderly.apart n name other i (names n mem) (names n mem')

-- ---------------------------------------------------------------------------
-- Steps
-- ---------------------------------------------------------------------------

theorem databases_changeDatabase (there : r.databases[n]? = some d) (f : Database → Database) :
    (r.changeDatabase n f).databases[n]? = some (f d) := by
  rw [changeDatabase, there]
  exact List.getElem?_set_self (List.getElem?_eq_some_iff.mp there).1

theorem registry_changeDatabase (there : r.databases[n]? = some d) (f : Database → Database)
    (k : Nat) : (r.changeDatabase n f).registry k = if k = n then (f d).registry else r.registry k := by
  have inside : n < r.databases.length := (List.getElem?_eq_some_iff.mp there).1
  simp only [changeDatabase, there, registry, List.getElem?_set]
  by_cases same : n = k
  · subst same
    simp [inside]
  · simp [same, Ne.symm same]

theorem model?_changeDatabase (r : Realm) (n : Nat) (f : Database → Database) (i : Nat) :
    (r.changeDatabase n f).model? i = r.model? i := by
  rw [changeDatabase]
  split <;> rfl

theorem registry_changeDatabase_subset {f : Database → Database}
    (fewer : ∀ d, (f d).registry ⊆ d.registry) (k : Nat) :
    (r.changeDatabase n f).registry k ⊆ r.registry k := by
  cases there : r.databases[n]? with
  | none => simp [changeDatabase, there]
  | some d =>
    rw [registry_changeDatabase there]
    split
    · rename_i same
      subst same
      simpa [registry, there] using fewer d
    · exact List.Subset.refl _

theorem model?_putModel (there : r.model? m.handle.number = some old) (i : Nat) :
    (r.putModel m).model? i = if i = m.handle.number then some m else r.model? i := by
  have inside : m.handle.number < r.models.length := (List.getElem?_eq_some_iff.mp there).1
  simp only [putModel, model?, List.getElem?_set]
  by_cases same : m.handle.number = i
  · subst same
    simp [inside]
  · simp [same, Ne.symm same]

theorem model?_newModel (r : Realm) (database : Option Nat) (name : String) (schema : Schema)
    (behavior : Behavior) (i : Nat) :
    (r.newModel database name schema behavior).1.model? i =
      if i = r.models.length then some (r.newModel database name schema behavior).2
      else r.model? i := by
  simp only [newModel, model?]
  by_cases same : i = r.models.length
  · simp [same]
  · rw [if_neg same, List.getElem?_append]
    split
    · rfl
    · rw [List.getElem?_eq_none (by simp; omega), List.getElem?_eq_none (by omega)]

theorem Orderly.putModel (orderly : r.Orderly) (there : r.model? m.handle.number = some old)
    (same : m.handle = old.handle) : (r.putModel m).Orderly := by
  refine orderly.mono (fun i held known => ?_) fun n => List.Subset.refl _
  rw [model?_putModel there]
  split
  · rename_i number
    rw [number] at known
    obtain rfl := Option.some.inj (known.symm.trans there)
    exact ⟨m, rfl, same⟩
  · exact ⟨held, known, rfl⟩

theorem Orderly.newModel (orderly : r.Orderly) (database : Option Nat) (name : String)
    (schema : Schema) (behavior : Behavior) : (r.newModel database name schema behavior).1.Orderly := by
  refine orderly.mono (fun i held known => ?_) fun n => List.Subset.refl _
  have inside : i < r.models.length := (List.getElem?_eq_some_iff.mp known).1
  rw [model?_newModel, if_neg (Nat.ne_of_lt inside)]
  exact ⟨held, known, rfl⟩

theorem Orderly.changeDatabase (orderly : r.Orderly) {f : Database → Database}
    (fewer : ∀ d, (f d).registry ⊆ d.registry) : (r.changeDatabase n f).Orderly := by
  refine orderly.mono (fun i m known => ?_) (registry_changeDatabase_subset fewer)
  exact ⟨m, (model?_changeDatabase ..).trans known, rfl⟩

theorem Orderly.openDatabase (orderly : r.Orderly) (settings : Settings) :
    (r.openDatabase settings).1.Orderly := by
  refine orderly.mono (fun i m known => ⟨m, known, rfl⟩) fun n => ?_
  simp only [registry, Realm.openDatabase, List.getElem?_append]
  split
  · exact List.Subset.refl _
  · cases n - r.databases.length <;> simp

theorem Orderly.destroy (orderly : r.Orderly) (m : Model) : (r.destroy m).Orderly := by
  rw [Realm.destroy]
  split
  · exact orderly.changeDatabase fun d => List.filter_sublist.subset
  · exact orderly

/-- A name that is not registered is put last, with the number of a model that is new. -/
theorem register_of_absent (absent : r.lookUp? n name = none) (schema : Schema)
    (behavior : Behavior) :
    r.register n name schema behavior =
      ((r.newModel (some n) name schema behavior).1.changeDatabase n fun d =>
        { d with registry := d.registry ++ [(name, r.models.length)] },
       (r.newModel (some n) name schema behavior).2) := by
  rw [register, absent]
  rfl

theorem model?_register (absent : r.lookUp? n name = none) (schema : Schema) (behavior : Behavior)
    (i : Nat) : (r.register n name schema behavior).1.model? i =
      if i = r.models.length then some (r.register n name schema behavior).2 else r.model? i := by
  rw [register_of_absent absent, model?_changeDatabase, model?_newModel]

theorem registry_register (absent : r.lookUp? n name = none) (there : r.databases[n]? = some d)
    (schema : Schema) (behavior : Behavior) (k : Nat) :
    (r.register n name schema behavior).1.registry k =
      if k = n then r.registry n ++ [(name, r.models.length)] else r.registry k := by
  have there' : (r.newModel (some n) name schema behavior).1.databases[n]? = some d := there
  have entries : r.registry n = d.registry := by simp [registry, there]
  rw [register_of_absent absent, registry_changeDatabase there', entries]
  rfl

theorem Orderly.register (orderly : r.Orderly) (n : Nat) (name : String) (schema : Schema)
    (behavior : Behavior) : (r.register n name schema behavior).1.Orderly := by
  cases found : r.lookUp? n name with
  | some m =>
    rw [Realm.register, found]
    exact orderly
  | none =>
    cases there : r.databases[n]? with
    | none =>
      have nowhere : (r.newModel (some n) name schema behavior).1.databases[n]? = none := there
      rw [register_of_absent found, Realm.changeDatabase, nowhere]
      exact orderly.newModel (some n) name schema behavior
    | some d =>
      have below (k : Nat) (e : String × Nat) (mem : e ∈ r.registry k) : e.2 < r.models.length := by
        obtain ⟨m, there, -⟩ := orderly.leads k e.1 e.2 mem
        exact (List.getElem?_eq_some_iff.mp there).1
      -- What is registered is what was before, or the name with the number that no other has.
      have cases_ (k : Nat) (e : String × Nat)
          (mem : e ∈ (r.register n name schema behavior).1.registry k) :
          e ∈ r.registry k ∨ e = (name, r.models.length) := by
        rw [registry_register found there] at mem
        split at mem
        · rename_i same
          subst same
          exact (List.mem_append.mp mem).imp_right List.mem_singleton.mp
        · exact .inl mem
      constructor
      · intro k other i mem
        rw [model?_register found]
        rcases cases_ k _ mem with old | new
        · rw [if_neg (Nat.ne_of_lt (below k _ old))]
          exact orderly.leads k other i old
        · cases new
          rw [if_pos rfl, register_of_absent found]
          exact ⟨_, rfl, rfl⟩
      · intro k first second i mem mem'
        rcases cases_ k _ mem with old | new <;> rcases cases_ k _ mem' with old' | new'
        · exact orderly.apart k first second i old old'
        · cases new'
          exact absurd (below k _ old) (Nat.lt_irrefl _)
        · cases new
          exact absurd (below k _ old') (Nat.lt_irrefl _)
        · rw [(Prod.mk.inj new).1, (Prod.mk.inj new').1]

theorem Orderly.model?_registered (orderly : r.Orderly) (n : Nat) (name : String) (schema : Schema)
    (behavior : Behavior) :
    (r.register n name schema behavior).1.model? (r.register n name schema behavior).2.handle.number =
      some (r.register n name schema behavior).2 := by
  cases found : r.lookUp? n name with
  | some m =>
    rw [Realm.register, found]
    exact (orderly.lookup_of_lookUp? found).2
  | none =>
    rw [model?_register found, register_of_absent found]
    exact if_pos rfl

-- ---------------------------------------------------------------------------
-- Names after a step
-- ---------------------------------------------------------------------------

theorem Orderly.lookUp?_register (orderly : r.Orderly) (there : r.databases[n]? = some d)
    (name : String) (schema : Schema) (behavior : Behavior) (other : String) :
    (r.register n name schema behavior).1.lookUp? n other =
      if other = name then some (r.register n name schema behavior).2 else r.lookUp? n other := by
  cases found : r.lookUp? n name with
  | some m =>
    rw [Realm.register, found]
    by_cases same : other = name
    · simp [same, found]
    · simp [same]
  | none =>
    have fresh := orderly.lookup_of_absent found
    rw [lookUp?, registry_register found there, if_pos rfl, List.lookup_append]
    by_cases same : other = name
    · subst same
      simp [fresh, model?_register found]
    · rw [if_neg same, lookUp?]
      cases number : (r.registry n).lookup other with
      | none => simp [List.lookup_cons, beq_eq_false_iff_ne.mpr same]
      | some i =>
        obtain ⟨m, known, -⟩ := orderly.leads n other i (mem_registry_of_lookup number)
        have below : i < r.models.length := (List.getElem?_eq_some_iff.mp known).1
        simp [model?_register found, Nat.ne_of_lt below]

theorem Orderly.lookUp?_putModel (orderly : r.Orderly) (found : r.lookUp? n name = some old)
    (same : m.handle = old.handle) (other : String) :
    (r.putModel m).lookUp? n other = if other = name then some m else r.lookUp? n other := by
  obtain ⟨number, there⟩ := orderly.lookup_of_lookUp? found
  rw [← same] at number there
  have names : (r.putModel m).registry n = r.registry n := rfl
  rw [lookUp?, lookUp?, names]
  by_cases here : other = name
  · subst here
    rw [number, Option.bind_some, model?_putModel there, if_pos rfl, if_pos rfl]
  · rw [if_neg here]
    cases number' : (r.registry n).lookup other with
    | none => rfl
    | some i =>
      have apart : i ≠ m.handle.number := by
        rintro rfl
        exact here (orderly.apart n other name _ (mem_registry_of_lookup number')
          (mem_registry_of_lookup number))
      rw [Option.bind_some, Option.bind_some, model?_putModel there, if_neg apart]

theorem exists_databases_register (there : r.databases[n]? = some d) (name : String)
    (schema : Schema) (behavior : Behavior) :
    ∃ d', (r.register n name schema behavior).1.databases[n]? = some d' := by
  cases found : r.lookUp? n name with
  | some m =>
    rw [Realm.register, found]
    exact ⟨d, there⟩
  | none =>
    have there' : (r.newModel (some n) name schema behavior).1.databases[n]? = some d := there
    rw [register_of_absent found]
    exact ⟨_, databases_changeDatabase there' _⟩

-- ---------------------------------------------------------------------------
-- Runs
-- ---------------------------------------------------------------------------

/-- The realms that there can be. A model may be stored anew after any write, and any handle may be
destroyed. -/
inductive Lived : Realm → Prop
  | empty : Lived {}
  | opened {r : Realm} (lived : Lived r) (settings : Settings) : Lived (r.openDatabase settings).1
  | closed {r : Realm} (lived : Lived r) (n : Nat) : Lived (r.closeDatabase n)
  | made {r : Realm} (lived : Lived r) (name : String) (schema : Schema) (behavior : Behavior) :
      Lived (r.newModel none name schema behavior).1
  | registered {r : Realm} (lived : Lived r) (n : Nat) (name : String) (schema : Schema)
      (behavior : Behavior) : Lived (r.register n name schema behavior).1
  | stored {r : Realm} {m old : Model} (lived : Lived r)
      (there : r.model? m.handle.number = some old) (same : m.handle = old.handle) :
      Lived (r.putModel m)
  | destroyed {r : Realm} (lived : Lived r) (m : Model) : Lived (r.destroy m)

theorem Lived.orderly (lived : Lived r) : r.Orderly := by
  induction lived with
  | empty => exact ⟨by simp [registry], by simp [registry]⟩
  | opened _ settings ih => exact ih.openDatabase settings
  | closed _ n ih => exact ih.changeDatabase fun _ => List.Subset.refl _
  | made _ name schema behavior ih => exact ih.newModel none name schema behavior
  | registered _ n name schema behavior ih => exact ih.register n name schema behavior
  | stored _ there same ih => exact ih.putModel there same
  | destroyed _ m ih => exact ih.destroy m

/-- A load does no more than register models and store them anew. -/
theorem Lived.loadModels (lived : Lived r) (n : Nat) (source : Source)
    (file : List (String × List Json)) : Lived (r.loadModels n source file).2 := by
  induction file generalizing r with
  | nil => exact lived
  | cons e rest ih =>
    obtain ⟨name, docs⟩ := e
    have there := lived.orderly.model?_registered n name Schema.initial {}
    rw [← Model.perform_handle _ source (.load docs)] at there
    have stored := (lived.registered n name Schema.initial {}).stored there (Model.perform_handle ..)
    simp only [Realm.loadModels]
    split
    · exact stored
    · exact ih stored

theorem Lived.load (lived : Lived r) (n : Nat) (source : Source) (text : Option String) :
    Lived (r.load n source text).2.1 := by
  simp only [Realm.load]
  split
  · exact lived
  · exact lived
  · simp only [loadText]
    split
    · exact lived
    · rename_i file _
      have loaded := lived.loadModels n source file.models
      split
      · rename_i failed
        rwa [failed] at loaded
      · rename_i done
        rw [done] at loaded
        split <;> exact loaded

end Realm

end DocStore
