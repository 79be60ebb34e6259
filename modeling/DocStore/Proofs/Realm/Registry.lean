import DocStore.Proofs.Realm.Names

/-!
# Names through a run

Models are registered in a database by name, and handles of them stay in use for good. What
destroying a model takes away is the name in its handle, whoever has that name by then.
-/

namespace DocStore

theorem Model.perform_database (m : Model) (source : Source) (request : Request) :
    (m.perform source request).model.database = m.database := by
  simp only [perform]
  split
  · rename_i plan _
    cases plan with
    | load collection => rfl
    | commit c =>
      simp only [execute]
      split <;> rfl
  · rfl

namespace Realm

-- ---------------------------------------------------------------------------
-- Runs
-- ---------------------------------------------------------------------------

/-- The handle is one that the first database has given out. Its model may have lost its name since,
and may store other documents by now. -/
def Issued (r : Realm) (m : Model) : Prop :=
  ∃ held, r.model? m.handle.number = some held ∧ held.handle = m.handle ∧
    held.database = some 0 ∧ m.database = some 0

/-- The realms that calls on one database lead to. Any handle may be destroyed that was given out at
any time. -/
inductive Run : Realm → Prop
  | opened (settings : Settings) : Run (({} : Realm).openDatabase settings).1
  | register (run : Run r) (name : String) (schema : Schema) (behavior : Behavior) :
      Run (r.register 0 name schema behavior).1
  | load (run : Run r) (source : Source) (text : Option String) : Run (r.load 0 source text).2.1
  | destroy (run : Run r) (issued : r.Issued m) : Run (r.destroy m)

/-- Each registered name leads to a model of that name that belongs to the open database, and no
name comes up twice. -/
structure Sound (r : Realm) : Prop where
  database : ∃ d, r.databases[0]? = some d ∧ d.isOpen = true
  nodup : ((r.registry 0).map Prod.fst).Nodup
  numbered : ∀ i m, r.model? i = some m → m.handle.number = i
  named : ∀ name i, (name, i) ∈ r.registry 0 →
    ∃ m, r.model? i = some m ∧ m.handle.name = name ∧ m.database = some 0

variable {r : Realm} {m : Model} {name : String}

-- ---------------------------------------------------------------------------
-- Steps
-- ---------------------------------------------------------------------------

/-- Models are only added or stored anew, under the handles that they have. -/
structure Extends (r r' : Realm) : Prop where
  sound : r'.Sound
  issued : ∀ m, r.Issued m → r'.Issued m

theorem Extends.refl (sound : r.Sound) : Extends r r := ⟨sound, fun _ => id⟩

theorem Extends.trans {r' r'' : Realm} (first : Extends r r') (second : Extends r' r'') :
    Extends r r'' :=
  ⟨second.sound, fun m issued => second.issued m (first.issued m issued)⟩

theorem Sound.issued_of_lookUp? (sound : r.Sound) (found : r.lookUp? 0 name = some m) :
    r.Issued m := by
  obtain ⟨i, number, there⟩ := Option.bind_eq_some_iff.mp found
  obtain ⟨m', there', -, database⟩ := sound.named name i (mem_registry_of_lookup number)
  obtain rfl := Option.some.inj (there'.symm.trans there)
  exact ⟨_, sound.numbered i _ there ▸ there, rfl, database, database⟩

theorem Sound.putModel (sound : r.Sound) (issued : r.Issued m) : Extends r (r.putModel m) := by
  obtain ⟨held, there, handle, database, own⟩ := issued
  have model? := model?_putModel there
  refine ⟨⟨sound.database, sound.nodup, fun i other found => ?_, fun name i mem => ?_⟩,
    fun other issued => ?_⟩
  · rw [model?] at found
    split at found
    · rename_i same
      cases found
      exact same.symm
    · exact sound.numbered i other found
  · obtain ⟨other, found, named, database⟩ := sound.named name i mem
    rw [model?]
    split
    · rename_i same
      subst same
      obtain rfl := Option.some.inj (found.symm.trans there)
      exact ⟨m, rfl, handle ▸ named, own⟩
    · exact ⟨other, found, named, database⟩
  · obtain ⟨kept, found, same, rest⟩ := issued
    rw [Issued, model?]
    split
    · rename_i number
      rw [number] at found
      obtain rfl := Option.some.inj (found.symm.trans there)
      exact ⟨m, rfl, handle ▸ same, own, rest.2⟩
    · exact ⟨kept, found, same, rest⟩

theorem Sound.fresh_of_lookUp? (sound : r.Sound) (absent : r.lookUp? 0 name = none) :
    name ∉ (r.registry 0).map Prod.fst := by
  intro taken
  obtain ⟨e, mem, rfl⟩ := List.mem_map.mp taken
  cases number : (r.registry 0).lookup e.1 with
  | none => simpa using List.lookup_eq_none_iff.mp number _ mem
  | some j =>
    obtain ⟨m, there, -⟩ := sound.named e.1 j (mem_registry_of_lookup number)
    simp [lookUp?, number, there] at absent

theorem Sound.register (sound : r.Sound) (name : String) (schema : Schema) (behavior : Behavior) :
    Extends r (r.register 0 name schema behavior).1 ∧
      (r.register 0 name schema behavior).1.Issued (r.register 0 name schema behavior).2 := by
  cases found : r.lookUp? 0 name with
  | some m =>
    simp only [Realm.register, found]
    exact ⟨.refl sound, sound.issued_of_lookUp? found⟩
  | none =>
    obtain ⟨d, there, isOpen⟩ := sound.database
    have fresh := sound.fresh_of_lookUp? found
    have entries : (r.register 0 name schema behavior).1.registry 0 =
        r.registry 0 ++ [(name, r.models.length)] :=
      (registry_register found there schema behavior 0).trans (if_pos rfl)
    have model? := model?_register found schema behavior
    have kept (i : Nat) (m : Model) (known : r.model? i = some m) :
        (r.register 0 name schema behavior).1.model? i = some m := by
      rw [model?, if_neg (Nat.ne_of_lt (List.getElem?_eq_some_iff.mp known).1), known]
    obtain ⟨new, last, number, named, own⟩ : ∃ new, (r.register 0 name schema behavior).2 = new ∧
        new.handle.number = r.models.length ∧ new.handle.name = name ∧ new.database = some 0 := by
      rw [register_of_absent found]
      exact ⟨_, rfl, rfl, rfl, rfl⟩
    rw [last] at model? ⊢
    refine ⟨⟨⟨?_, ?_, fun i m known => ?_, fun other i mem => ?_⟩, fun m issued => ?_⟩,
      new, ?_, rfl, own, own⟩
    · rw [register_of_absent found]
      have there' : (r.newModel (some 0) name schema behavior).1.databases[0]? = some d := there
      exact ⟨_, databases_changeDatabase there' _, isOpen⟩
    · rw [entries, List.map_append]
      refine List.nodup_append.mpr ⟨sound.nodup, by simp, ?_⟩
      rintro a mem _ this rfl
      obtain rfl : a = name := List.mem_singleton.mp this
      exact fresh mem
    · rw [model?] at known
      split at known
      · rename_i same
        cases known
        rw [number, same]
      · exact sound.numbered i m known
    · rw [entries, List.mem_append] at mem
      rcases mem with mem | mem
      · obtain ⟨m, known, rest⟩ := sound.named other i mem
        exact ⟨m, kept i m known, rest⟩
      · cases List.mem_singleton.mp mem
        exact ⟨new, by rw [model?, if_pos rfl], named, own⟩
    · obtain ⟨m', known, rest⟩ := issued
      exact ⟨m', kept _ _ known, rest⟩
    · rw [number, model?, if_pos rfl]

theorem Sound.loadModels (sound : r.Sound) (source : Source) (file : List (String × List Json)) :
    Extends r (r.loadModels 0 source file).2 := by
  induction file generalizing r with
  | nil => exact .refl sound
  | cons e rest ih =>
    obtain ⟨name, docs⟩ := e
    obtain ⟨registered, held, there, handle, database, own⟩ :=
      sound.register name Schema.initial {}
    have stored : (r.register 0 name Schema.initial {}).1.Issued
        ((r.register 0 name Schema.initial {}).2.perform source (.load docs)).model := by
      refine ⟨held, ?_, ?_, database, (Model.perform_database ..).trans own⟩ <;>
        rw [Model.perform_handle]
      · exact there
      · exact handle
    have both := registered.trans (registered.sound.putModel stored)
    simp only [Realm.loadModels]
    split
    · exact both
    · exact both.trans (ih both.sound)

theorem Sound.load (sound : r.Sound) (source : Source) (text : Option String) :
    Extends r (r.load 0 source text).2.1 := by
  have loaded (file : DatabaseFile) := sound.loadModels source file.models
  simp only [Realm.load]
  split
  · exact .refl sound
  · exact .refl sound
  · simp only [loadText]
    split
    · exact .refl sound
    · rename_i file _
      have loaded := loaded file
      split
      · rename_i failed
        rwa [failed] at loaded
      · rename_i done
        rw [done] at loaded
        split <;> exact loaded

/-- What is taken away is the name in the handle. -/
theorem Sound.destroy_registry (sound : r.Sound) (issued : r.Issued m) :
    (r.destroy m).registry 0 = (r.registry 0).filter fun e => e.1 != m.handle.name := by
  obtain ⟨d, there, isOpen⟩ := sound.database
  obtain ⟨-, -, -, -, own⟩ := issued
  have owner : r.databaseOf? m = some 0 := by simp [databaseOf?, own, there, isOpen]
  obtain ⟨inside, first⟩ := List.getElem?_eq_some_iff.mp there
  simp [destroy, owner, changeDatabase, registry, inside, first]

theorem Sound.destroy (sound : r.Sound) (issued : r.Issued m) : Extends r (r.destroy m) := by
  have entries := sound.destroy_registry issued
  obtain ⟨d, there, isOpen⟩ := sound.database
  obtain ⟨inside, first⟩ := List.getElem?_eq_some_iff.mp there
  obtain ⟨-, -, -, -, own⟩ := issued
  have owner : r.databaseOf? m = some 0 := by simp [databaseOf?, own, there, isOpen]
  have model? (i : Nat) : (r.destroy m).model? i = r.model? i := by
    rw [Realm.destroy, owner]
    exact model?_changeDatabase ..
  refine ⟨⟨?_, ?_, fun i other known => ?_, fun name i mem => ?_⟩, fun other issued => ?_⟩
  · simp [Realm.destroy, owner, changeDatabase, inside, first, isOpen]
  · rw [entries]
    exact sound.nodup.sublist (List.filter_sublist.map Prod.fst)
  · exact sound.numbered i other (model? i ▸ known)
  · rw [entries] at mem
    rw [model?]
    exact sound.named name i (List.mem_filter.mp mem).1
  · rwa [Issued, model?]

-- ---------------------------------------------------------------------------
-- Destroying
-- ---------------------------------------------------------------------------

theorem Run.sound (run : Run r) : r.Sound := by
  induction run with
  | opened settings => exact ⟨⟨_, rfl, rfl⟩, .nil, by simp [model?, openDatabase], by
      simp [registry, openDatabase]⟩
  | register _ name schema behavior ih => exact (ih.register name schema behavior).1.sound
  | load _ source text ih => exact (ih.load source text).sound
  | destroy _ issued ih => exact (ih.destroy issued).sound

/-- A handle that is destroyed leads to no registered model any more. All other models stay
registered exactly if the name of the handle is free or still held by the model of the handle. -/
theorem Run.destroy_spares_iff (run : Run r) (issued : r.Issued m) :
    (∀ name i, (name, i) ∈ (r.destroy m).registry 0 → i ≠ m.handle.number) ∧
    ((∀ name i, (name, i) ∈ r.registry 0 → i ≠ m.handle.number →
        (name, i) ∈ (r.destroy m).registry 0) ↔
      ∀ i, (m.handle.name, i) ∈ r.registry 0 → i = m.handle.number) := by
  have entries := run.sound.destroy_registry issued
  have own (name : String) (mem : (name, m.handle.number) ∈ r.registry 0) :
      name = m.handle.name := by
    obtain ⟨held, there, handle, -⟩ := issued
    obtain ⟨other, there', named, -⟩ := run.sound.named name _ mem
    obtain rfl := Option.some.inj (there'.symm.trans there)
    rw [← named, handle]
  simp only [entries, List.mem_filter, bne_iff_ne]
  refine ⟨?_, fun spares i mem => ?_, fun free name i mem other => ⟨mem, ?_⟩⟩
  · rintro name i ⟨mem, ne⟩ rfl
    exact ne (own name mem)
  · exact Decidable.byContradiction fun other => (spares _ i mem other).2 rfl
  · rintro rfl
    exact other (free i mem)

/-- A name is registered again after its model was destroyed. Destroying that first model once more
takes the name away from the second one. -/
theorem destroy_of_stale :
    let start := (({} : Realm).openDatabase {}).1
    let first := start.register 0 "dogs" Schema.initial {}
    let second := (first.1.destroy first.2).register 0 "dogs" Schema.initial {}
    Run second.1 ∧ second.1.Issued first.2 ∧ second.2.handle.number ≠ first.2.handle.number ∧
      second.1.registry 0 = [("dogs", second.2.handle.number)] ∧
      (second.1.destroy first.2).registry 0 = [] := by
  intro start first second
  have opened : Run start := .opened {}
  obtain ⟨registered, issued⟩ := opened.sound.register "dogs" Schema.initial {}
  have destroyed := registered.sound.destroy issued
  have again := (destroyed.sound.register "dogs" Schema.initial {}).1
  refine ⟨?_, again.issued _ (destroyed.issued _ issued), by decide, by decide, by decide⟩
  exact ((opened.register "dogs" Schema.initial {}).destroy issued).register "dogs" _ {}

end Realm

end DocStore
