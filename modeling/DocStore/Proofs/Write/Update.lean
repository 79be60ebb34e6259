import DocStore.Proofs.Schema.Mutation
import DocStore.Proofs.Write.Stored

/-!
# What an update changes

The mutations of an update write their own paths and those they rename to. What a stored document
holds apart from these and from the id, it holds after the update; and no other document changes.
-/

namespace DocStore

-- ---------------------------------------------------------------------------
-- Mutations
-- ---------------------------------------------------------------------------

namespace Mutation

variable {mutations : List Mutation} {touched : List Path} {before doc out : Fields}

theorem applyAll_keepsApart (h : applyAll mutations doc = (.ok (), out))
    (within : mutations.flatMap targets ⊆ touched)
    (keeps : Fields.KeepsApart touched before doc) : Fields.KeepsApart touched before out :=
  applyAll_preserves (fun _ mem v _ keeps => keeps.set (within mem) v)
    (fun _ mem _ keeps => keeps.remove (within mem)) h keeps

end Mutation

-- ---------------------------------------------------------------------------
-- The update of a stored document
-- ---------------------------------------------------------------------------

namespace Model

variable {m : Model} {source : Source} {id : String} {update : Value} {doc : Fields}
  {mutations : List Mutation}

/-- An update leaves the collection as it is, or stores under the id what the mutations made of the
document, filled and checked. -/
theorem perform_update (stored : m.collection.find? id = some doc)
    (compiled : m.schema.compileUpdate update = .ok mutations) (source : Source) :
    (m.perform source (.update id update)).model.collection = m.collection ∨
    ∃ changed out, Mutation.applyAll mutations doc = (.ok (), changed) ∧
      m.schema.check (m.schema.fill (source.branch 0) (changed.set idPath (.string id)))
        = (.ok (), out) ∧
      (m.perform source (.update id update)).model.collection = m.collection.put id out := by
  cases planned : m.prepare (.update id update) >>= m.plan source with
  | error e => exact .inl (by simp only [perform, planned])
  | ok p =>
    obtain ⟨job, prepared, plan⟩ := bind_eq_ok.mp planned
    obtain rfl : .update id mutations = job := by
      simpa [prepare, compiled, Except.map] using prepared
    simp only [Model.plan, stored] at plan
    split at plan
    · rename_i changed applied
      simp only [planReplace, bind_eq_ok, Except.ok.injEq] at plan
      obtain ⟨out, checked, rfl⟩ := plan
      simp only [perform, planned]
      exact (m.execute_collection _).imp_right fun put =>
        ⟨changed, out, applied, checked_eq_ok checked, put⟩
    · simp at plan

/-- What a stored document holds apart from the id and from the paths that the mutations of an update
write, it holds after the update, present or absent; and no other document changes, nor does the
order or the number of documents. So it is whether the update is committed or comes to nothing. -/
theorem Reachable.update_frame (reached : m.Reachable) (plain : m.schema.Plain)
    (stored : m.collection.find? id = some doc)
    (compiled : m.schema.compileUpdate update = .ok mutations) (source : Source) :
    let after := (m.perform source (.update id update)).model.collection
    (∃ out, after.find? id = some out ∧
      ∀ q : Path, q.IsApartFrom (idPath :: mutations.flatMap Mutation.targets) →
        out.at? q = doc.at? q) ∧
      (∀ other ≠ id, after.slot? other = m.collection.slot? other) ∧
      after.order = m.collection.order ∧ after.size = m.collection.size := by
  intro after
  have used : m.collection.contains id = true := contains_of_find? stored
  rcases perform_update stored compiled source with same | ⟨changed, out, applied, checked, put⟩
  · rw [show after = m.collection from same]
    exact ⟨⟨doc, stored, fun _ _ => rfl⟩, fun _ _ => rfl, rfl, rfl⟩
  rw [show after = m.collection.put id out from put]
  have settled := reached.settles plain (Collection.mem_live_of_find? stored)
  have mutated := Mutation.applyAll_keepsApart applied
    (List.subset_cons_self idPath (mutations.flatMap Mutation.targets)) (.refl doc)
  have keeps := plain.keepsApart settled (mutated.set List.mem_cons_self (.string id)) checked
  refine ⟨⟨out, ?_, keeps.same⟩, fun other ne => Collection.slot?_put_of_ne ne, ?_, ?_⟩
  · simp [Collection.find?_eq_join]
  · rw [Collection.order_put, if_pos (Collection.mem_order used)]
  · simp [Collection.put, used]

/-- A note is moved into an object in which a field is set; the field beside both stays. -/
theorem Reachable.update_frame_renamed :
    let schema := Schema.initial.declareAll
      [(⟨"pet", ["kind"]⟩, .ofKind .string), (⟨"pet", ["name"]⟩, .ofKind .string)]
    let empty : Model := { handle := ⟨0, "pets", schema⟩ }
    let source : Source := ⟨fun _ => 0, ⟨0, 0⟩, []⟩
    let pet : Value := .object [("kind", .string "dog"), ("name", .string "Rex")]
    let doc : Fields := [("_id", .string "a"), ("pet", pet), ("note", .string "shy")]
    let m := (empty.perform source (.insert (.object doc))).model
    let update : Value := .object [("$rename", .object [("note", .string "pet.memo")]),
      ("pet", .object [("kind", .string "wolf")])]
    let mutations : List Mutation :=
      [.operator ⟨"note", []⟩ .mixed .rename (.string "pet.memo"),
        .set ⟨"pet", ["kind"]⟩ (.string "wolf")]
    let after := (m.perform source (.update "a" update)).model.collection
    m.Reachable ∧ m.schema.Plain ∧ m.collection.find? "a" = some doc ∧
      m.schema.compileUpdate update = .ok mutations ∧
      Path.IsApartFrom ⟨"pet", ["name"]⟩ (idPath :: mutations.flatMap Mutation.targets) ∧
      ∃ out, after.find? "a" = some out ∧ out.at? ⟨"pet", ["name"]⟩ = some (.string "Rex") ∧
        after.order = ["a"] ∧ after.size = 1 := by
  intro schema empty source pet doc m update mutations after
  have reached : m.Reachable := .write (.empty rfl) source trivial
  have same : m.schema = empty.schema := congrArg ModelHandle.schema (perform_handle ..)
  have plain : m.schema.Plain := by
    have entries : empty.schema.entries = [(idPath, .leaf (.id .nanoid) { required := true }),
        (⟨"pet", []⟩, .ofKind .object), (⟨"pet", ["kind"]⟩, .ofKind .string),
        (⟨"pet", ["name"]⟩, .ofKind .string)] := rfl
    constructor <;> rw [same, entries]
    · simp [FieldType.virtuals, FieldType.ofKind]
    · simp [FieldType.IsOpen, FieldType.ofKind, idPath]
  have inserted : m.collection = { slots := [("a", some doc)], size := 1 } := by
    simp only [m, empty, source, doc, pet, schema]
    cbv
  have stored : m.collection.find? "a" = some doc := by simp [inserted, Collection.find?]
  have compiled : m.schema.compileUpdate update = .ok mutations := by
    rw [same]
    simp only [empty, update, mutations, schema]
    cbv
  have apart : Path.IsApartFrom ⟨"pet", ["name"]⟩
      (idPath :: mutations.flatMap Mutation.targets) := by
    have target : Path.ofText "pet.memo" = ⟨"pet", ["memo"]⟩ := by cbv
    simp [mutations, Path.IsApartFrom, Mutation.targets, target, idPath, Path.parts_single,
      Path.parts_cons]
  have held : doc.at? ⟨"pet", ["name"]⟩ = some (.string "Rex") := by
    simp only [doc, pet]
    cbv
  obtain ⟨⟨out, found, keeps⟩, -, order, size⟩ :=
    Reachable.update_frame reached plain stored compiled source
  rw [inserted] at order size
  exact ⟨reached, plain, stored, compiled, apart, out, found, (keeps _ apart).trans held, order, size⟩

end Model

end DocStore
