import DocStore.Proofs.Schema.Abreast
import DocStore.Proofs.Schema.Name
import DocStore.Proofs.Write.Update

/-!
# Two updates and one

Two updates are made one after the other, or both at once. One after the other, the document is
brought into form in between, and the operators of the later update may find something else there.
Where they leave the same in spite of that, the document that is stored in the end is the same.
-/

namespace DocStore

open Fields

variable {touched wider : List Path} {mutations first second : List Mutation} {schema : Schema}
  {doc raw formed both last out before a b : Fields} {q : Path} {v : Value} {source : Source}
  {m : Model} {id : String} {update : Value} {c : Commit}

-- ---------------------------------------------------------------------------
-- The id beside other paths
-- ---------------------------------------------------------------------------

namespace Model

theorem planReplace_ok_iff {plan : Plan} : m.planReplace source id doc = .ok plan ↔
    ∃ out, m.schema.check (m.schema.fill (source.branch 0) (doc.set idPath (.string id)))
      = (.ok (), out) ∧ m.storing source .update id out = plan := by
  unfold planReplace
  rw [bind_eq_ok]
  constructor
  · rintro ⟨out, checked, done⟩
    exact ⟨out, checked_eq_ok checked, Except.ok.inj done⟩
  · rintro ⟨out, checked, rfl⟩
    refine ⟨out, ?_, rfl⟩
    unfold Model.checked
    rw [show doc.insert idPath.head (.string id) = doc.set idPath (.string id) from rfl, checked]

theorem perform_update_eq (stored : m.collection.find? id = some doc)
    (compiled : m.schema.compileUpdate update = .ok mutations) (source : Source) :
    m.prepare (.update id update) >>= m.plan source = match Mutation.applyAll mutations doc with
      | (.ok (), changed) => m.planReplace source id changed
      | (.error e, _) => .error e := by
  simp only [prepare, compiled]
  change m.plan source (.update id mutations) = _
  cases applied : Mutation.applyAll mutations doc with
  | mk result changed =>
    cases result with
    | error e => simp only [Model.plan, stored, applied]
    | ok u => simp only [Model.plan, stored, applied]

/-- What an update that is answered stores. -/
structure Rewrites (m : Model) (source : Source) (id : String) (update : Value) (d : Document)
    (out : Fields) : Prop where
  makes : ∃ mutations doc changed, m.schema.compileUpdate update = .ok mutations ∧
    m.collection.find? id = some doc ∧ Mutation.applyAll mutations doc = (.ok (), changed) ∧
    m.schema.check (m.schema.fill (source.branch 0) (changed.set idPath (.string id)))
      = (.ok (), out)
  passes : m.Passes .save d
  document : m.documentOf (source.branch 1) out = d

theorem Rewrites.congr {c : Collection} (rewrites : Rewrites { m with collection := c } source id
    update d out) (same : c.find? id = m.collection.find? id) :
    m.Rewrites source id update d out := by
  obtain ⟨⟨mutations, doc, changed, compiled, stored, applied, checked⟩, passes, document⟩ :=
    rewrites
  exact ⟨⟨mutations, doc, changed, compiled, same ▸ stored, applied, checked⟩, passes, document⟩

theorem Rewrites.perform (rewrites : m.Rewrites source id update d out) :
    (m.perform source (.update id update)).result = .ok (some d) ∧
      (m.perform source (.update id update)).model =
        { m with collection := m.collection.put id out } := by
  obtain ⟨⟨mutations, doc, changed, compiled, stored, applied, checked⟩, passes, rfl⟩ := rewrites
  have planned : m.prepare (.update id update) >>= m.plan source
      = .ok (m.storing source .update id out) := by
    rw [perform_update_eq stored compiled source, applied]
    exact planReplace_ok_iff.mpr ⟨out, checked, rfl⟩
  simp only [Model.perform, planned]
  exact ⟨execute_ok_iff.mpr ⟨passes, rfl⟩, execute_model passes⟩

theorem rewrites_of_perform {answer : Option Document}
    (ok : (m.perform source (.update id update)).result = .ok answer) :
    ∃ d out, answer = some d ∧ m.Rewrites source id update d out := by
  cases planned : m.prepare (.update id update) >>= m.plan source with
  | error e =>
    simp only [Model.perform, planned] at ok
    cases ok
  | ok plan =>
    simp only [Model.perform, planned] at ok
    obtain ⟨job, prepared, plan⟩ := bind_eq_ok.mp planned
    obtain ⟨mutations, compiled, rfl⟩ := map_eq_ok.mp prepared
    cases stored : m.collection.find? id with
    | none =>
      simp only [Model.plan, stored] at plan
      cases plan
    | some doc =>
      rw [perform_update_eq stored compiled source] at planned
      split at planned
      · rename_i changed applied
        obtain ⟨out, checked, rfl⟩ := planReplace_ok_iff.mp planned
        obtain ⟨passes, shown⟩ := execute_ok_iff.mp ok
        exact ⟨_, out, shown.symm,
          ⟨⟨mutations, doc, changed, compiled, stored, applied, checked⟩, passes, rfl⟩⟩
      · cases planned

/-- What an update makes of a stored document. -/
structure Makes (m : Model) (source : Source) (id : String) (mutations : List Mutation)
    (doc changed out : Fields) : Prop where
  applied : Mutation.applyAll mutations doc = (.ok (), changed)
  checked : m.schema.check (m.schema.fill (source.branch 0) (changed.set idPath (.string id)))
    = (.ok (), out)
  passes : m.Passes .save (.ofFields m.handle out)

theorem documentOf_settled (plain : m.schema.Plain)
    (checked : m.schema.check (m.schema.fill source doc) = (.ok (), out)) (other : Source) :
    m.documentOf other out = .ofFields m.handle out := by
  unfold documentOf
  rw [(plain.settled checked other).1]

theorem Makes.rewrites {changed : Fields} (makes : m.Makes source id mutations doc changed out)
    (plain : m.schema.Plain) (stored : m.collection.find? id = some doc)
    (compiled : m.schema.compileUpdate update = .ok mutations) :
    m.Rewrites source id update (.ofFields m.handle out) out := by
  obtain ⟨applied, checked, passes⟩ := makes
  exact ⟨⟨mutations, doc, changed, compiled, stored, applied, checked⟩, passes,
    documentOf_settled plain checked _⟩

/-- An update whose outcome is not refused is answered by it and stores it. -/
theorem Makes.perform {changed : Fields} (makes : m.Makes source id mutations doc changed out)
    (plain : m.schema.Plain) (stored : m.collection.find? id = some doc)
    (compiled : m.schema.compileUpdate update = .ok mutations) :
    let outcome := m.perform source (.update id update)
    outcome.result = .ok (some (.ofFields m.handle out)) ∧
      outcome.model = { m with collection := m.collection.put id out } :=
  (makes.rewrites plain stored compiled).perform

end Model

end DocStore
