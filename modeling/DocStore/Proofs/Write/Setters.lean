import DocStore.Proofs.Schema.Declare
import DocStore.Proofs.Schema.Name
import DocStore.Proofs.Write.Stored

/-!
# Stored documents and setters

A setter may write where nothing is checked any more. Where it does not, every stored document
conforms to the schema; where it does, what a write has let pass a report finds fault with.
-/

namespace DocStore.Model

variable {m : Model} {source : Source} {id : String} {fields doc : Fields}

/-- Where every pass shelters what it checked, stored documents conform to the schema. -/
theorem Reachable.conforms (reached : m.Reachable)
    (distinct : (m.schema.entries.map Prod.fst).Nodup)
    (shelters : m.schema.Shelters) (mem : (id, some doc) ∈ m.collection.slots) :
    m.schema.Conforms id doc := by
  obtain ⟨change, admits⟩ := reached.stocked.admitted id doc mem
  cases admits with
  | named source fields named checked => exact shelters source fields id doc named checked
  | given later given again =>
    have known : id ∈ m.collection.order := List.mem_map.mpr ⟨_, mem, rfl⟩
    obtain ⟨first, inserted⟩ := reached.stocked.issued id known
    cases inserted with
    | named source fields named checked =>
      exact shelters.conforms_of_given distinct named checked again

/-- A document that passes is stored, if no hook is against it. -/
theorem exists_reachable (schema : Schema)
    (named : idOf (schema.fill (source.branch 0) fields) = some id)
    (checked : schema.check (schema.fill (source.branch 0) fields) = (.ok (), doc)) :
    ∃ m : Model, m.Reachable ∧ m.schema = schema ∧ (id, some doc) ∈ m.collection.slots := by
  let empty : Model := { handle := ⟨0, "", schema⟩ }
  have planned : empty.prepare (.insert (.object fields)) >>= empty.plan source =
      .ok (empty.storing source .insert id doc) := by
    have checked : empty.checked (empty.schema.fill (source.branch 0) fields) = .ok doc := by
      simp only [Model.checked, show empty.schema = schema from rfl, checked]
    have unused : empty.collection.contains id = false := rfl
    simp only [prepare, membersOf, Except.map, bind, Except.bind, plan, planInsert,
      show empty.schema = schema from rfl] at checked ⊢
    simp only [named, unused, checked, Bool.false_eq_true, if_false]
  refine ⟨(empty.perform source (.insert (.object fields))).model,
    .write (.empty rfl) source trivial, by rw [Model.schema, perform_handle], ?_⟩
  simp only [perform, planned]
  exact List.mem_singleton.mpr rfl

/-- Stored documents conform to a schema exactly when its passes shelter what they checked, as they
do if no setter writes where checking is over. -/
theorem stored_conforms_iff (schema : Schema) (distinct : (schema.entries.map Prod.fst).Nodup) :
    ((∀ m : Model, m.Reachable → m.schema = schema → ∀ id doc,
      (id, some doc) ∈ m.collection.slots → schema.Conforms id doc) ↔ schema.Shelters) ∧
    (schema.Steady → schema.Shelters) := by
  refine ⟨⟨fun conforms source fields id doc named checked => ?_,
    fun shelters m reached same => ?_⟩, Schema.Steady.shelters⟩
  · obtain ⟨m, reached, same, mem⟩ := exists_reachable schema named checked
    exact conforms m reached same id doc mem
  · subst same
    exact fun id doc mem => reached.conforms distinct shelters mem

/-- A virtual field that is assigned to a number declared after it. -/
theorem stored_conforms_iff_in_order :
    let years : VirtualField := { setter := some fun doc v => doc.set ⟨"age", []⟩ v }
    let schema := Schema.initial.declareAll
      [(⟨"years", []⟩, .ofKind (.virtual years)), (⟨"age", []⟩, .ofKind .number)]
    let empty : Model := { handle := ⟨0, "pets", schema⟩ }
    let source : Source := ⟨fun _ => 0, ⟨0, 0⟩, []⟩
    let m := (empty.perform source (.insert (.object [("_id", .string "a"),
      ("years", .number (Number.ofNat 3))]))).model
    let doc : Fields := [("_id", .string "a"), ("age", .number (Number.ofNat 3))]
    (schema.entries.map Prod.fst).Nodup ∧ schema.Steady ∧
      m.Reachable ∧ ("a", some doc) ∈ m.collection.slots ∧ schema.Conforms "a" doc := by
  intro years schema empty source m doc
  have reached : m.Reachable := .write (.empty rfl) source trivial
  have slots : m.collection.slots = [("a", some doc)] := rfl
  have mem : ("a", some doc) ∈ m.collection.slots := by simp [slots]
  have steady : schema.Steady := by
    have entries : schema.entries = [(idPath, .leaf (.id .nanoid) { required := true }),
        (⟨"years", []⟩, .ofKind (.virtual years)), (⟨"age", []⟩, .ofKind .number)] := rfl
    have apart : Path.Parts ⟨"years", []⟩ idPath := Path.parts_single.mpr (by decide)
    have frame : ∀ v doc, (years.assign v doc).at? idPath = doc.at? idPath := by
      intro v doc
      cases v <;> first | rfl | exact Fields.at?_set_of_parts (Path.parts_single.mpr (by decide))
    have unset : ∀ earlier : Path × FieldType,
        ¬ Schema.Touches (⟨"age", []⟩, .ofKind .number) earlier := by
      simp [Schema.Touches, FieldType.virtuals, FieldType.ofKind]
    constructor <;> rw [entries]
    · refine .cons ?_ (.cons ?_ (.cons (by simp) .nil))
      · exact List.forall_mem_cons.mpr ⟨fun _ => Schema.spares_of_frame apart frame,
          by simp [unset]⟩
      · simp [unset]
    · simp only [List.forall_mem_cons]
      refine ⟨by simp [FieldType.virtuals], fun _ => Schema.keepsId_of_frame apart frame,
        by simp [FieldType.virtuals, FieldType.ofKind], by simp⟩
  have distinct : (schema.entries.map Prod.fst).Nodup := Schema.distinct_declareAll _
  obtain ⟨exact, enough⟩ := stored_conforms_iff schema distinct
  exact ⟨distinct, steady, reached, mem, exact.mpr (enough steady) m reached rfl "a" doc mem⟩

/-- The same field declared after the number: a text is stored as the age. -/
theorem not_conforms_out_of_order :
    let years : VirtualField := { setter := some fun doc v => doc.set ⟨"age", []⟩ v }
    let schema := Schema.initial.declareAll
      [(⟨"age", []⟩, .ofKind .number), (⟨"years", []⟩, .ofKind (.virtual years))]
    let empty : Model := { handle := ⟨0, "pets", schema⟩ }
    let source : Source := ⟨fun _ => 0, ⟨0, 0⟩, []⟩
    let m := (empty.perform source (.insert (.object [("_id", .string "a"),
      ("years", .string "three")]))).model
    let doc : Fields := [("_id", .string "a"), ("age", .string "three")]
    m.Reachable ∧ ("a", some doc) ∈ m.collection.slots ∧ ¬ m.schema.Conforms "a" doc := by
  intro years schema empty source m doc
  have reached : m.Reachable := .write (.empty rfl) source trivial
  have slots : m.collection.slots = [("a", some doc)] := rfl
  refine ⟨reached, by simp [slots], fun conforms => ?_⟩
  have same : m.schema = empty.schema := congrArg ModelHandle.schema (perform_handle ..)
  have entries : empty.schema.entries = [(idPath, .leaf (.id .nanoid) { required := true }),
      (⟨"age", []⟩, .ofKind .number), (⟨"years", []⟩, .ofKind (.virtual years))] := rfl
  have age := conforms.sound (⟨"age", []⟩, .ofKind .number) (by simp [same, entries])
  cases age

end DocStore.Model
