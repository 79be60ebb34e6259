import DocStore.Proofs.Collection
import DocStore.Proofs.FieldType.Validate
import DocStore.Write

/-!
# What a write is going to do

A request on one document comes to a plan under the lock, or it is refused for one of a few reasons.
A plan tells beforehand which slot is written and what hooks and listeners are shown.
-/

namespace DocStore

namespace Request

/-- A write of one document, which is anything but a load. -/
def IsById : Request → Prop
  | .load _ => False
  | _ => True

/-- The id that a request names. An inserted or saved document has its own. -/
def id? : Request → Option String
  | .update id _ | .replace id _ | .remove id => some id
  | _ => none

/-- The changes that a request may come to. -/
def changes : Request → List Change
  | .insert _ => [.insert]
  | .save _ => [.insert, .update]
  | .update .. | .replace .. => [.update]
  | .remove _ => [.remove]
  | .load _ => []

end Request

/-- Why a request is refused before any hook has run. -/
inductive Model.Refuses (m : Model) (request : Request) : Error → Prop
  | notAnObject (found) : m.Refuses request (.usage (.documentNotAnObject found))
  | updateNotAnObject (found) : m.Refuses request (.usage (.updateNotAnObject found))
  | operandsNotAnObject (key) : m.Refuses request (.usage (.operandsNotAnObject key))
  | idUndefined : m.Refuses request .idUndefined
  | idExists {id : String} (used : m.collection.contains id = true) :
      m.Refuses request (.idExists id)
  | idMissing {id : String} (named : request.id? = some id)
      (unused : m.collection.contains id = false) : m.Refuses request (.idMissing id)
  | invalid (path) (fault) : m.Refuses request (.validation path fault)

/-- The commit does what the request asks for, on the collection as it is. -/
structure Commit.Fits (c : Commit) (m : Model) (source : Source) (request : Request) : Prop where
  change : c.change ∈ request.changes
  named : ∀ id, request.id? = some id → c.id = id
  /-- Only an insertion finds the id unused. -/
  used : m.collection.contains c.id = true ↔ c.change ≠ .insert
  document : c.document = m.documentOf (source.branch 1) c.fields
  removed : c.change = .remove → m.collection.find? c.id = some c.fields

/-- What the schema lets be stored under an id: fields that were filled and checked. Inserted ones
have their id by then, others were given it before. -/
inductive Schema.Admits (schema : Schema) (id : String) (out : Fields) : Change → Prop
  | named (source : Source) (fields : Fields)
      (named : idOf (schema.fill (source.branch 0) fields) = some id)
      (checked : schema.check (schema.fill (source.branch 0) fields) = (.ok (), out)) :
      schema.Admits id out .insert
  | given (source : Source) (fields : Fields)
      (checked : schema.check (schema.fill (source.branch 0)
        (fields.insert idPath.head (.string id))) = (.ok (), out)) : schema.Admits id out .update

variable {m : Model} {source : Source} {request : Request} {id : String} {fields : Fields}
  {e : Error}

-- ---------------------------------------------------------------------------
-- Reasons
-- ---------------------------------------------------------------------------

theorem membersOf_error (h : membersOf v = .error e) :
    ∃ found, e = .usage (.documentNotAnObject found) := by
  cases v <;> simp only [membersOf, Except.error.injEq, reduceCtorEq] at h
  all_goals exact ⟨_, h.symm⟩

theorem Schema.mutationsOfMember_error {schema : Schema}
    (h : schema.mutationsOfMember key v = .error e) :
    e = .usage (.operandsNotAnObject key) := by
  simp only [mutationsOfMember] at h
  repeat' split at h
  all_goals simp only [Except.error.injEq, reduceCtorEq] at h
  exact h.symm

theorem Schema.compileUpdate_error {schema : Schema} (h : schema.compileUpdate update = .error e) :
    (∃ found, e = .usage (.updateNotAnObject found)) ∨
      ∃ key, e = .usage (.operandsNotAnObject key) := by
  cases update with
  | object fields =>
    refine .inr ?_
    simp only [compileUpdate, bind_eq_error, reduceCtorEq, and_false, exists_false, or_false] at h
    induction fields with
    | nil => simp [pure, Except.pure] at h
    | cons member rest ih =>
      simp only [List.mapM_cons, bind_eq_error, pure, Except.pure, reduceCtorEq, and_false,
        exists_false, or_false] at h
      rcases h with h | ⟨_, -, h⟩
      · exact ⟨member.1, mutationsOfMember_error h⟩
      · exact ih h
  | _ =>
    simp only [compileUpdate, Except.error.injEq] at h
    exact .inl ⟨_, h.symm⟩

theorem Value.updateNumber_error {v operand : Value}
    (h : v.updateNumber path op operand = .error e) :
    ∃ fault, e = .validation path fault := by
  cases operand <;> simp only [updateNumber, Except.error.injEq, reduceCtorEq] at h
  all_goals exact ⟨_, h.symm⟩

theorem Value.updateDate_error {v operand : Value} (h : v.updateDate path op operand = .error e) :
    ∃ fault, e = .validation path fault := by
  simp only [updateDate] at h
  repeat' split at h
  all_goals simp only [Except.error.injEq, reduceCtorEq] at h
  all_goals exact ⟨_, h.symm⟩

theorem FieldType.update_error {type : FieldType}
    (h : type.update path op v operand doc = .error e) :
    ∃ fault, e = .validation path fault := by
  simp only [update] at h
  split at h
  · split at h
    · simp at h
    · simp at h
    · split at h <;> simp only [Except.error.injEq, reduceCtorEq] at h
      exact ⟨_, h.symm⟩
    · split at h
      · simp at h
      · exact Value.updateDate_error (map_eq_error.mp h)
      · exact Value.updateNumber_error (map_eq_error.mp h)
  · simp at h

theorem Mutation.applyAll_error {mutations : List Mutation}
    (h : (applyAll mutations doc).1 = .error e) : ∃ path fault, e = .validation path fault := by
  induction mutations generalizing doc with
  | nil => simp [applyAll] at h
  | cons mutation rest ih =>
    cases hm : mutation.apply doc with
    | ok doc' =>
      simp only [applyAll, hm] at h
      exact ih h
    | error e' =>
      simp only [applyAll, hm, Except.error.injEq] at h
      subst h
      cases mutation with
      | set path v => simp [apply] at hm
      | operator path type op operand =>
        simp only [apply, bind_eq_error, reduceCtorEq, and_false, exists_false, or_false] at hm
        exact ⟨path, FieldType.update_error hm⟩

theorem Schema.checkEntry_error (h : (checkEntry entry doc).1 = .error e) :
    ∃ fault, e = .validation entry.1 fault := by
  simp only [checkEntry] at h
  split at h
  · rename_i hv
    obtain rfl := Except.error.inj h
    exact FieldType.validate_error (by rw [hv])
  · simp at h

theorem Schema.check_error {schema : Schema} (h : (schema.check doc).1 = .error e) :
    ∃ path fault, e = .validation path fault := by
  obtain ⟨all⟩ := schema
  simp only [check] at h
  induction all generalizing doc with
  | nil => simp [checkEntries] at h
  | cons entry rest ih =>
    simp only [checkEntries] at h
    split at h
    · rename_i hc
      obtain rfl := Except.error.inj h
      exact ⟨_, checkEntry_error (by rw [hc])⟩
    · exact ih h

theorem Model.checked_eq_ok (h : m.checked fields = .ok out) :
    m.schema.check fields = (.ok (), out) := by
  simp only [checked] at h
  split at h <;> simp_all

theorem Model.checked_error (h : m.checked fields = .error e) :
    ∃ path fault, e = .validation path fault := by
  simp only [checked] at h
  split at h
  · simp at h
  · rename_i hc
    obtain rfl := Except.error.inj h
    exact Schema.check_error (by rw [hc])

-- ---------------------------------------------------------------------------
-- Plans
-- ---------------------------------------------------------------------------

namespace Model

theorem planInsert_cases (m : Model) (source : Source) (fields : Fields) (request : Request) :
    (∃ e, m.planInsert source fields = .error e ∧ m.Refuses request e) ∨
    ∃ id out, m.planInsert source fields = .ok (m.storing source .insert id out) ∧
      m.collection.contains id = false ∧ m.schema.Admits id out .insert := by
  cases named : idOf (m.schema.fill (source.branch 0) fields) with
  | none => exact .inl ⟨_, by simp only [planInsert, named], .idUndefined⟩
  | some id =>
    cases used : m.collection.contains id with
    | true => exact .inl ⟨_, by simp only [planInsert, named, used, if_true], .idExists used⟩
    | false =>
      cases hc : m.checked (m.schema.fill (source.branch 0) fields) with
      | error e =>
        obtain ⟨path, fault, rfl⟩ := checked_error hc
        refine .inl ⟨.validation path fault, ?_, .invalid path fault⟩
        simp [planInsert, named, used, hc, bind, Except.bind]
      | ok out =>
        refine .inr ⟨id, out, ?_, used, .named _ fields named (checked_eq_ok hc)⟩
        simp [planInsert, named, used, hc, bind, Except.bind]

theorem planReplace_cases (m : Model) (source : Source) (id : String) (fields : Fields)
    (request : Request) :
    (∃ e, m.planReplace source id fields = .error e ∧ m.Refuses request e) ∨
    ∃ out, m.planReplace source id fields = .ok (m.storing source .update id out) ∧
      m.schema.Admits id out .update := by
  cases hc : m.checked (m.schema.fill (source.branch 0)
    (fields.insert idPath.head (.string id))) with
  | error e =>
    obtain ⟨path, fault, rfl⟩ := checked_error hc
    refine .inl ⟨.validation path fault, ?_, .invalid path fault⟩
    simp [planReplace, hc, bind, Except.bind]
  | ok out =>
    refine .inr ⟨out, ?_, .given _ fields (checked_eq_ok hc)⟩
    simp [planReplace, hc, bind, Except.bind]

def Plans (m : Model) (source : Source) (request : Request) (result : Except Error Plan) : Prop :=
  (∃ e, result = .error e ∧ m.Refuses request e) ∨
  ∃ c, result = .ok (.commit c) ∧ c.Fits m source request ∧
    (c.change ≠ .remove → m.schema.Admits c.id c.fields c.change)

theorem plans_planInsert (may : .insert ∈ request.changes) (unnamed : request.id? = none) :
    m.Plans source request (m.planInsert source fields) := by
  rcases m.planInsert_cases source fields request with refused | ⟨id, out, hp, unused, admits⟩
  · exact .inl refused
  · exact .inr ⟨_, hp, ⟨may, by simp [unnamed], by simp [unused], rfl, by simp⟩, fun _ => admits⟩

theorem plans_planReplace (may : .update ∈ request.changes)
    (named : ∀ i, request.id? = some i → id = i) (used : m.collection.contains id = true) :
    m.Plans source request (m.planReplace source id fields) := by
  rcases m.planReplace_cases source id fields request with refused | ⟨out, hp, admits⟩
  · exact .inl refused
  · exact .inr ⟨_, hp, ⟨may, named, by simp [used], rfl, by simp⟩, fun _ => admits⟩

theorem contains_of_find? (h : m.collection.find? id = some fields) :
    m.collection.contains id = true := by
  simp [Collection.contains, h]

theorem plans_membersOf {job : Fields → Job}
    (each : ∀ fields, m.Plans source request (m.plan source (job fields))) :
    m.Plans source request ((membersOf doc).map job >>= m.plan source) := by
  cases hd : membersOf doc with
  | error e =>
    obtain ⟨found, rfl⟩ := membersOf_error hd
    exact .inl ⟨_, rfl, .notAnObject found⟩
  | ok fields => exact each fields

theorem plans_save (fields : Fields) :
    m.Plans source (.save doc) (m.plan source (.save fields)) := by
  simp only [plan]
  split
  · rename_i found
    exact plans_planReplace (by simp [Request.changes]) (by simp [Request.id?])
      (Option.filter_eq_some_iff.mp found).2
  · exact plans_planInsert (by simp [Request.changes]) rfl

theorem plans_update (mutations : List Mutation) :
    m.Plans source (.update id update) (m.plan source (.update id mutations)) := by
  simp only [plan]
  split
  · rename_i missing
    exact .inl ⟨_, rfl, .idMissing rfl (by simp [Collection.contains, missing])⟩
  · rename_i stored found
    split
    · exact plans_planReplace (by simp [Request.changes]) (by simp [Request.id?])
        (contains_of_find? found)
    · rename_i e fields failed
      obtain ⟨path, fault, rfl⟩ := Mutation.applyAll_error (congrArg Prod.fst failed)
      exact .inl ⟨_, rfl, .invalid path fault⟩

theorem plans_replace (fields : Fields) :
    m.Plans source (.replace id doc) (m.plan source (.replace id fields)) := by
  simp only [plan]
  split
  · rename_i used
    exact plans_planReplace (by simp [Request.changes]) (by simp [Request.id?]) used
  · rename_i unused
    exact .inl ⟨_, rfl, .idMissing rfl (Bool.eq_false_iff.mpr unused)⟩

theorem plans_remove : m.Plans source (.remove id) (m.plan source (.remove id)) := by
  simp only [plan]
  split
  · rename_i missing
    exact .inl ⟨_, rfl, .idMissing rfl (by simp [Collection.contains, missing])⟩
  · rename_i stored found
    refine .inr ⟨_, rfl, ⟨by simp [Request.changes], by simp [Request.id?], ?_, rfl, ?_⟩, by simp⟩
    · simp [contains_of_find? found]
    · simpa using found

/-- What every request on one document comes to. -/
theorem plans (m : Model) (source : Source) (byId : request.IsById) :
    m.Plans source request (m.prepare request >>= m.plan source) := by
  cases request with
  | insert doc =>
    exact plans_membersOf fun _ => plans_planInsert (by simp [Request.changes]) rfl
  | save doc => exact plans_membersOf plans_save
  | update id update =>
    cases hu : m.schema.compileUpdate update with
    | error e =>
      refine .inl ⟨e, by simp [prepare, hu, Except.map, bind, Except.bind], ?_⟩
      rcases Schema.compileUpdate_error hu with ⟨found, rfl⟩ | ⟨key, rfl⟩
      · exact .updateNotAnObject found
      · exact .operandsNotAnObject key
    | ok mutations =>
      simp only [prepare, hu]
      exact plans_update mutations
  | replace id doc => exact plans_membersOf plans_replace
  | remove id => exact plans_remove
  | load docs => exact byId.elim

end Model

end DocStore
