import DocStore.Proofs.Schema.Declare
import DocStore.Proofs.Schema.Name
import DocStore.Proofs.Schema.Place
import DocStore.Proofs.Write.Stored

/-!
# Documents that miss an object

A document that holds something else where the schema wants an object is refused, if it comes to the
check as it was given. It does not where a field below has a default: filling writes that first, and
what stands in the way is gone before anyone has looked at it.
-/

namespace DocStore

/-- The writes that store a document as a whole. -/
inductive Request.StoresWhole : (Value → Request) → Prop
  | insert : StoresWhole .insert
  | save : StoresWhole .save
  | replace (id : String) : StoresWhole (.replace id)

variable {m : Model} {source : Source} {store : Value → Request} {doc fields : Fields} {p : Path}
  {v : Value} {opts : Options} {before after : List (Path × FieldType)} {schema : Schema}
  {id : String}

-- ---------------------------------------------------------------------------
-- The id of the document
-- ---------------------------------------------------------------------------

theorem Fields.at?_named (outside : ¬ p.IsBelow idPath) (held : doc.at? p = some v)
    (blunt : v.IsBlunt) (id : String) :
    ∃ w, (doc.set idPath (.string id)).at? p = some w ∧ w.IsBlunt := by
  rcases Path.cases_lie idPath p with rfl | above | below | parts
  · exact ⟨_, Fields.at?_set_self, by simp, by simp⟩
  · exact absurd above (idPath_above p)
  · exact absurd below outside
  · exact ⟨v, (Fields.at?_set_of_parts parts).trans held, blunt⟩

-- ---------------------------------------------------------------------------
-- Refusal
-- ---------------------------------------------------------------------------

/-- No filled document passes the check that holds something else where an object is wanted. -/
theorem Schema.not_checked (declared : schema.entries = before ++ (p, .leaf .object opts) :: after)
    (distinct : (schema.entries.map Prod.fst).Nodup)
    (bare : ∀ entry ∈ schema.entries, ¬ FillsBelow p entry)
    (keeps : ∀ entry ∈ schema.entries, KeepsObjects p entry)
    (alone : ∀ entry ∈ before, LeavesAlone p entry) (held : doc.at? p = some v) (blunt : v.IsBlunt)
    (out : Fields) : schema.check (schema.fill source doc) ≠ (.ok (), out) := by
  intro ok
  have same : (FieldType.leaf .object opts).coerce v = v := by
    cases v <;> rfl
  have filled := at?_fill declared distinct rfl bare keeps held blunt
    (same.symm ▸ blunt.present) source
  rw [same] at filled
  have others := (others_of_declared declared distinct).1
  have taken := accepts_of_check declared rfl others alone filled blunt ok
  have faultless := FieldType.fault?_of_accepts rfl blunt.present taken
  cases v with
  | object c => exact blunt.other c rfl
  | _ => cases faultless

namespace Model

theorem checked_refuses (unchecked : ∀ out, m.schema.check fields ≠ (.ok (), out)) :
    ∃ e, m.checked fields = .error e := by
  cases result : m.checked fields with
  | error e => exact ⟨e, rfl⟩
  | ok out => exact absurd (checked_eq_ok result) (unchecked out)

theorem planInsert_refuses
    (unchecked : ∀ out, m.schema.check (m.schema.fill (source.branch 0) fields) ≠ (.ok (), out)) :
    ∃ e, m.planInsert source fields = .error e := by
  obtain ⟨e, refused⟩ := checked_refuses unchecked
  unfold planInsert
  simp only [refused]
  split
  · exact ⟨_, rfl⟩
  · split <;> exact ⟨_, rfl⟩

theorem planReplace_refuses
    (unchecked : ∀ out, m.schema.check
      (m.schema.fill (source.branch 0) (fields.set idPath (.string id))) ≠ (.ok (), out)) :
    ∃ e, m.planReplace source id fields = .error e := by
  obtain ⟨e, refused⟩ := checked_refuses unchecked
  exact ⟨e, by simp only [planReplace, show fields.insert idPath.head (.string id) =
    fields.set idPath (.string id) from rfl, refused]; rfl⟩

theorem perform_refuses {request : Request}
    (refused : ∃ e, (m.prepare request >>= m.plan source) = .error e) :
    ∃ e, m.perform source request = { model := m, result := .error e } := by
  obtain ⟨e, refused⟩ := refused
  exact ⟨e, by simp only [perform, refused]⟩

/-- What no check lets pass, no write of a whole document stores. -/
theorem plan_refuses (whole : Request.StoresWhole store)
    (unchecked : ∀ doc v source, doc.at? p = some v → v.IsBlunt → ∀ out,
      m.schema.check (m.schema.fill source doc) ≠ (.ok (), out))
    (given : ∀ id, store = .replace id → ¬ p.IsBelow idPath)
    (held : doc.at? p = some v) (blunt : v.IsBlunt) :
    ∃ e, (m.prepare (store (.object doc)) >>= m.plan source) = .error e := by
  have inserted := planInsert_refuses (unchecked doc v (source.branch 0) held blunt)
  have replaced (id : String) (outside : ¬ p.IsBelow idPath) :
      ∃ e, m.planReplace source id doc = .error e := by
    obtain ⟨w, named, blunt⟩ := Fields.at?_named outside held blunt id
    exact planReplace_refuses (unchecked _ w _ named blunt)
  cases whole with
  | insert => exact inserted
  | save =>
    change ∃ e, m.plan source (.save doc) = .error e
    simp only [plan]
    split
    · rename_i id found
      exact replaced id (not_isBelow_of_idOf (Option.filter_eq_some_iff.mp found).1 held)
    · exact inserted
  | replace id =>
    change ∃ e, m.plan source (.replace id doc) = .error e
    simp only [plan]
    split
    · exact replaced id (given id rfl)
    · exact ⟨_, rfl⟩

-- ---------------------------------------------------------------------------
-- A default in its place
-- ---------------------------------------------------------------------------

/-- Documents that are filled alike are stored alike. -/
theorem plan_filled {twin : Fields} (whole : Request.StoresWhole store)
    (named : idOf twin = idOf doc)
    (filled : ∀ source, m.schema.fill source twin = m.schema.fill source doc)
    (given : ∀ id source, m.schema.fill source (twin.set idPath (.string id)) =
      m.schema.fill source (doc.set idPath (.string id))) :
    (m.prepare (store (.object twin)) >>= m.plan source) =
      (m.prepare (store (.object doc)) >>= m.plan source) := by
  have inserted : m.planInsert source twin = m.planInsert source doc := by
    unfold planInsert
    rw [filled]
  have replaced (id : String) : m.planReplace source id twin = m.planReplace source id doc := by
    have given := given id (source.branch 0)
    simp only [Fields.set, idPath, Fields.setAt] at given
    simp only [planReplace, idPath, given]
  cases whole with
  | insert => exact inserted
  | save =>
    change m.plan source (.save twin) = m.plan source (.save doc)
    simp only [plan, named, inserted, replaced]
  | replace id =>
    change m.plan source (.replace id twin) = m.plan source (.replace id doc)
    simp only [plan, replaced]

/-- A document that holds something else where the schema wants an object is refused, and the model
stays as it was, if no field below has a default and no setter that runs before the check reaches
there; an id that a replacement is given counts as held. If a field below has a default, the write
comes to what it would come to had an empty object been given. -/
theorem perform_misfit (whole : Request.StoresWhole store)
    (declared : m.schema.entries = before ++ (p, .leaf .object opts) :: after)
    (distinct : (m.schema.entries.map Prod.fst).Nodup)
    (keeps : ∀ entry ∈ m.schema.entries, Schema.KeepsObjects p entry)
    (held : doc.at? p = some v) (blunt : v.IsBlunt) (source : Source) :
    ((∀ entry ∈ m.schema.entries, ¬ Schema.FillsBelow p entry) →
      (∀ entry ∈ before, Schema.LeavesAlone p entry) →
      (∀ id, store = .replace id → ¬ p.IsBelow idPath) →
      ∃ e, m.perform source (store (.object doc)) = { model := m, result := .error e }) ∧
    ((∃ entry ∈ m.schema.entries, Schema.FillsBelow p entry) → Path.Parts p idPath →
      m.perform source (store (.object doc)) =
        m.perform source (store (.object (doc.set p (.object []))))) := by
  refine ⟨fun bare alone given => perform_refuses (plan_refuses whole ?_ given held blunt), ?_⟩
  · intro doc v source held blunt
    exact Schema.not_checked declared distinct bare keeps alone held blunt
  · intro fills parts
    have isOpen : ∀ entry ∈ m.schema.entries, entry.1 = p → entry.2.IsOpen := by
      intro entry mem own
      obtain rfl := Schema.eq_of_declared declared distinct mem own
      trivial
    have emptied {doc : Fields} (held : doc.at? p = some v) (source : Source) :
        m.schema.fill source (doc.set p (.object [])) = m.schema.fill source doc :=
      Schema.fillFrom_emptied held blunt isOpen keeps fills 0
    have same : idOf (doc.set p (.object [])) = idOf doc := by
      rw [idOf_eq, idOf_eq, Fields.at?_set_of_parts parts]
    simp only [perform]
    rw [plan_filled whole same (emptied held)]
    intro id source
    rw [Fields.set_comm parts held]
    exact emptied ((Fields.at?_set_of_parts parts.symm).trans held) source

/-- A text where the tags belong: refused, as the list of tags is not one that is there by
default. -/
theorem perform_misfit_text :
    let tags : Path := ⟨"tags", []⟩
    let schema := Schema.initial.declareAll [(⟨"tags", ["first"]⟩, .ofKind .string)]
    let m : Model := { handle := ⟨0, "pets", schema⟩ }
    let source : Source := ⟨fun _ => 0, ⟨0, 0⟩, []⟩
    let doc : Fields := [("_id", .string "a"), ("tags", .string "oops")]
    let before : List (Path × FieldType) := [(idPath, .leaf (.id .nanoid) { required := true })]
    Request.StoresWhole .insert ∧
      m.schema.entries = before ++ (tags, .leaf .object {}) ::
        [(⟨"tags", ["first"]⟩, .ofKind .string)] ∧
      (m.schema.entries.map Prod.fst).Nodup ∧
      (∀ entry ∈ m.schema.entries, Schema.KeepsObjects tags entry) ∧
      doc.at? tags = some (.string "oops") ∧ (Value.string "oops").IsBlunt ∧
      ∃ e, m.perform source (.insert (.object doc)) = { model := m, result := .error e } := by
  intro tags schema m source doc before
  have entries : m.schema.entries = before ++ (tags, .leaf .object {}) ::
    [(⟨"tags", ["first"]⟩, .ofKind .string)] := rfl
  have distinct : (m.schema.entries.map Prod.fst).Nodup := Schema.distinct_declareAll _
  have keeps : ∀ entry ∈ m.schema.entries, Schema.KeepsObjects tags entry := by
    intro entry mem above
    exact absurd above Path.not_isBelow_single
  have blunt : (Value.string "oops").IsBlunt := ⟨by simp, by simp⟩
  obtain ⟨refused, -⟩ := perform_misfit .insert entries distinct keeps
    (show doc.at? tags = some (.string "oops") from rfl) blunt source
  refine ⟨.insert, entries, distinct, keeps, rfl, blunt, refused ?_ ?_ ?_⟩
  · rw [entries]
    simp [before, Schema.FillsBelow, tags, idPath, FieldType.default, FieldType.ofKind,
      FieldType.options]
  · simp [before, Schema.LeavesAlone, FieldType.virtuals]
  · intro id same
    cases congrFun same .null

/-- The same text where the list of tags is an array, which is empty by default: the document is
stored, and the text is gone. -/
theorem misfit_overwritten :
    let schema := Schema.initial.declareAll [(⟨"tags", ["list"]⟩, .array .mixed {})]
    let m : Model := { handle := ⟨0, "pets", schema⟩ }
    let source : Source := ⟨fun _ => 0, ⟨0, 0⟩, []⟩
    let doc : Fields := [("_id", .string "a"), ("tags", .string "oops")]
    let outcome := m.perform source (.insert (.object doc))
    m.Reachable ∧ m.schema.find? ⟨"tags", []⟩ = some (.ofKind .object) ∧
      doc.at? ⟨"tags", []⟩ = some (.string "oops") ∧
      outcome.result.isOk = true ∧ outcome.model.collection.find? "a" =
        some [("_id", .string "a"), ("tags", .object [("list", .array [])])] :=
  ⟨.empty rfl, rfl, rfl, rfl, rfl⟩

end Model

end DocStore
