import DocStore.Proofs.Document.Copies

/-!
# Virtual fields

What is kept of a virtual field is always what its getter makes of the document's fields, since every
assignment lets go of it. Between two assignments it is computed once at most.
-/

namespace DocStore

-- ---------------------------------------------------------------------------
-- One virtual field
-- ---------------------------------------------------------------------------

namespace Virtual

variable {v : Virtual} {fields : Fields}

@[simp] theorem read_path (fields : Fields) (v : Virtual) : (v.read fields).2.path = v.path := rfl

@[simp] theorem read_getter (fields : Fields) (v : Virtual) :
    (v.read fields).2.getter = v.getter := rfl

/-- If a value is kept, it is the one of these fields. -/
def Fresh (fields : Fields) (v : Virtual) : Prop :=
  ∀ kept, v.memo.value = some kept → kept = v.getter fields

theorem fresh_of_empty (empty : v.memo.value = none) : v.Fresh fields := by
  intro kept held
  simp [empty] at held

theorem Fresh.read_fst (fresh : v.Fresh fields) : (v.read fields).1 = v.getter fields := by
  cases held : v.memo.value with
  | none => simp [Virtual.read, Memo.get_of_empty held]
  | some kept => simpa [Virtual.read, Memo.get_of_value held] using fresh kept held

theorem Fresh.read (fresh : v.Fresh fields) : (v.read fields).2.Fresh fields := by
  cases held : v.memo.value with
  | none => simp [Virtual.read, Memo.get_of_empty held, Fresh]
  | some kept => simpa [Virtual.read, Memo.get_of_value held] using fresh

/-- How often the getter will have run when the field has been read next. -/
def due (v : Virtual) : Nat := v.memo.runs + if v.memo.value.isNone then 1 else 0

theorem due_read (fields : Fields) (v : Virtual) : (v.read fields).2.due = v.due := by
  cases held : v.memo.value with
  | none => simp [Virtual.read, Memo.get_of_empty held, due, held]
  | some kept => simp [Virtual.read, Memo.get_of_value held]

theorem runs_le_due (v : Virtual) : v.memo.runs ≤ v.due := Nat.le_add_right ..

theorem due_le (v : Virtual) : v.due ≤ v.memo.runs + 1 := by
  unfold due
  split <;> omega

end Virtual

-- ---------------------------------------------------------------------------
-- The virtual fields of a schema
-- ---------------------------------------------------------------------------

theorem Schema.lookup_getters {schema : Schema} {path : Path} {type : FieldType}
    {getter : Fields → Value} (declared : schema.find? path = some type)
    (computed : type.getter? = some getter) : schema.getters.lookup path = some getter := by
  obtain ⟨pre, post, entries, others⟩ := List.lookup_eq_some_iff.mp declared
  rw [getters, entries, List.filterMap_append, List.lookup_append, List.filterMap_cons]
  have absent : (pre.filterMap fun e => e.2.getter?.map (e.1, ·)).lookup path = none := by
    refine List.lookup_eq_none_iff.mpr fun entry mem => ?_
    obtain ⟨e, held, same⟩ := List.mem_filterMap.mp mem
    obtain ⟨_, -, rfl⟩ := Option.map_eq_some_iff.mp same
    exact others e held
  rw [absent]
  simp [computed]

/-- A setter that there is decides alone what becomes of the fields. -/
theorem VirtualField.assign_cases (field : VirtualField) (value : Value) (fields : Fields) :
    field.assign value fields = fields ∨ value ≠ .null ∧ ∃ setter, field.setter = some setter ∧
      field.assign value fields = setter fields value := by
  cases spread : field.setter with
  | none => exact .inl (by cases value <;> simp [assign, spread])
  | some setter =>
    by_cases null : value = .null
    · exact .inl (by rw [null]; rfl)
    · exact .inr ⟨null, setter, rfl, by cases value <;> simp_all [assign]⟩

namespace Document

variable {doc : Document} {path : Path} {v : Virtual}

-- ---------------------------------------------------------------------------
-- Acts
-- ---------------------------------------------------------------------------

/-- The virtual field at a path, if the path has a computed one. -/
def virtualAt? (doc : Document) (path : Path) : Option Virtual :=
  doc.virtuals.find? (·.path == path)

theorem virtualAt?_ofFields (model : ModelHandle) (fields : Fields) (path : Path) :
    (ofFields model fields).virtualAt? path =
      (model.schema.getters.lookup path).map fun getter => { path, getter } := by
  simp only [virtualAt?, ofFields]
  induction model.schema.getters with
  | nil => rfl
  | cons e rest ih =>
    obtain ⟨other, getter⟩ := e
    by_cases here : other = path
    · subst here
      simp
    · simp [List.lookup_cons, here, beq_eq_false_iff_ne.mpr (Ne.symm here), ih]

theorem get_fst (at_ : doc.virtualAt? path = some v) :
    (doc.get path).1 = (some (v.read doc.fields).1).filter fun value => !value.isNull := by
  have value : (readAt Virtual.path (Virtual.read doc.fields) path doc.virtuals).1 =
      (doc.virtualAt? path).map fun v => (v.read doc.fields).1 := readAt_fst path
  rw [at_] at value
  simp only [get]
  split
  · rename_i found
    rw [found] at value
    obtain rfl := Option.some.inj value
    rw [Option.filter_some]
    cases Value.isNull _ <;> rfl
  · rename_i found
    simp [found] at value

theorem virtualAt?_get (doc : Document) (other path : Path) :
    (doc.get other).2.virtualAt? path =
      (doc.virtualAt? path).map fun v => if path = other then (v.read doc.fields).2 else v := by
  have value : (readAt Virtual.path (Virtual.read doc.fields) other doc.virtuals).1 =
      (doc.virtualAt? other).map fun v => (v.read doc.fields).1 := readAt_fst other
  have left : (readAt Virtual.path (Virtual.read doc.fields) other doc.virtuals).2.find?
      (·.path == path) =
        (doc.virtualAt? path).map fun v => if path = other then (v.read doc.fields).2 else v :=
    find?_readAt (Virtual.read_path doc.fields) other path
  simp only [get]
  split
  · rename_i found
    rwa [found] at left
  · rename_i found
    -- Nothing was read: the path that was asked for has no computed field.
    rw [found, eq_comm, Option.map_eq_none_iff] at value
    by_cases same : path = other
    · subst same
      simp [value]
    · simp [same]

theorem virtualAt?_set (doc : Document) (other path : Path) (value : Value) :
    (doc.set other value).virtualAt? path = (doc.virtualAt? path).map Virtual.reset := by
  simp [virtualAt?, set, List.find?_map, Function.comp_def, Virtual.reset]

theorem virtualAt?_toJson (doc : Document) (path : Path) :
    doc.toJson.2.virtualAt? path = (doc.virtualAt? path).map fun v => (v.read doc.fields).2 := by
  simp [virtualAt?, toJson, List.find?_map, Function.comp_def]

/-- An act that assigns nothing reads a virtual field or leaves it alone. -/
theorem virtualAt?_perform {act : Act} (keeps : ¬ act.Sets) (doc : Document) (path : Path) :
    (doc.perform act).virtualAt? path = doc.virtualAt? path ∨
      (doc.perform act).virtualAt? path =
        (doc.virtualAt? path).map fun v => (v.read doc.fields).2 := by
  cases act with
  | get other =>
    rw [perform, virtualAt?_get]
    split
    · exact .inr rfl
    · exact .inl (Option.map_id' ..)
  | set other value => exact absurd trivial keeps
  | toJson => exact .inr (doc.virtualAt?_toJson path)
  | populated realm source other => exact .inl rfl

-- ---------------------------------------------------------------------------
-- Runs
-- ---------------------------------------------------------------------------

/-- The document has the computed fields of its schema, and no value of them is out of date. -/
def Coherent (doc : Document) : Prop :=
  ∀ path getter, doc.model.schema.getters.lookup path = some getter →
    ∃ v, doc.virtualAt? path = some v ∧ v.getter = getter ∧ v.Fresh doc.fields

theorem coherent_ofFields (model : ModelHandle) (fields : Fields) :
    (ofFields model fields).Coherent := by
  intro path getter declared
  rw [virtualAt?_ofFields]
  exact ⟨_, congrArg _ declared, rfl, Virtual.fresh_of_empty rfl⟩

theorem Coherent.perform (coherent : doc.Coherent) (act : Act) : (doc.perform act).Coherent := by
  intro path getter declared
  rw [perform_model] at declared
  obtain ⟨v, at_, rfl, fresh⟩ := coherent path getter declared
  by_cases sets : act.Sets
  · cases act with
    | set other value =>
      refine ⟨v.reset, ?_, rfl, Virtual.fresh_of_empty rfl⟩
      rw [Document.perform, virtualAt?_set, at_, Option.map_some]
    | _ => exact sets.elim
  · rw [perform_fields sets]
    rcases virtualAt?_perform sets doc path with same | read
    · exact ⟨v, same.trans at_, rfl, fresh⟩
    · exact ⟨_, read.trans (congrArg _ at_), rfl, fresh.read⟩

theorem Coherent.after (coherent : doc.Coherent) (acts : List Act) : (doc.after acts).Coherent := by
  induction acts generalizing doc with
  | nil => exact coherent
  | cons act rest ih => exact ih (coherent.perform act)

/-- How often the getter of a path has run for the document. -/
def runsAt (doc : Document) (path : Path) : Nat :=
  ((doc.virtualAt? path).map (·.memo.runs)).getD 0

theorem due_after {acts : List Act} (keeps : ∀ act ∈ acts, ¬ act.Sets) (doc : Document)
    (path : Path) :
    ((doc.after acts).virtualAt? path).map Virtual.due = (doc.virtualAt? path).map Virtual.due := by
  induction acts generalizing doc with
  | nil => rfl
  | cons act rest ih =>
    obtain ⟨first, others⟩ := List.forall_mem_cons.mp keeps
    refine (ih others _).trans ?_
    rcases virtualAt?_perform first doc path with same | read
    · rw [same]
    · rw [read, Option.map_map]
      exact congrArg (Option.map · _) (funext fun v => v.due_read _)

theorem runsAt_after {acts : List Act} (keeps : ∀ act ∈ acts, ¬ act.Sets) (doc : Document)
    (path : Path) : (doc.after acts).runsAt path ≤ doc.runsAt path + 1 := by
  have due := due_after keeps doc path
  simp only [runsAt]
  cases now : doc.virtualAt? path with
  | none => simp_all
  | some v =>
    obtain ⟨v', at', due⟩ := Option.map_eq_some_iff.mp (due.trans (congrArg _ now))
    rw [at']
    calc v'.memo.runs ≤ v'.due := v'.runs_le_due
      _ = v.due := due
      _ ≤ v.memo.runs + 1 := v.due_le

/-- Virtual fields stay coherent in all copies of a document. Reading one gives what its getter makes
of the copy's own fields; assigning one does what its setter does, if it has one and the value is not
null, and else nothing; and as long as nothing is assigned to the copy the getter runs once at
most. -/
theorem copies_coherent {model : ModelHandle} {fields : Fields} {uses : List Use} {i : Nat}
    {type : FieldType} {field : VirtualField}
    (held : ((ofFields model fields).copies uses)[i]? = some doc)
    (declared : model.schema.find? path = some type) (isVirtual : type.virtual? = some field) :
    (∀ getter, field.getter = some getter →
      (doc.get path).1 = (some (getter doc.fields)).filter fun value => !value.isNull) ∧
    (∀ value, (doc.set path value).fields = doc.fields ∨
      value ≠ .null ∧ ∃ setter, field.setter = some setter ∧
        (doc.set path value).fields = setter doc.fields value) ∧
    ∀ more later, (∀ use ∈ more, ∀ act, use.actOn? i = some act → ¬ act.Sets) →
      ((ofFields model fields).copies (uses ++ more))[i]? = some later →
      later.runsAt path ≤ doc.runsAt path + 1 := by
  obtain ⟨acts, done⟩ := exists_after held
  have coherent : doc.Coherent := done ▸ (coherent_ofFields model fields).after acts
  have own : doc.model = model := done ▸ after_model _ acts
  refine ⟨fun getter computed => ?_, fun value => ?_, fun more later keeps there => ?_⟩
  · have computed : type.getter? = some getter := by
      rw [FieldType.getter?, isVirtual, Option.bind_some, computed]
    obtain ⟨v, at_, rfl, fresh⟩ :=
      coherent path getter (own.symm ▸ Schema.lookup_getters declared computed)
    rw [get_fst at_, fresh.read_fst]
  · have assigned : (doc.set path value).fields = field.assign value doc.fields := by
      simp only [set, own, declared, Option.bind_some, isVirtual]
    rw [assigned]
    exact field.assign_cases value doc.fields
  · rw [getElem?_copies_append held, Option.some.injEq] at there
    subst there
    refine runsAt_after (fun act mem => ?_) _ path
    obtain ⟨use, mem, acts⟩ := List.mem_filterMap.mp mem
    exact keeps use mem act acts

/-- The name that is shown was read before the copying, and is assigned to in the copy. -/
theorem copies_coherent_renamed :
    let name : Path := ⟨"name", []⟩
    let shown : Path := ⟨"shown", []⟩
    let field : VirtualField :=
      { getter := some (·.atD name), setter := some fun fields value => fields.set name value }
    let type : FieldType := .ofKind (.virtual field)
    let model : ModelHandle :=
      ⟨0, "Person", Schema.initial.declareAll [(name, .ofKind .string), (shown, type)]⟩
    let start := ofFields model [("name", .string "Ada")]
    let uses : List Use :=
      [.act 0 (.get shown), .clone 0, .act 1 (.set shown (.string "Grace"))]
    let more : List Use := [.act 1 (.get shown), .act 0 (.set shown .null), .act 1 .toJson]
    ∃ doc, (start.copies uses)[1]? = some doc ∧ model.schema.find? shown = some type ∧
      type.virtual? = some field ∧ (∀ use ∈ more, ∀ act, use.actOn? 1 = some act → ¬ act.Sets) ∧
      (doc.get shown).1 = some (.string "Grace") ∧
      ∀ later, (start.copies (uses ++ more))[1]? = some later →
        later.runsAt shown ≤ doc.runsAt shown + 1 := by
  intro name shown field type model start uses more
  have held : (start.copies uses)[1]? =
      some (start.after [.get shown, .set shown (.string "Grace")]) := rfl
  have keeps : ∀ use ∈ more, ∀ act, use.actOn? 1 = some act → ¬ act.Sets := by
    simp [more, Use.actOn?, Act.Sets]
  have declared : model.schema.find? shown = some type := rfl
  have isVirtual : type.virtual? = some field := rfl
  obtain ⟨reads, -, once⟩ := copies_coherent held declared isVirtual
  exact ⟨_, held, declared, isVirtual, keeps, reads _ rfl, fun later => once more later keeps⟩

end Document

end DocStore
