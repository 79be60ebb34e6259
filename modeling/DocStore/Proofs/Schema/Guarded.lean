import DocStore.Proofs.FieldType.Normal
import DocStore.Proofs.Schema.Name
import DocStore.Proofs.Schema.Refill

/-!
# Schemas that guard the id

A schema begins with a required id. As long as no setter writes there, a document that has an id
keeps it as a text, unless a default below the id makes an object of it; and that no check lets
pass.
-/

namespace DocStore

open FieldType

variable {entry : Path × FieldType} {entries : List (Path × FieldType)} {source : Source}
  {schema : Schema} {doc out a b : Fields} {path p : Path} {type : FieldType} {v w : Value}
  {id : String}

-- ---------------------------------------------------------------------------
-- Setters that spare a path
-- ---------------------------------------------------------------------------

namespace FieldType

/-- No setter of the type changes what a document holds at the path. -/
def SparesPath (type : FieldType) (p : Path) : Prop :=
  ∀ field ∈ type.virtuals, ∀ v doc, (field.assign v doc).at? p = doc.at? p

theorem sparesPath_of_stored (stored : type.virtuals = []) (p : Path) : type.SparesPath p := by
  simp [SparesPath, stored]

theorem at?_validateItems {f : Value → Fields → Except Error Value × Fields}
    (spares : ∀ v doc, (f v doc).2.at? p = doc.at? p) (items : List Value) (doc : Fields) :
    (validateItems f items doc).2.at? p = doc.at? p := by
  induction items generalizing doc with
  | nil => rfl
  | cons v rest ih =>
    have first := spares v doc
    cases checked : f v doc with
    | mk result after =>
      rw [checked] at first
      cases result with
      | error e => simpa only [validateItems, checked] using first
      | ok w => simpa only [validateItems, checked] using (ih after).trans first

theorem at?_validate (spares : type.SparesPath p) (path : Path) (v : Value) (doc : Fields) :
    (type.validate path v doc).2.at? p = doc.at? p := by
  induction type generalizing v doc with
  | leaf kind options =>
    by_cases virtual : ∃ field, kind = .virtual field
    · obtain ⟨field, rfl⟩ := virtual
      exact spares field (List.mem_singleton_self _) v doc
    · rw [validate_leaf (by simpa using virtual)]
  | array child options ih =>
    cases v with
    | array items => exact at?_validateItems (fun v doc => ih spares v doc) items doc
    | _ => rfl

theorem validate_null (ok : (type.validate path .null doc).1 = .ok w) : w = .null := by
  have absent (required : Bool)
      (ok : (if required then .error (.validation path .missing) else .ok .null) =
        (.ok w : Except Error Value)) : w = .null := by
    cases required with
    | true => cases ok
    | false => exact (Except.ok.inj ok).symm
  cases type with
  | leaf kind options =>
    by_cases virtual : ∃ field, kind = .virtual field
    · obtain ⟨field, rfl⟩ := virtual
      exact (Except.ok.inj ok).symm
    · rw [validate_leaf (by simpa using virtual)] at ok
      exact absent options.required ok
  | array child options => exact absent options.required ok

end FieldType

namespace Schema

/-- The step of a path other than that of the id keeps the id, if its setters do. -/
theorem keepsId_of_spares (other : entry.1 ≠ idPath) (spares : entry.2.SparesPath idPath) :
    KeepsId entry := by
  obtain ⟨path, type⟩ := entry
  intro doc out id named ok
  simp only [checkEntry] at ok
  split at ok
  · cases ok
  rename_i w after checked
  obtain ⟨-, rfl⟩ := Prod.mk.inj ok
  have kept : idOf after = some id := by
    have same := at?_validate spares path (doc.atD path) doc
    rw [checked] at same
    rwa [idOf_eq, same, ← idOf_eq]
  rcases Path.cases_lie path idPath with same | below | above | parts
  · exact absurd same other
  · -- nothing is held below an id, so there is nothing to store
    have absent : doc.atD path = .null := by rw [Fields.atD, at?_eq_none_of_idOf named below]; rfl
    have null : w = .null := by
      rw [absent] at checked
      exact validate_null (congrArg Prod.fst checked)
    have gone : store path w after = after := by
      rw [null]
      exact Fields.remove_eq_self (at?_eq_none_of_idOf kept below)
    rwa [gone]
  · exact absurd above (idPath_above path)
  · rw [idOf_eq, store]
    split
    · rwa [Fields.at?_remove_of_parts parts, ← idOf_eq]
    · rwa [Fields.at?_set_of_parts parts, ← idOf_eq]

-- ---------------------------------------------------------------------------
-- The id that every schema begins with
-- ---------------------------------------------------------------------------

/-- The schema begins with the id that every schema is made with. No setter writes there, and what
is drawn for a field is not drawn again. -/
structure Guarded (schema : Schema) : Prop where
  implicit : ∃ declared, schema.entries = initial.entries ++ declared
  distinct : (schema.entries.map Prod.fst).Nodup
  spares : ∀ entry ∈ schema.entries, entry.2.SparesPath idPath
  once : ∀ entry ∈ schema.entries, entry.2.isVirtual = false → DrawsOnce schema.entries entry

theorem coerce_id (named : v.name? = some id) : (Kind.id strategy).coerce v = .string id := by
  cases v with
  | string s =>
    simp only [Value.name?, Option.ite_none_left_eq_some, Option.some.injEq] at named
    exact congrArg Value.string named.2
  | number x => exact congrArg Value.string (Option.some.inj named)
  | _ => cases named

/-- The id comes first, and no other field is in its place. -/
theorem Guarded.exists_declared (guarded : schema.Guarded) : ∃ declared,
    schema.entries = initial.entries ++ declared ∧ idPath ∉ declared.map Prod.fst := by
  obtain ⟨declared, whole⟩ := guarded.implicit
  have distinct := guarded.distinct
  rw [whole] at distinct
  exact ⟨declared, whole, (List.nodup_cons.mp distinct).1⟩

theorem Guarded.keepsId (guarded : schema.Guarded) : ∀ entry ∈ schema.entries, KeepsId entry := by
  intro entry mem
  have spares := guarded.spares entry mem
  obtain ⟨declared, whole, apart⟩ := guarded.exists_declared
  rw [whole] at mem
  rcases List.mem_append.mp mem with own | later
  · obtain rfl := List.mem_singleton.mp own
    exact keepsId_of_stored rfl
  · exact keepsId_of_spares (fun same => apart (same ▸ List.mem_map_of_mem later)) spares

/-- The id is cast before all else. -/
theorem exists_fill_implicit (whole : schema.entries = initial.entries ++ declared)
    (held : doc.at? idPath = some v) (present : v ≠ .null) (source : Source) :
    ∃ first, schema.fill source doc = fillFrom source 1 declared first ∧
      first.at? idPath = some ((Kind.id .nanoid).coerce v) := by
  refine ⟨_, by rw [fill, whole]; rfl, ?_⟩
  let own : Path × FieldType := (idPath, .leaf (.id .nanoid) { required := true })
  have coerced : own.2.coerce v = (Kind.id .nanoid).coerce v := coerce_leaf present
  have step : (fillEntry (source.branch 0) own doc).at? idPath = some (own.2.coerce v) ∨ _ :=
    at?_fillEntry_self rfl held present
  rw [← coerced]
  exact step.resolve_right fun null => FieldType.coerce_ne_null rfl present null.1

theorem Guarded.at?_fill_object (guarded : schema.Guarded)
    (held : doc.at? idPath = some (.object c)) (source : Source) :
    ∃ c', (schema.fill source doc).at? idPath = some (.object c') := by
  obtain ⟨declared, whole, apart⟩ := guarded.exists_declared
  obtain ⟨first, filled, cast⟩ := exists_fill_implicit whole held (by simp) source
  rw [filled]
  rcases at?_id_fillFrom_or apart 1 with same | object
  · exact ⟨c, same.trans cast⟩
  · exact object

/-- A document with an id has it as a text once it is filled, or an object if there is a default
below the id. -/
theorem Guarded.at?_fill_named (guarded : schema.Guarded) (named : idOf doc = some id)
    (source : Source) :
    IsBare schema.entries ∧ (schema.fill source doc).at? idPath = some (.string id) ∨
      ¬ IsBare schema.entries ∧ ∃ c, (schema.fill source doc).at? idPath = some (.object c) := by
  obtain ⟨v, held, name⟩ := idOf_eq_some.mp named
  obtain ⟨declared, whole, apart⟩ := guarded.exists_declared
  obtain ⟨first, filled, cast⟩ :=
    exists_fill_implicit whole held (Value.ne_null_of_name? name) source
  rw [coerce_id name] at cast
  have text : (Value.string id).name? = some id := Value.name?_string name
  by_cases bare : IsBare schema.entries
  · rw [whole] at bare
    refine .inl ⟨whole ▸ bare, ?_⟩
    rw [filled]
    exact at?_id_fillFrom (List.forall_mem_append.mp bare).2 apart cast text 1
  · refine .inr ⟨bare, ?_⟩
    rw [filled]
    refine (at?_id_fillFrom_or apart 1).resolve_left fun same => bare ?_
    have own : idOf (fillFrom source 0 schema.entries doc) = some id :=
      (congrArg idOf filled).trans ((idOf_of_at? (same.trans cast)).trans text)
    exact isBare_of_idOf guarded.distinct own

/-- An object in the place of the id is what is found first. -/
theorem Guarded.check_object (guarded : schema.Guarded)
    (held : doc.at? idPath = some (.object c)) :
    schema.check doc = (.error (.validation idPath (.notA .id (.object c))), doc) := by
  obtain ⟨declared, whole⟩ := guarded.implicit
  have first : checkEntry (idPath, .leaf (.id .nanoid) { required := true }) doc =
      (.error (.validation idPath (.notA .id (.object c))), doc) := by
    simp only [checkEntry, Fields.atD_of_at? held]
    rfl
  rw [check, whole]
  change checkEntries (_ :: declared) doc = _
  simp only [checkEntries, first]

theorem at?_id_fillEntry_congr
    (fixed : entry.1.IsBelow idPath → entry.2.isVirtual = false → entry.2.IsFixed)
    (held : a.atD idPath ≠ .null) (same : a.at? idPath = b.at? idPath) (first second : Source) :
    (fillEntry first entry a).at? idPath = (fillEntry second entry b).at? idPath := by
  cases stored : entry.2.isVirtual with
  | true => rwa [fillEntry_of_isVirtual stored, fillEntry_of_isVirtual stored]
  | false =>
    rw [fillEntry_eq_put stored, fillEntry_eq_put stored]
    rcases Path.cases_lie entry.1 idPath with own | below | above | parts
    · rw [cast_eq (.inr (own ▸ held)) (own ▸ same) first second]
      exact at?_put_congr same entry.1 _
    · rw [cast_eq (.inl (fixed below stored)) (Fields.at?_congr_below same below) first second]
      exact at?_put_congr same entry.1 _
    · exact absurd above (idPath_above entry.1)
    · rwa [at?_put_of_parts parts, at?_put_of_parts parts]

theorem at?_id_fillFrom_congr
    (fixed : ∀ entry ∈ entries,
      entry.1.IsBelow idPath → entry.2.isVirtual = false → entry.2.IsFixed)
    (held : a.atD idPath ≠ .null) (same : a.at? idPath = b.at? idPath) (first second : Source)
    (n : Nat) :
    (fillFrom first n entries a).at? idPath = (fillFrom second n entries b).at? idPath := by
  induction entries generalizing a b n with
  | nil => exact same
  | cons entry rest ih =>
    obtain ⟨fixedFirst, fixedRest⟩ := List.forall_mem_cons.mp fixed
    refine ih fixedRest ?_ (at?_id_fillEntry_congr fixedFirst held same _ _) (n + 1)
    exact atD_fillEntry_ne_null (fun above => absurd above (idPath_above entry.1)) held

/-- What comes to be in the place of the id depends on what the id is cast to and on nothing else. -/
theorem Guarded.at?_fill_congr (guarded : schema.Guarded) (left : a.at? idPath = some v)
    (right : b.at? idPath = some w) (present : v ≠ .null ∧ w ≠ .null)
    (same : (Kind.id .nanoid).coerce v = (Kind.id .nanoid).coerce w) (first second : Source) :
    (schema.fill first a).at? idPath = (schema.fill second b).at? idPath := by
  obtain ⟨declared, whole, -⟩ := guarded.exists_declared
  obtain ⟨a', filledA, castA⟩ := exists_fill_implicit whole left present.1 first
  obtain ⟨b', filledB, castB⟩ := exists_fill_implicit whole right present.2 second
  have fixed : ∀ entry ∈ declared,
      entry.1.IsBelow idPath → entry.2.isVirtual = false → entry.2.IsFixed := by
    intro entry mem below stored
    have once := guarded.once entry (by simp [whole, mem]) stored
    rw [whole] at once
    exact once.resolve_right fun isOpen => isOpen _ List.mem_cons_self below
  rw [filledA, filledB]
  refine at?_id_fillFrom_congr fixed ?_ (castA.trans (same ▸ castB.symm)) first second 1
  rw [Fields.atD_of_at? castA]
  exact Kind.coerce_ne_null (by simp) present.1

theorem Guarded.at?_fill_of_idOf (guarded : schema.Guarded) (left : idOf a = some id)
    (right : idOf b = some id) (first second : Source) :
    (schema.fill first a).at? idPath = (schema.fill second b).at? idPath := by
  obtain ⟨v, heldA, nameA⟩ := idOf_eq_some.mp left
  obtain ⟨w, heldB, nameB⟩ := idOf_eq_some.mp right
  have present := And.intro (Value.ne_null_of_name? nameA) (Value.ne_null_of_name? nameB)
  refine guarded.at?_fill_congr heldA heldB present ?_ first second
  rw [coerce_id nameA, coerce_id nameB]

-- ---------------------------------------------------------------------------
-- Nothing but ids drawn
-- ---------------------------------------------------------------------------

/-- No default but that of the id is drawn. -/
def DrawsNothing (schema : Schema) : Prop :=
  ∀ entry ∈ schema.entries, entry.2.isVirtual = false → entry.1 = idPath ∨ entry.2.IsFixed

theorem DrawsNothing.once (nothing : schema.DrawsNothing) :
    ∀ entry ∈ schema.entries, entry.2.isVirtual = false → DrawsOnce schema.entries entry := by
  intro entry mem concrete
  rcases nothing entry mem concrete with own | fixed
  · exact .inr fun other _ below => absurd (own ▸ below) (idPath_above other.1)
  · exact .inl fixed

/-- If nothing is drawn, a stored document is always filled in the same way. -/
theorem DrawsNothing.fill_eq (nothing : schema.DrawsNothing) (named : idOf doc = some id)
    (first second : Source) : schema.fill first doc = schema.fill second doc := by
  refine fillFrom_eq_of_held (fun entry mem concrete => ?_) first second 0 0
  rcases nothing entry mem concrete with own | fixed
  · obtain ⟨v, held, name⟩ := idOf_eq_some.mp named
    refine .inr ⟨?_, fun other _ below => absurd (own ▸ below) (idPath_above other.1)⟩
    rw [own, Fields.atD_of_at? held]
    exact Value.ne_null_of_name? name
  · exact .inl fixed

end Schema

end DocStore
