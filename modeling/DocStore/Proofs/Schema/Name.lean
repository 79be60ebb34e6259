import DocStore.Document
import DocStore.Proofs.Number.Text
import DocStore.Proofs.Schema.Setters

/-!
# Ids through the passes

An id is a text or a number, whatever type the schema gives it. Filling a document that was given
its id as a text may turn the text into a number, but only into one that is written in that way; and
what stands below the id would have made an object of it before any document was inserted.
-/

namespace DocStore

variable {id : String}

/-- The id that a value stands for. -/
def Value.name? : Value → Option String
  | .string s => if s.isEmpty then none else some s
  | .number x => some (Value.number x).text
  | _ => none

/-- Values that no coercion makes an id of. -/
inductive Value.IsNameless : Value → Prop
  | bool (b) : IsNameless (.bool b)
  | array (items) : IsNameless (.array items)
  | object (fields) : IsNameless (.object fields)

theorem idOf_eq (doc : Fields) : idOf doc = (doc.at? idPath).bind Value.name? := by
  simp only [idOf, idPath, Fields.at?_single]
  cases doc.get? "_id" with
  | none => rfl
  | some v => cases v <;> rfl

theorem idOf_of_at? (h : doc.at? idPath = some v) : idOf doc = v.name? := by
  simp [idOf_eq, h]

theorem idOf_eq_some : idOf doc = some id ↔ ∃ v, doc.at? idPath = some v ∧ v.name? = some id := by
  simp [idOf_eq, Option.bind_eq_some_iff]

theorem Value.name?_string {v : Value} (named : v.name? = some id) :
    (Value.string id).name? = some id := by
  cases v with
  | string s =>
    simp only [name?] at named
    split at named
    · simp at named
    · rename_i nonempty
      obtain rfl := Option.some.inj named
      simp [name?, nonempty]
  | number x =>
    obtain rfl := Option.some.inj named
    simp [name?, Number.text_ne_empty]
  | _ => simp [name?] at named

theorem Value.ne_null_of_name? {v : Value} (named : v.name? = some id) : v ≠ .null := by
  rintro rfl
  cases named

theorem Value.IsNameless.name? (h : IsNameless v) : v.name? = none := by
  cases h <;> rfl

theorem idPath_above (path : Path) : ¬ idPath.IsBelow path := Path.not_isBelow_single

/-- A document with an id holds nothing below it. -/
theorem not_isBelow_of_idOf (named : idOf doc = some id) (held : doc.at? p = some v) :
    ¬ p.IsBelow idPath := by
  intro below
  obtain ⟨c, object⟩ := Fields.at?_of_isBelow below held
  obtain ⟨w, own, name⟩ := idOf_eq_some.mp named
  rw [own] at object
  obtain rfl := Option.some.inj object
  cases name

theorem at?_eq_none_of_idOf (named : idOf doc = some id) (below : p.IsBelow idPath) :
    doc.at? p = none :=
  Option.eq_none_iff_forall_ne_some.mpr fun _ held => not_isBelow_of_idOf named held below

namespace FieldType

theorem coerce_object (stored : isVirtual type = false) :
    (type.coerce (.object fields)).IsNameless := by
  cases type with
  | array child options => exact .array _
  | leaf kind options =>
    cases kind with
    | virtual field => simp [isVirtual, virtual?] at stored
    | boolean => exact .bool _
    | _ => exact .object _

theorem name?_coerce_number (x : Number) :
    (Kind.coerce .number (.string (Value.number x).text)).name? = some (Value.number x).text := by
  cases finite : x.isFinite with
  | false =>
    rw [Number.text_of_not_finite finite]
    rfl
  | true =>
    simp only [Kind.coerce, Value.asNumber?, Number.ofNumeral?_text finite, Value.name?,
      Number.text_unsigned]

theorem name?_coerce_integer (integral : x.isIntegral = true) :
    (Kind.coerce .integer (.string (Value.number x).text)).name? = some (Value.number x).text := by
  have finite := (x.isIntegral_iff.mp integral).1
  have kept : x.unsigned.truncate = x.unsigned := by
    rw [Number.unsigned]
    split
    · exact Number.truncate_of_isIntegral (Number.isIntegral_of_significand rfl)
    · exact Number.truncate_of_isIntegral integral
  simp only [Kind.coerce, Value.asNumber?, Number.ofNumeral?_text finite, Value.name?, kept,
    Number.text_unsigned]

/-- A text that a type once gave as an id, it gives again. -/
theorem name?_coerce (stored : isVirtual type = false)
    (taken : (validate path type v doc).1 = .ok w) (named : v.name? = some id) :
    (type.coerce (.string id)).name? = some id := by
  cases type with
  | array child options => cases v <;> simp [validate, Value.name?] at taken named
  | leaf kind options =>
    have concrete : ∀ field, kind ≠ .virtual field := by
      rintro field rfl
      simp [isVirtual, virtual?] at stored
    rw [validate_leaf concrete] at taken
    cases kind with
    | number =>
      cases v with
      | number x =>
        obtain rfl := Option.some.inj named
        exact name?_coerce_number x
      | _ => simp [Value.isNull, Kind.fault?, Value.name?] at taken named
    | integer =>
      cases v with
      | number x =>
        obtain rfl := Option.some.inj named
        refine name?_coerce_integer (Kind.isIntegral_of_fault? ?_)
        simp only [Value.isNull, Bool.false_eq_true, if_false] at taken
        split at taken
        · simp at taken
        · assumption
      | _ => simp [Value.isNull, Kind.fault?, Value.name?] at taken named
    | string | mixed | object | enumeration elements | id strategy => exact Value.name?_string named
    | virtual field => exact absurd rfl (concrete field)
    | _ => cases v <;> simp [Value.isNull, Kind.fault?, Value.name?] at taken named

end FieldType

namespace Schema

open FieldType

variable {entry : Path × FieldType} {entries : List (Path × FieldType)} {source : Source}
  {doc out : Fields}

/-- No field below the id has a default. -/
def IsBare (entries : List (Path × FieldType)) : Prop :=
  ∀ entry ∈ entries, entry.1.IsBelow idPath → entry.2.isVirtual = false →
    ∀ source, entry.2.default source = .null

/-- The step of a path does not change the id of a document that has one. -/
def KeepsId (entry : Path × FieldType) : Prop :=
  ∀ doc out id, idOf doc = some id → checkEntry entry doc = (.ok (), out) → idOf out = some id

-- ---------------------------------------------------------------------------
-- Filling
-- ---------------------------------------------------------------------------

theorem at?_id_fillEntry (other : entry.1 ≠ idPath) :
    (fillEntry source entry doc).at? idPath = doc.at? idPath ∨
      entry.1.IsBelow idPath ∧ entry.2.isVirtual = false ∧
        entry.2.cast source (doc.atD entry.1) ≠ .null ∧
        ∃ c, (fillEntry source entry doc).at? idPath = some (.object c) := by
  cases stored : entry.2.isVirtual with
  | true => exact .inl (by rw [fillEntry_of_isVirtual stored])
  | false =>
    rcases fillEntry_eq stored source doc with ⟨-, same⟩ | ⟨hv, set⟩
    · exact .inl (by rw [same])
    · rw [set]
      rcases Path.cases_lie entry.1 idPath with same | below | above | parts
      · exact absurd same other
      · exact .inr ⟨below, rfl, hv, Fields.at?_set_of_isBelow below⟩
      · exact absurd above (idPath_above _)
      · exact .inl (Fields.at?_set_of_parts parts)

theorem at?_id_fillFrom (bare : IsBare entries) (apart : idPath ∉ entries.map Prod.fst)
    (held : doc.at? idPath = some v) (named : v.name? = some id) (n : Nat) :
    (fillFrom source n entries doc).at? idPath = some v := by
  induction entries generalizing doc n with
  | nil => exact held
  | cons first rest ih =>
    obtain ⟨bareFirst, bareRest⟩ := List.forall_mem_cons.mp bare
    simp only [List.map_cons, List.mem_cons, not_or] at apart
    refine ih bareRest apart.2 ?_ (n + 1)
    rcases at?_id_fillEntry (Ne.symm apart.1) with same | ⟨below, stored, set, -⟩
    · rw [same, held]
    · -- the field below the id is absent and has no default
      have absent : doc.at? first.1 = none :=
        at?_eq_none_of_idOf ((idOf_of_at? held).trans named) below
      exact absurd (by rw [Fields.atD, absent]; exact bareFirst below stored _) set

theorem idOf_fillFrom (bare : IsBare entries) (distinct : (entries.map Prod.fst).Nodup)
    (reads : ∀ entry ∈ entries, entry.1 = idPath → entry.2.isVirtual = false →
      (entry.2.coerce given).name? = some id)
    (held : doc.at? idPath = some given) (named : given.name? = some id)
    (n : Nat) : idOf (fillFrom source n entries doc) = some id := by
  induction entries generalizing doc n with
  | nil => exact (idOf_of_at? held).trans named
  | cons first rest ih =>
    obtain ⟨bareFirst, bareRest⟩ := List.forall_mem_cons.mp bare
    obtain ⟨readsFirst, readsRest⟩ := List.forall_mem_cons.mp reads
    obtain ⟨apart, distinctRest⟩ := List.nodup_cons.mp distinct
    by_cases here : first.1 = idPath
    · rw [here] at apart
      obtain ⟨v, hv, name⟩ : ∃ v, (fillEntry (source.branch n) first doc).at? idPath = some v ∧
          v.name? = some id := by
        cases stored : first.2.isVirtual with
        | true => exact ⟨_, by rw [fillEntry_of_isVirtual stored, held], named⟩
        | false =>
          have name := readsFirst here stored
          rw [← here] at held ⊢
          rcases at?_fillEntry_self stored held (Value.ne_null_of_name? named) with set | ⟨null, -⟩
          · exact ⟨_, set, name⟩
          · rw [null] at name
            cases name
      exact (idOf_of_at? (at?_id_fillFrom bareRest apart hv name (n + 1))).trans name
    · refine ih bareRest distinctRest readsRest ?_ (n + 1)
      have alone : idPath ∉ [first].map Prod.fst := by simpa using Ne.symm here
      have bareAlone : IsBare [first] := by simpa [IsBare] using bareFirst
      exact at?_id_fillFrom bareAlone alone held named n

/-- Filling other paths leaves the id as it is or makes an object of it. -/
theorem at?_id_fillFrom_or (apart : idPath ∉ entries.map Prod.fst) (n : Nat) :
    (fillFrom source n entries doc).at? idPath = doc.at? idPath ∨
      ∃ c, (fillFrom source n entries doc).at? idPath = some (.object c) := by
  induction entries generalizing doc n with
  | nil => exact .inl rfl
  | cons first rest ih =>
    simp only [List.map_cons, List.mem_cons, not_or] at apart
    rcases ih apart.2 (n + 1) with same | object
    · rcases at?_id_fillEntry (Ne.symm apart.1) with kept | ⟨-, -, -, object⟩
      · exact .inl (same.trans kept)
      · exact .inr (object.imp fun c held => same.trans held)
    · exact .inr object

/-- Once the id is no id any more, filling other paths does not bring it back. -/
theorem nameless_fillFrom (apart : idPath ∉ entries.map Prod.fst)
    (held : ∃ v, doc.at? idPath = some v ∧ v.IsNameless) (n : Nat) :
    ∃ v, (fillFrom source n entries doc).at? idPath = some v ∧ v.IsNameless := by
  rcases at?_id_fillFrom_or apart n with same | ⟨c, object⟩
  · rwa [same]
  · exact ⟨_, object, .object c⟩

/-- Nor does filling the id itself, once it is an object. -/
theorem object_fillFrom (distinct : (entries.map Prod.fst).Nodup)
    (held : doc.at? idPath = some (.object c)) (n : Nat) :
    ∃ v, (fillFrom source n entries doc).at? idPath = some v ∧ v.IsNameless := by
  induction entries generalizing doc n c with
  | nil => exact ⟨_, held, .object c⟩
  | cons first rest ih =>
    obtain ⟨apart, distinct⟩ := List.nodup_cons.mp distinct
    by_cases here : first.1 = idPath
    · rw [here] at apart
      refine nameless_fillFrom apart ?_ (n + 1)
      cases stored : first.2.isVirtual with
      | true => exact ⟨_, by rw [fillEntry_of_isVirtual stored, held], .object c⟩
      | false =>
        rw [← here] at held ⊢
        rcases at?_fillEntry_self stored held (by simp) with set | ⟨-, same⟩
        · exact ⟨_, set, coerce_object stored⟩
        · exact ⟨_, by rw [same, held], .object c⟩
    · rcases at?_id_fillEntry here with same | ⟨-, -, -, c, hc⟩
      · exact ih distinct (same.trans held) (n + 1)
      · exact ih distinct hc (n + 1)

/-- Where a document was filled and has an id, no field below the id has a default. -/
theorem isBare_of_idOf (distinct : (entries.map Prod.fst).Nodup)
    (named : idOf (fillFrom source n entries doc) = some id) : IsBare entries := by
  induction entries generalizing doc n with
  | nil => simp [IsBare]
  | cons first rest ih =>
    obtain ⟨-, distinctRest⟩ := List.nodup_cons.mp distinct
    refine List.forall_mem_cons.mpr ⟨fun below stored => ?_, ih distinctRest named⟩
    by_cases null : (fillEntry (source.branch n) first doc).atD first.1 = .null
    · exact fillEntry_filled stored null
    · obtain ⟨c, hc⟩ := Fields.at?_of_isBelow below (Fields.at?_eq_some_atD null)
      obtain ⟨v, hv, nameless⟩ := object_fillFrom distinctRest hc (n + 1)
      rw [fillFrom, idOf_of_at? hv, nameless.name?] at named
      cases named

-- ---------------------------------------------------------------------------
-- Checking
-- ---------------------------------------------------------------------------

theorem keepsId_of_stored (stored : entry.2.virtuals = []) : KeepsId entry := by
  intro doc out id named ok
  obtain ⟨-, ⟨rfl, -⟩ | ⟨rfl, null⟩⟩ := checkEntry_ok stored ok
  · exact named
  obtain ⟨v, held, name⟩ := idOf_eq_some.mp named
  rw [idOf_eq]
  rcases Path.cases_lie entry.1 idPath with same | below | above | parts
  · rw [same, held] at null
    obtain rfl := Option.some.inj null
    simp [Value.name?] at name
  · exact absurd below (not_isBelow_of_idOf named null)
  · exact absurd above (idPath_above _)
  · rw [Fields.at?_remove_of_parts parts, held, Option.bind_some, name]

theorem keepsId_of_frame {field : VirtualField} (parts : Path.Parts path idPath)
    (frame : ∀ v doc, (field.assign v doc).at? idPath = doc.at? idPath) :
    KeepsId (path, .leaf (.virtual field) opts) := by
  intro doc out id named ok
  rwa [idOf_eq, at?_checkEntry_virtual parts frame ok, ← idOf_eq]

theorem idOf_checkEntries (keeps : ∀ entry ∈ entries, KeepsId entry)
    (ok : checkEntries entries doc = (.ok (), out)) (named : idOf doc = some id) :
    idOf out = some id :=
  checkEntries_induction (fun entry mem doc out h => keeps entry mem doc out id h) ok named

-- ---------------------------------------------------------------------------
-- Both passes
-- ---------------------------------------------------------------------------

/-- What a stored document should be: as it should be at every path, and stored under its id. -/
structure Conforms (schema : Schema) (id : String) (doc : Fields) : Prop where
  sound : ∀ entry ∈ schema.entries, Sound entry doc
  named : idOf doc = some id

/-- Whatever is filled and has an id conforms to the schema if it passes the check. A write fills
from the first branch of its source. -/
def Shelters (schema : Schema) : Prop :=
  ∀ (source : Source) fields id out, idOf (schema.fill (source.branch 0) fields) = some id →
    schema.check (schema.fill (source.branch 0) fields) = (.ok (), out) → schema.Conforms id out

/-- No setter undoes what was made sure of before it ran, nor does it change the id. -/
structure Steady (schema : Schema) : Prop where
  spares : schema.entries.Pairwise fun earlier later => Touches later earlier → Spares later earlier
  keepsId : ∀ entry ∈ schema.entries, entry.2.virtuals ≠ [] → KeepsId entry

variable {schema : Schema}

theorem Steady.shelters (steady : schema.Steady) : schema.Shelters := by
  intro source fields id out named checked
  refine ⟨checkEntries_sound steady.spares checked,
    idOf_checkEntries (fun entry mem => ?_) checked named⟩
  by_cases stored : entry.2.virtuals = []
  · exact keepsId_of_stored stored
  · exact steady.keepsId entry mem stored

/-- What is stored under an id that was once inserted, and is given that id as a text, has it in the
end as well. -/
theorem Shelters.conforms_of_given (shelters : schema.Shelters) {later : Source} {given : Fields}
    (distinct : (schema.entries.map Prod.fst).Nodup)
    (named : idOf (schema.fill (source.branch 0) fields) = some id)
    (checked : schema.check (schema.fill (source.branch 0) fields) = (.ok (), first))
    (again : schema.check (schema.fill (later.branch 0) (given.insert idPath.head (.string id)))
      = (.ok (), out)) : schema.Conforms id out := by
  have conforms := shelters source fields id first named checked
  obtain ⟨v, held, name⟩ := idOf_eq_some.mp conforms.named
  have reads : ∀ entry ∈ schema.entries, entry.1 = idPath → entry.2.isVirtual = false →
      (entry.2.coerce (.string id)).name? = some id := by
    intro entry mem here stored
    have sound := conforms.sound entry mem
    rw [Sound, stored, if_neg (by simp), here, Fields.atD_of_at? held] at sound
    exact name?_coerce stored sound name
  exact shelters later _ id out (idOf_fillFrom (isBare_of_idOf distinct named) distinct reads
    Fields.get?_insert_self (Value.name?_string name) 0) again

end Schema

end DocStore
