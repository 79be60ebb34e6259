import DocStore.Proofs.FieldType.Canonical
import DocStore.Proofs.Schema.Name

/-!
# Texts through the passes

A text at the path of a text or an id stays where it is, also when the document is filled again:
what has passed the check has nothing below the text, and above it only what leaves objects alone. A
required id is such a text in every checked document; so with constant defaults nothing is drawn for
it any more.
-/

namespace DocStore

namespace FieldType

/-- A text, or an id. -/
def IsText : FieldType → Prop
  | .leaf .string _ | .leaf (.id _) _ => True
  | _ => False

/-- The default is not the time at which it is asked for. -/
def IsConstant (type : FieldType) : Prop := type.options.default ≠ some .now

variable {type : FieldType} {path : Path} {v : Value}

theorem IsText.leaf (text : IsText type) :
    ∃ kind options, type = .leaf kind options ∧
      (kind = .string ∨ ∃ strategy, kind = .id strategy) := by
  cases type with
  | array child options => exact text.elim
  | leaf kind options =>
    cases kind with
    | string => exact ⟨_, _, rfl, .inl rfl⟩
    | id strategy => exact ⟨_, _, rfl, .inr ⟨strategy, rfl⟩⟩
    | _ => exact text.elim

theorem IsText.isVirtual (text : IsText type) : type.isVirtual = false := by
  obtain ⟨_, _, rfl, rfl | ⟨strategy, rfl⟩⟩ := text.leaf <;> rfl

theorem IsText.coerce_string (text : IsText type) (s : String) :
    type.coerce (.string s) = .string s := by
  obtain ⟨_, _, rfl, rfl | ⟨strategy, rfl⟩⟩ := text.leaf <;> rfl

theorem IsText.coerce_object (text : IsText type) (c : Fields) :
    type.coerce (.object c) = .object c := by
  obtain ⟨_, _, rfl, rfl | ⟨strategy, rfl⟩⟩ := text.leaf <;> rfl

theorem IsText.of_accepts (text : IsText type) (taken : Accepts path type v) (present : v ≠ .null) :
    ∃ s, v = .string s := by
  obtain ⟨kind, options, rfl, textual⟩ := text.leaf
  have stored : ∀ field, kind ≠ .virtual field := by
    rintro field rfl
    exact text
  have fault := fault?_of_accepts (virtuals_leaf_eq_nil.mpr stored) present taken
  rcases textual with rfl | ⟨strategy, rfl⟩ <;>
    cases v <;> first | exact ⟨_, rfl⟩ | simp [Kind.fault?] at fault

theorem IsText.present_of_required (text : IsText type) (required : type.isRequired = true)
    (taken : Accepts path type v) : v ≠ .null := by
  rintro rfl
  obtain ⟨_, options, rfl, textual⟩ := text.leaf
  have needed : options.required = true := required
  rcases textual with rfl | ⟨strategy, rfl⟩ <;>
    simp [Accepts, validate, Value.isNull, needed] at taken

/-- Only a fresh id is drawn anew, and only for a required id. -/
theorem default_congr (constant : type.IsConstant)
    (settled : ¬ (type.IsText ∧ type.isRequired = true)) (source other : Source) :
    type.default source = type.default other := by
  cases given : type.options.default with
  | some d =>
    cases d with
    | fixed v => simp only [default, given]
    | now => exact absurd given constant
  | none =>
    cases type with
    | array child options => simp only [default, given]
    | leaf kind options =>
      cases kind with
      | id strategy =>
        have free : options.required = false := by
          simpa [IsText, isRequired, FieldType.options] using settled
        simp [default, given, free]
      | _ => simp only [default, given]

end FieldType

namespace Schema

open FieldType

variable {entry : Path × FieldType} {entries : List (Path × FieldType)} {source other : Source}
  {doc out : Fields} {path : Path} {type : FieldType} {v : Value} {s : String}

/-- A text at the path stays a text: what is declared there is one, nothing below it has a default,
and nothing above it coerces. -/
structure IsSafe (entries : List (Path × FieldType)) (path : Path) : Prop where
  text : ∀ entry ∈ entries, entry.1 = path → entry.2.IsText
  bare : ∀ entry ∈ entries, entry.1.IsBelow path → ∀ source, entry.2.default source = .null
  still : ∀ entry ∈ entries, path.IsBelow entry.1 → ∀ v, entry.2.coerce v = v

-- ---------------------------------------------------------------------------
-- Filling
-- ---------------------------------------------------------------------------

theorem atD_below_text (held : doc.at? path = some (.string s)) (below : entry.1.IsBelow path) :
    doc.atD entry.1 = .null := by
  cases inner : doc.at? entry.1 with
  | none => simp [Fields.atD, inner]
  | some v =>
    obtain ⟨c, object⟩ := Fields.at?_of_isBelow below inner
    simp [held] at object

/-- What is below a text is absent, and what is above is an object that stays. -/
theorem at?_fillEntry_text (stored : entry.2.isVirtual = false)
    (text : entry.1 = path → entry.2.IsText)
    (bare : entry.1.IsBelow path → ∀ source, entry.2.default source = .null)
    (still : path.IsBelow entry.1 → ∀ v, entry.2.coerce v = v)
    (held : doc.at? path = some (.string s)) :
    (fillEntry source entry doc).at? path = some (.string s) := by
  rcases fillEntry_eq stored source doc with ⟨-, same⟩ | ⟨present, set⟩
  · rwa [same]
  rw [set]
  rcases Path.cases_lie entry.1 path with here | below | above | parts
  · have same := Fields.atD_of_at? held
    rw [← here] at same ⊢
    rw [same, cast_of_ne_null (by simp), (text here).coerce_string, Fields.at?_set_self]
  · exact absurd (by rw [atD_below_text held below]; exact bare below source) present
  · obtain ⟨c, object⟩ := Fields.at?_of_isBelow above held
    rw [Fields.atD_of_at? object, cast_of_ne_null (by simp), still above,
      Fields.set_eq_self object, held]
  · rw [Fields.at?_set_of_parts parts, held]

theorem at?_fillEntry_object (stored : entry.2.isVirtual = false)
    (text : entry.1 = path → entry.2.IsText)
    (still : path.IsBelow entry.1 → ∀ v, entry.2.coerce v = v)
    (held : ∃ c, doc.at? path = some (.object c)) :
    ∃ c, (fillEntry source entry doc).at? path = some (.object c) := by
  rcases fillEntry_eq stored source doc with ⟨-, same⟩ | ⟨-, set⟩
  · rwa [same]
  obtain ⟨c, held⟩ := held
  rw [set]
  rcases Path.cases_lie entry.1 path with here | below | above | parts
  · have same := Fields.atD_of_at? held
    rw [← here] at same ⊢
    exact ⟨c, by rw [same, cast_of_ne_null (by simp), (text here).coerce_object,
      Fields.at?_set_self]⟩
  · exact Fields.at?_set_of_isBelow below
  · obtain ⟨c', object⟩ := Fields.at?_of_isBelow above held
    exact ⟨c, by rw [Fields.atD_of_at? object, cast_of_ne_null (by simp), still above,
      Fields.set_eq_self object, held]⟩
  · exact ⟨c, by rw [Fields.at?_set_of_parts parts, held]⟩

theorem IsSafe.fillEntry (safe : IsSafe entries path) (mem : entry ∈ entries)
    (stored : entry.2.isVirtual = false) (held : doc.at? path = some (.string s)) :
    (fillEntry source entry doc).at? path = some (.string s) :=
  at?_fillEntry_text stored (safe.text entry mem) (safe.bare entry mem) (safe.still entry mem) held

theorem IsSafe.fillFrom {rest : List (Path × FieldType)} (safe : IsSafe entries path)
    (sub : rest ⊆ entries) (stored : ∀ entry ∈ entries, entry.2.virtuals = [])
    (held : doc.at? path = some (.string s)) (source : Source) (n : Nat) :
    (fillFrom source n rest doc).at? path = some (.string s) := by
  induction rest generalizing doc n with
  | nil => exact held
  | cons first rest ih =>
    obtain ⟨mem, sub⟩ := List.cons_subset.mp sub
    exact ih sub (safe.fillEntry mem (isVirtual_eq_false (stored first mem)) held) (n + 1)

theorem at?_fillFrom_object (stored : ∀ entry ∈ entries, entry.2.virtuals = [])
    (text : ∀ entry ∈ entries, entry.1 = path → entry.2.IsText)
    (still : ∀ entry ∈ entries, path.IsBelow entry.1 → ∀ v, entry.2.coerce v = v)
    (held : ∃ c, doc.at? path = some (.object c)) (n : Nat) :
    ∃ c, (fillFrom source n entries doc).at? path = some (.object c) := by
  induction entries generalizing doc n with
  | nil => exact held
  | cons first rest ih =>
    obtain ⟨storedFirst, stored⟩ := List.forall_mem_cons.mp stored
    obtain ⟨textFirst, text⟩ := List.forall_mem_cons.mp text
    obtain ⟨stillFirst, still⟩ := List.forall_mem_cons.mp still
    exact ih stored text still
      (at?_fillEntry_object (isVirtual_eq_false storedFirst) textFirst stillFirst held) (n + 1)

/-- A default below the path would have made an object of what is there. -/
theorem bare_of_fillFrom (stored : ∀ entry ∈ entries, entry.2.virtuals = [])
    (text : ∀ entry ∈ entries, entry.1 = path → entry.2.IsText)
    (still : ∀ entry ∈ entries, path.IsBelow entry.1 → ∀ v, entry.2.coerce v = v)
    (held : (fillFrom source n entries doc).at? path = some (.string s)) :
    ∀ entry ∈ entries, entry.1.IsBelow path → ∀ source, entry.2.default source = .null := by
  induction entries generalizing doc n with
  | nil => simp
  | cons first rest ih =>
    obtain ⟨storedFirst, stored⟩ := List.forall_mem_cons.mp stored
    have text := (List.forall_mem_cons.mp text).2
    have still := (List.forall_mem_cons.mp still).2
    refine List.forall_mem_cons.mpr ⟨fun below => ?_, ih stored text still held⟩
    by_cases null : (Schema.fillEntry (source.branch n) first doc).atD first.1 = .null
    · exact fillEntry_filled (isVirtual_eq_false storedFirst) null
    · have object := Fields.at?_of_isBelow below (Fields.at?_eq_some_atD null)
      obtain ⟨c, object⟩ := at?_fillFrom_object stored text still object (n + 1)
      rw [fillFrom, object] at held
      simp at held

/-- A text given at a path that nothing lies above is there in the end, or has given way to an
object. -/
theorem at?_fillFrom_given (stored : ∀ entry ∈ entries, entry.2.virtuals = [])
    (text : ∀ entry ∈ entries, entry.1 = path → entry.2.IsText)
    (top : ∀ entry ∈ entries, ¬ path.IsBelow entry.1)
    (held : doc.at? path = some (.string s)) (source : Source) (n : Nat) :
    (fillFrom source n entries doc).at? path = some (.string s) ∨
      ∃ c, (fillFrom source n entries doc).at? path = some (.object c) := by
  induction entries generalizing doc n with
  | nil => exact .inl held
  | cons first rest ih =>
    obtain ⟨storedFirst, stored⟩ := List.forall_mem_cons.mp stored
    obtain ⟨textFirst, text⟩ := List.forall_mem_cons.mp text
    obtain ⟨topFirst, top⟩ := List.forall_mem_cons.mp top
    have still : ∀ entry ∈ rest, path.IsBelow entry.1 → ∀ v, entry.2.coerce v = v :=
      fun entry mem above => absurd above (top entry mem)
    rcases fillEntry_eq (isVirtual_eq_false storedFirst) (source.branch n) doc with
      ⟨-, same⟩ | ⟨present, set⟩
    · exact ih stored text top (by rw [same]; exact held) (n + 1)
    by_cases below : first.1.IsBelow path
    · have object : ∃ c, (Schema.fillEntry (source.branch n) first doc).at? path =
          some (.object c) := by
        rw [set]
        exact Fields.at?_set_of_isBelow below
      exact .inr (at?_fillFrom_object stored text still object (n + 1))
    · have next : (Schema.fillEntry (source.branch n) first doc).at? path = some (.string s) :=
        at?_fillEntry_text (isVirtual_eq_false storedFirst) textFirst (fun h => absurd h below)
          (fun h => absurd h topFirst) held
      exact ih stored text top next (n + 1)

/-- The default is constant, unless a text is there. -/
theorem fillEntry_congr (constant : entry.2.IsConstant)
    (texts : entry.2.IsText → entry.2.isRequired = true → ∃ s, doc.at? entry.1 = some (.string s))
    (source other : Source) : fillEntry source entry doc = fillEntry other entry doc := by
  have same : entry.2.cast source (doc.atD entry.1) = entry.2.cast other (doc.atD entry.1) := by
    by_cases null : doc.atD entry.1 = .null
    · rw [null]
      refine default_congr constant ?_ source other
      rintro ⟨text, required⟩
      obtain ⟨s, held⟩ := texts text required
      rw [Fields.atD_of_at? held] at null
      simp at null
    · rw [cast_of_ne_null null, cast_of_ne_null null]
  simp only [fillEntry, same]

theorem fillFrom_congr {rest : List (Path × FieldType)} (sub : rest ⊆ entries)
    (stored : ∀ entry ∈ entries, entry.2.virtuals = [])
    (constant : ∀ entry ∈ entries, entry.2.IsConstant)
    (texts : ∀ entry ∈ rest, entry.2.IsText → entry.2.isRequired = true →
      IsSafe entries entry.1 ∧ ∃ s, doc.at? entry.1 = some (.string s))
    (source other : Source) (n : Nat) : fillFrom source n rest doc = fillFrom other n rest doc := by
  induction rest generalizing doc n with
  | nil => rfl
  | cons first rest ih =>
    obtain ⟨mem, sub⟩ := List.cons_subset.mp sub
    obtain ⟨textFirst, texts⟩ := List.forall_mem_cons.mp texts
    have same := fillEntry_congr (constant first mem)
      (fun text required => (textFirst text required).2) (source.branch n) (other.branch n)
    rw [fillFrom, fillFrom, same]
    refine ih sub (fun entry memRest text required => ?_) (n + 1)
    obtain ⟨safe, s, held⟩ := texts entry memRest text required
    exact ⟨safe, s, safe.fillEntry mem (isVirtual_eq_false (stored first mem)) held⟩

-- ---------------------------------------------------------------------------
-- Checking
-- ---------------------------------------------------------------------------

/-- A step of checking removes nothing but null. -/
theorem at?_checkEntry (stored : entry.2.virtuals = []) (present : v ≠ .null)
    (leaf : ∀ c, v ≠ .object c) (ok : checkEntry entry doc = (.ok (), out)) :
    out.at? path = some v ↔ doc.at? path = some v := by
  obtain ⟨-, ⟨rfl, -⟩ | ⟨rfl, null⟩⟩ := checkEntry_ok stored ok
  · rfl
  by_cases here : entry.1 = path
  · subst here
    simp [null, Ne.symm present]
  · rcases at?_remove_null null here with same | ⟨-, c, c', before, after⟩
    · rw [same]
    · simp [before, after, Ne.symm (leaf _)]

/-- Each step of checking has seen what is there in the end. -/
theorem seen_of_checkEntries (stored : ∀ entry ∈ entries, entry.2.virtuals = [])
    (present : v ≠ .null) (leaf : ∀ c, v ≠ .object c)
    (ok : checkEntries entries doc = (.ok (), out)) (held : out.at? path = some v) :
    doc.at? path = some v ∧ ∀ entry ∈ entries, ∃ seen : Fields,
      seen.at? path = some v ∧ entry.2.Accepts entry.1 (seen.atD entry.1) := by
  induction entries generalizing doc with
  | nil =>
    obtain ⟨-, rfl⟩ := Prod.mk.inj ok
    exact ⟨held, by simp⟩
  | cons first rest ih =>
    obtain ⟨storedFirst, stored⟩ := List.forall_mem_cons.mp stored
    obtain ⟨next, step, ok⟩ := checkEntries_cons ok
    obtain ⟨before, seen⟩ := ih stored ok
    have start := (at?_checkEntry storedFirst present leaf step).mp before
    exact ⟨start, List.forall_mem_cons.mpr ⟨⟨doc, start, (checkEntry_ok storedFirst step).1⟩, seen⟩⟩

theorem at?_checkEntries (stored : ∀ entry ∈ entries, entry.2.virtuals = [])
    (present : v ≠ .null) (leaf : ∀ c, v ≠ .object c)
    (ok : checkEntries entries doc = (.ok (), out)) (held : doc.at? path = some v) :
    out.at? path = some v :=
  checkEntries_induction (P := fun d => d.at? path = some v)
    (fun entry mem _ _ held step => (at?_checkEntry (stored entry mem) present leaf step).mpr held)
    ok held

/-- The step of a text or an id lets nothing else pass. -/
theorem text_of_checkEntry (stored : entry.2.virtuals = []) (text : entry.2.IsText)
    (ok : checkEntry entry doc = (.ok (), out)) (present : doc.atD entry.1 ≠ .null) :
    ∃ s, doc.at? entry.1 = some (.string s) ∧ out.at? entry.1 = some (.string s) := by
  obtain ⟨s, same⟩ := text.of_accepts (checkEntry_ok stored ok).1 present
  have held := same ▸ Fields.at?_eq_some_atD present
  exact ⟨s, held, (at?_checkEntry stored (by simp) (by simp) ok).mpr held⟩

theorem exists_text_of_required (stored : ∀ entry ∈ entries, entry.2.virtuals = [])
    (mem : entry ∈ entries) (text : entry.2.IsText) (required : entry.2.isRequired = true)
    (ok : checkEntries entries doc = (.ok (), out)) :
    ∃ s, out.at? entry.1 = some (.string s) := by
  induction entries generalizing doc with
  | nil => simp at mem
  | cons first rest ih =>
    obtain ⟨storedFirst, storedRest⟩ := List.forall_mem_cons.mp stored
    obtain ⟨next, step, later⟩ := checkEntries_cons ok
    rcases List.mem_cons.mp mem with rfl | mem
    · have present := text.present_of_required required (checkEntry_ok storedFirst step).1
      obtain ⟨s, -, held⟩ := text_of_checkEntry storedFirst text step present
      exact ⟨s, at?_checkEntries storedRest (by simp) (by simp) later held⟩
    · exact ih storedRest mem later

theorem not_object_of_checkEntries (stored : ∀ entry ∈ entries, entry.2.virtuals = [])
    (declared : path ∈ entries.map Prod.fst)
    (text : ∀ entry ∈ entries, entry.1 = path → entry.2.IsText)
    (ok : checkEntries entries doc = (.ok (), out)) (c : Fields) :
    doc.at? path ≠ some (.object c) := by
  intro object
  induction entries generalizing doc c with
  | nil => simp at declared
  | cons first rest ih =>
    obtain ⟨storedFirst, stored⟩ := List.forall_mem_cons.mp stored
    obtain ⟨textFirst, text⟩ := List.forall_mem_cons.mp text
    obtain ⟨next, step, later⟩ := checkEntries_cons ok
    by_cases here : first.1 = path
    · have taken := Fields.atD_of_at? (here ▸ object)
      obtain ⟨s, held, -⟩ := text_of_checkEntry storedFirst (textFirst here) step (by simp [taken])
      simp [here, object] at held
    · have declared : path ∈ rest.map Prod.fst := by simpa [Ne.symm here] using declared
      obtain ⟨-, ⟨rfl, -⟩ | ⟨rfl, null⟩⟩ := checkEntry_ok storedFirst step
      · exact ih stored declared text later c object
      rcases at?_remove_null null here with same | ⟨-, -, c', -, after⟩
      · exact ih stored declared text later c (same.trans object)
      · exact ih stored declared text later c' after

-- ---------------------------------------------------------------------------
-- Both passes
-- ---------------------------------------------------------------------------

/-- The schema has no virtual fields and no path twice, and its ids are texts. -/
structure IsNamed (schema : Schema) : Prop where
  stored : ∀ entry ∈ schema.entries, entry.2.virtuals = []
  distinct : (schema.entries.map Prod.fst).Nodup
  textual : ∃ type : FieldType, (idPath, type) ∈ schema.entries ∧ type.IsText

theorem isNamed_initial : initial.IsNamed where
  stored := by
    rintro entry mem
    obtain rfl := List.mem_singleton.mp mem
    rfl
  distinct := by decide
  textual := ⟨_, List.mem_singleton_self _, trivial⟩

variable {schema : Schema}

theorem IsNamed.text (named : schema.IsNamed) (mem : (path, type) ∈ schema.entries)
    (text : type.IsText) : ∀ entry ∈ schema.entries, entry.1 = path → entry.2.IsText := by
  intro entry memEntry here
  rw [List.inj_on_of_nodup_map named.distinct memEntry mem here]
  exact text

/-- A text in a document that was filled and has passed the check stays there. -/
theorem IsNamed.isSafe (named : schema.IsNamed) (mem : (path, type) ∈ schema.entries)
    (text : type.IsText) (ok : schema.check (schema.fill source doc) = (.ok (), out))
    (held : out.at? path = some (.string s)) : IsSafe schema.entries path := by
  have text := named.text mem text
  obtain ⟨start, seen⟩ := seen_of_checkEntries named.stored (by simp) (by simp) ok held
  have still : ∀ entry ∈ schema.entries, path.IsBelow entry.1 → ∀ v, entry.2.coerce v = v := by
    intro entry mem above
    obtain ⟨doc, held, taken⟩ := seen entry mem
    obtain ⟨c, object⟩ := Fields.at?_of_isBelow above held
    rw [Fields.atD_of_at? object] at taken
    exact coerce_of_accepts_object (named.stored entry mem) taken
  exact ⟨text, bare_of_fillFrom named.stored text still start, still⟩

/-- An id that was given as a text is that text in every checked document. -/
theorem IsNamed.at?_of_given (named : schema.IsNamed)
    (ok : schema.check (schema.fill source (doc.insert idPath.head (.string s))) = (.ok (), out)) :
    out.at? idPath = some (.string s) := by
  obtain ⟨type, mem, isText⟩ := named.textual
  have text := named.text mem isText
  have given : (doc.insert idPath.head (.string s)).at? idPath = some (.string s) :=
    Fields.get?_insert_self
  have filled := at?_fillFrom_given named.stored text (fun entry _ => idPath_above entry.1) given
    source 0
  refine at?_checkEntries named.stored (by simp) (by simp) ok (filled.resolve_right ?_)
  rintro ⟨c, object⟩
  exact not_object_of_checkEntries named.stored (List.mem_map_of_mem mem) text ok c object

/-- Whatever gave a document its id, it is a text once it is checked. -/
theorem IsNamed.at?_of_idOf (named : schema.IsNamed)
    (ok : schema.check (schema.fill source doc) = (.ok (), out))
    (own : idOf (schema.fill source doc) = some s) : out.at? idPath = some (.string s) := by
  obtain ⟨type, mem, text⟩ := named.textual
  have keeps := fun entry mem => keepsId_of_stored (named.stored entry mem)
  obtain ⟨v, held, name⟩ := idOf_eq_some.mp (idOf_checkEntries keeps ok own)
  have present : v ≠ .null := Value.ne_null_of_name? name
  have leaf : ∀ c, v ≠ .object c := by
    rintro c rfl
    simp [Value.name?] at name
  obtain ⟨seen, there, taken⟩ := (seen_of_checkEntries named.stored present leaf ok held).2 _ mem
  rw [Fields.atD_of_at? there] at taken
  obtain ⟨t, rfl⟩ := text.of_accepts taken present
  simp only [Value.name?, Option.ite_none_left_eq_some, Option.some.injEq] at name
  rw [held, name.2]

/-- With constant defaults, filling a checked document once more draws nothing. -/
theorem IsNamed.fill_congr (named : schema.IsNamed)
    (constant : ∀ entry ∈ schema.entries, entry.2.IsConstant)
    (ok : schema.check (schema.fill source doc) = (.ok (), out)) (first second : Source) :
    schema.fill first out = schema.fill second out := by
  refine fillFrom_congr (List.Subset.refl _) named.stored constant
    (fun entry mem text required => ?_) first second 0
  obtain ⟨s, held⟩ := exists_text_of_required named.stored mem text required ok
  exact ⟨named.isSafe mem text ok held, s, held⟩

end Schema

end DocStore
