import DocStore.Proofs.Definition.Type
import DocStore.Proofs.Schema.Declare
import DocStore.Proofs.Schema.Place
import Mathlib.Data.List.Lex

/-!
# The schema of a definition

A field comes before its own fields, and these before the next field. Each path is then declared
after the ones above it, so that no object is made for one of those, and its type is the one that
its definition gives.
-/

namespace DocStore

/-! ### The fields of a definition -/

def FieldDefinition.fields : FieldDefinition → List (String × FieldDefinition)
  | .mk _ _ _ fields => fields

/-- Names are neither empty nor dotted, and stand in their order. -/
inductive ProperFields : List (String × FieldDefinition) → Prop
  | intro {fields} (plain : ∀ entry ∈ fields, entry.1 ≠ "" ∧ '.' ∉ entry.1.toList)
    (ascending : fields.Pairwise (·.1 < ·.1))
    (inner : ∀ entry ∈ fields, ProperFields entry.2.fields) : ProperFields fields

/-- The field at some keys: its name, after the names of those that it stands in. -/
inductive FieldAt : List (String × FieldDefinition) → List String → FieldDefinition → Prop
  | here {fields name field} : (name, field) ∈ fields → FieldAt fields [name] field
  | inside {fields name field keys inner} : (name, field) ∈ fields → FieldAt field.fields keys inner →
      FieldAt fields (name :: keys) inner

namespace ModelDefinition

def IsProper (model : ModelDefinition) : Prop := ProperFields model.fields

def Declares (model : ModelDefinition) (path : Path) (field : FieldDefinition) : Prop :=
  FieldAt model.fields path.keys field

def HasFault (model : ModelDefinition) : Prop :=
  ∃ path field, model.Declares path field ∧ field.Fails

/-- The schema has the id and each field, once. The id comes first, the others come in the order of
their keys: a path before those below it, and each key with all that is below it before the next. -/
structure Describes (model : ModelDefinition) (schema : Schema) : Prop where
  order : ∃ others, schema.entries.map Prod.fst = idPath :: others ∧ idPath ∉ others ∧
    (others.map Path.keys).Pairwise (· < ·)
  paths : ∀ path, path ∈ schema.entries.map Prod.fst ↔
    path = idPath ∨ ∃ field, model.Declares path field
  types : ∀ path field, model.Declares path field →
    ∃ type, schema.find? path = some type ∧ field.Gives type
  implicitId : (∀ field, ¬ model.Declares idPath field) →
    schema.find? idPath = some (.leaf (.id .nanoid) { required := true })

end ModelDefinition

/-! ### Their order -/

/-- The path of a name below another path, or at the top. -/
def Path.under (parent : Option Path) (name : String) : Path :=
  match parent with
  | some parent => parent ++ Path.ofText name
  | none => Path.ofText name

mutual
/-- A field and all that is below it, each before what is below it. -/
def FieldDefinition.places (path : Path) : FieldDefinition → List (Path × FieldDefinition)
  | .mk type traits items fields =>
    (path, .mk type traits items fields) :: placesIn (some path) fields
def placesIn (parent : Option Path) :
    List (String × FieldDefinition) → List (Path × FieldDefinition)
  | [] => []
  | (name, field) :: rest => field.places (Path.under parent name) ++ placesIn parent rest
end

theorem FieldDefinition.places_eq (path : Path) (field : FieldDefinition) :
    field.places path = (path, field) :: placesIn (some path) field.fields := by
  cases field
  rw [places, fields]

theorem placesIn_eq_flatMap (parent : Option Path) (fields : List (String × FieldDefinition)) :
    placesIn parent fields = fields.flatMap fun (name, field) =>
      (Path.under parent name, field) :: placesIn (some (Path.under parent name)) field.fields := by
  induction fields with
  | nil => rw [placesIn, List.flatMap_nil]
  | cons entry rest ih => rw [placesIn, ih, List.flatMap_cons, FieldDefinition.places_eq]

/-! ### Where fields stand -/

variable {fields : List (String × FieldDefinition)} {keys : List String} {field : FieldDefinition}
  {parent : Option Path} {path : Path}

theorem FieldAt.exists_cons (found : FieldAt fields keys field) :
    ∃ entry ∈ fields, ∃ rest, keys = entry.1 :: rest := by
  cases found with
  | here mem => exact ⟨_, mem, [], rfl⟩
  | inside mem => exact ⟨_, mem, _, rfl⟩

/-- On the way to a field there are those that it stands in. -/
theorem FieldAt.above {key : String} {before rest : List String}
    (found : FieldAt fields (key :: before ++ rest) field) :
    ∃ outer, FieldAt fields (key :: before) outer := by
  induction before generalizing fields key with
  | nil => cases found with | here mem | inside mem => exact ⟨_, .here mem⟩
  | cons next before ih =>
    cases found with
    | inside mem inner =>
      obtain ⟨outer, found⟩ := ih inner
      exact ⟨outer, .inside mem found⟩

theorem Path.keys_inj {p q : Path} (same : p.keys = q.keys) : p = q := by
  obtain ⟨head, rest⟩ := p
  cases q
  simpa [keys] using same

theorem lt_append_cons (before : List String) (key : String) (more : List String) :
    before < before ++ key :: more := by
  have longer := List.Lex.append_left (· < ·) (.nil : List.Lex _ [] (key :: more)) before
  rwa [List.append_nil] at longer

/-- The keys of a path, none at the top. -/
def keysOf (parent : Option Path) : List String := parent.elim [] Path.keys

theorem keys_under {name : String} (plain : '.' ∉ name.toList) :
    (Path.under parent name).keys = keysOf parent ++ [name] := by
  cases parent <;> (rw [Path.under, Path.ofText_plain plain]; rfl)

theorem keysOf_under {name : String} (plain : '.' ∉ name.toList) (keys : List String) :
    keysOf (some (Path.under parent name)) ++ keys = keysOf parent ++ name :: keys := by
  rw [keysOf, Option.elim_some, keys_under plain, List.append_assoc]
  rfl

/-- What is listed are the fields, each at the path of the keys that lead to it. -/
theorem mem_placesIn_iff (proper : ProperFields fields) : (path, field) ∈ placesIn parent fields ↔
    ∃ keys, path.keys = keysOf parent ++ keys ∧ FieldAt fields keys field := by
  induction proper generalizing parent with
  | @intro fields plain _ _ ih =>
    rw [placesIn_eq_flatMap, List.mem_flatMap]
    simp only [List.mem_cons, Prod.exists]
    constructor
    · rintro ⟨name, outer, mem, same | within⟩
      · obtain ⟨rfl, rfl⟩ := Prod.mk.inj same
        exact ⟨[name], keys_under (plain _ mem).2, .here mem⟩
      · obtain ⟨keys, same, found⟩ := (ih _ mem).mp within
        exact ⟨name :: keys, same.trans (keysOf_under (plain _ mem).2 keys), .inside mem found⟩
    · rintro ⟨_, same, @⟨_, name, _, mem⟩ | @⟨_, name, outer, keys, _, mem, found⟩⟩
      · refine ⟨name, field, mem, .inl (congrArg (·, field) (Path.keys_inj ?_))⟩
        rw [same, keys_under (plain _ mem).2]
      · have below := same.trans (keysOf_under (plain _ mem).2 keys).symm
        exact ⟨name, outer, mem, .inr ((ih _ mem).mpr ⟨keys, below, found⟩)⟩

/-- Before a place stand those with lesser keys. -/
theorem ascending_placesIn (proper : ProperFields fields) (parent : Option Path) :
    (placesIn parent fields).Pairwise fun earlier later => earlier.1.keys < later.1.keys := by
  induction proper generalizing parent with
  | @intro fields plain ascending inner ih =>
    -- a place below a name has the keys of the name and more
    have below {name : String} {field : FieldDefinition} (mem : (name, field) ∈ fields) {p}
        (within : p ∈ placesIn (some (Path.under parent name)) field.fields) :
        ∃ key more, p.1.keys = (keysOf parent ++ [name]) ++ key :: more := by
      obtain ⟨keys, same, found⟩ := (mem_placesIn_iff (inner _ mem)).mp within
      obtain ⟨entry, -, more, rfl⟩ := found.exists_cons
      rw [keysOf_under (plain _ mem).2] at same
      exact ⟨entry.1, more, by rw [same, List.append_assoc]; rfl⟩
    have own {name : String} {field : FieldDefinition} (mem : (name, field) ∈ fields) {p}
        (within : p ∈ (Path.under parent name, field) ::
          placesIn (some (Path.under parent name)) field.fields) :
        ∃ more, p.1.keys = keysOf parent ++ name :: more := by
      rcases List.mem_cons.mp within with rfl | within
      · exact ⟨[], keys_under (plain _ mem).2⟩
      · obtain ⟨key, more, same⟩ := below mem within
        exact ⟨key :: more, by rw [same, List.append_assoc]; rfl⟩
    rw [placesIn_eq_flatMap, List.pairwise_flatMap]
    constructor
    · rintro ⟨name, field⟩ mem
      refine List.pairwise_cons.mpr ⟨fun p within => ?_, ih _ mem _⟩
      obtain ⟨key, more, same⟩ := below mem within
      rw [same, keys_under (plain _ mem).2]
      exact lt_append_cons _ key more
    · refine ascending.imp_of_mem ?_
      rintro ⟨name, field⟩ ⟨name', field'⟩ mem mem' less p within p' within'
      obtain ⟨more, same⟩ := own mem within
      obtain ⟨more', same'⟩ := own mem' within'
      rw [same, same']
      exact List.Lex.append_left _ (.rel less) _

/-! ### Declaring them -/

/-- A place with the type that its definition gives, if there is one. -/
def typed (place : Path × FieldDefinition) : Except Error (Path × FieldType) :=
  (place.2.toType place.1).map (place.1, ·)

theorem declareIn_mk (path : Path) (schema : Schema) (field : FieldDefinition) :
    field.declareIn path schema = field.toType path >>= fun whole =>
      declareFieldsIn (some path) (schema.declare path whole) field.fields := by
  cases field
  rw [FieldDefinition.declareIn, FieldDefinition.fields]

theorem declareFieldsIn_cons (parent : Option Path) (schema : Schema) (name : String)
    (field : FieldDefinition) (rest : List (String × FieldDefinition)) :
    declareFieldsIn parent schema ((name, field) :: rest) =
      field.declareIn (Path.under parent name) schema >>= fun declared =>
        declareFieldsIn parent declared rest := by
  cases parent <;> simp only [declareFieldsIn, Path.under]

mutual
theorem FieldDefinition.declareIn_eq (path : Path) (schema : Schema) :
    ∀ field : FieldDefinition,
      field.declareIn path schema = ((field.places path).mapM typed).map schema.declareAll
  | .mk type traits items fields => by
    rw [declareIn_mk, FieldDefinition.places_eq, List.mapM_cons, typed]
    cases made : FieldDefinition.toType path (.mk type traits items fields) with
    | error e => rfl
    | ok whole =>
      have below := declareFieldsIn_eq (some path) (schema.declare path whole) fields
      simp only [bind, Except.bind, Except.map, FieldDefinition.fields, below]
      cases (placesIn (some path) fields).mapM typed <;> rfl
theorem declareFieldsIn_eq (parent : Option Path) (schema : Schema) :
    ∀ fields, declareFieldsIn parent schema fields =
      ((placesIn parent fields).mapM typed).map schema.declareAll
  | [] => by rw [declareFieldsIn, placesIn]; rfl
  | (name, field) :: rest => by
    rw [declareFieldsIn_cons, placesIn, List.mapM_append, field.declareIn_eq]
    cases (field.places (Path.under parent name)).mapM typed with
    | error e => rfl
    | ok first =>
      have later := declareFieldsIn_eq parent (schema.declareAll first) rest
      simp only [bind, Except.bind, Except.map, later]
      cases (placesIn parent rest).mapM typed with
      | error e => rfl
      | ok more => exact congrArg Except.ok (schema.declareAll_append first more).symm
end

/-! ### The schema -/

namespace ModelDefinition

variable {model : ModelDefinition}

/-- The fields of a model, each before those below it. -/
def places (model : ModelDefinition) : List (Path × FieldDefinition) := placesIn none model.fields

theorem mem_places_iff (proper : model.IsProper) :
    (path, field) ∈ model.places ↔ model.Declares path field := by
  rw [places, mem_placesIn_iff proper, Declares]
  exact ⟨fun ⟨_, same, found⟩ => same ▸ found, fun found => ⟨_, rfl, found⟩⟩

theorem ascending_places (proper : model.IsProper) :
    ((model.places.map Prod.fst).map Path.keys).Pairwise (· < ·) := by
  rw [List.pairwise_map, List.pairwise_map]
  exact ascending_placesIn proper none

theorem Declares.above {p q : Path} (declares : model.Declares p field) (below : p.IsBelow q) :
    ∃ outer, model.Declares q outer := by
  obtain ⟨key, rest, keys⟩ := below
  rw [Declares, keys, Path.keys] at declares
  exact FieldAt.above declares

theorem mem_before {p q : Path} {before after : List Path}
    (ascending : (before ++ p :: after).Pairwise fun earlier later => earlier.keys < later.keys)
    (mem : q ∈ before ++ p :: after) (less : q.keys < p.keys) : q ∈ before := by
  rcases List.mem_append.mp mem with mem | mem
  · exact mem
  · rcases List.mem_cons.mp mem with rfl | mem
    · exact absurd less (List.lt_irrefl _)
    · have later := (List.pairwise_cons.mp (List.pairwise_append.mp ascending).2.1).1 q mem
      exact absurd (List.lt_trans less later) (List.lt_irrefl _)

/-- A field lies after those that it stands in. -/
theorem descend_places (proper : model.IsProper) : Schema.Descend (model.places.map Prod.fst) where
  distinct := by
    have ascending := List.pairwise_map.mp (ascending_places proper)
    refine ascending.imp ?_
    rintro p _ less rfl
    exact List.lt_irrefl _ less
  plain p mem := by
    obtain ⟨⟨p, field⟩, held, rfl⟩ := List.mem_map.mp mem
    obtain ⟨entry, held, rest, same⟩ := ((mem_places_iff proper).mp held).exists_cons
    obtain ⟨plain⟩ := proper
    exact (List.cons.inj same).1 ▸ (plain entry held).1
  above before p after split q below := by
    have here : p ∈ model.places.map Prod.fst := by simp [split]
    obtain ⟨⟨p, field⟩, held, rfl⟩ := List.mem_map.mp here
    obtain ⟨outer, declares⟩ := ((mem_places_iff proper).mp held).above below
    have mem : q ∈ model.places.map Prod.fst :=
      List.mem_map.mpr ⟨(q, outer), (mem_places_iff proper).mpr declares, rfl⟩
    have ascending := List.pairwise_map.mp (ascending_places proper)
    obtain ⟨key, rest, keys⟩ := below
    rw [split] at mem ascending
    exact mem_before ascending mem (keys ▸ lt_append_cons q.keys key rest)

theorem toSchema_eq (model : ModelDefinition) :
    model.toSchema = (model.places.mapM typed).map Schema.initial.declareAll :=
  declareFieldsIn_eq none Schema.initial model.fields

theorem exists_typed_eq_error_iff {place : Path × FieldDefinition} :
    (∃ e, typed place = .error e) ↔ place.2.Fails := by
  simp only [typed, map_eq_error, FieldDefinition.exists_toType_eq_error_iff]

theorem exists_toSchema_eq_error_iff (proper : model.IsProper) :
    (∃ e, model.toSchema = .error e) ↔ model.HasFault := by
  simp only [toSchema_eq, map_eq_error, exists_mapM_eq_error_iff, exists_typed_eq_error_iff]
  constructor
  · rintro ⟨⟨path, field⟩, mem, fails⟩
    exact ⟨path, field, (mem_places_iff proper).mp mem, fails⟩
  · rintro ⟨path, field, declares, fails⟩
    exact ⟨(path, field), (mem_places_iff proper).mpr declares, fails⟩

theorem typed_eq_ok_iff {place : Path × FieldDefinition} {entry : Path × FieldType} :
    typed place = .ok entry ↔ entry.1 = place.1 ∧ place.2.Gives entry.2 := by
  obtain ⟨path, type⟩ := entry
  simp only [typed, map_eq_ok, FieldDefinition.toType_eq_ok_iff, Prod.mk.injEq]
  constructor
  · rintro ⟨_, gives, rfl, rfl⟩
    exact ⟨rfl, gives⟩
  · rintro ⟨rfl, gives⟩
    exact ⟨type, gives, rfl, rfl⟩

/-- What is declared when each place has its type. -/
structure Typed (model : ModelDefinition) (types : List (Path × FieldType)) : Prop where
  paths : types.map Prod.fst = model.places.map Prod.fst
  gives : ∀ path field, (path, field) ∈ model.places →
    ∃ type, (path, type) ∈ types ∧ field.Gives type

theorem typed_of_mapM {types : List (Path × FieldType)}
    (made : model.places.mapM typed = .ok types) : model.Typed types := by
  have each := mapM_eq_ok_iff.mp made
  simp only [typed_eq_ok_iff] at each
  have both : types.map Prod.fst = model.places.map Prod.fst ∧
      ∀ path field, (path, field) ∈ model.places →
        ∃ type, (path, type) ∈ types ∧ field.Gives type := by
    clear made
    generalize model.places = places at each
    induction each with
    | nil => exact ⟨rfl, by simp⟩
    | @cons place entry places types first _ ih =>
      obtain ⟨same, gives⟩ := first
      refine ⟨by rw [List.map_cons, List.map_cons, same, ih.1], fun path field mem => ?_⟩
      rcases List.mem_cons.mp mem with rfl | mem
      · exact ⟨entry.2, List.mem_cons.mpr (.inl (Prod.ext same.symm rfl)), gives⟩
      · obtain ⟨type, held, gives⟩ := ih.2 path field mem
        exact ⟨type, List.mem_cons_of_mem _ held, gives⟩
  exact ⟨both.1, both.2⟩

/-- The paths of a model, and what is found at them, once each place is declared with its type. -/
theorem Typed.describes {types : List (Path × FieldType)} (proper : model.IsProper)
    (typed : model.Typed types) : model.Describes (Schema.initial.declareAll types) := by
  have descend : Schema.Descend (types.map Prod.fst) := typed.paths ▸ descend_places proper
  have entries := Schema.entries_declareAll descend
  have places : ∀ path, path ∈ types.map Prod.fst ↔ ∃ field, model.Declares path field := by
    simp [typed.paths, mem_places_iff proper]
  have others : (types.filter fun entry => entry.1 ≠ idPath).map Prod.fst =
      (types.map Prod.fst).filter (· ≠ idPath) := by rw [List.filter_map]; rfl
  refine ⟨⟨_, by rw [entries, List.map_cons, others], by simp, ?_⟩, fun path => ?_, ?_, ?_⟩
  · have ascending := List.pairwise_map.mp (ascending_places proper)
    rw [← typed.paths] at ascending
    exact List.pairwise_map.mpr (ascending.filter _)
  · rw [entries, List.map_cons, others, List.mem_cons, List.mem_filter, places]
    by_cases own : path = idPath <;> simp [own]
  · intro path field declares
    obtain ⟨type, mem, gives⟩ := typed.gives path field ((mem_places_iff proper).mpr declares)
    refine ⟨type, Schema.find?_of_mem (Schema.distinct_declareAll types) ?_, gives⟩
    rw [entries, List.mem_cons]
    by_cases own : path = idPath
    · subst own
      have found : Schema.find? ⟨types⟩ idPath = some type :=
        Schema.find?_of_mem descend.distinct mem
      rw [Schema.find?] at found
      exact .inl (by rw [found, Option.getD_some])
    · exact .inr (List.mem_filter.mpr ⟨mem, by simpa using own⟩)
  · intro undeclared
    have absent : types.lookup idPath = none := by
      refine List.lookup_eq_none_iff.mpr fun entry mem => bne_iff_ne.mpr fun same => ?_
      obtain ⟨field, declares⟩ := (places idPath).mp (same ▸ List.mem_map_of_mem mem)
      exact undeclared field declares
    rw [Schema.find?, entries, absent]
    rfl

/-- A definition gives a schema unless one of its fields is, or has in the items of arrays, an
enumeration without values or a value or default that stands for nothing. The schema has the id and
then every field in order, with the type of its definition. -/
theorem toSchema_describes (proper : model.IsProper) :
    ((∃ e, model.toSchema = .error e) ↔ model.HasFault) ∧
      (¬ model.HasFault → ∃ schema, model.toSchema = .ok schema ∧ model.Describes schema) := by
  have fails := exists_toSchema_eq_error_iff proper
  refine ⟨fails, fun sound => ?_⟩
  rw [← fails, toSchema_eq] at sound
  cases made : model.places.mapM typed with
  | error e => exact absurd ⟨e, by rw [made]; rfl⟩ sound
  | ok types =>
    refine ⟨_, by rw [toSchema_eq, made]; rfl, (typed_of_mapM made).describes proper⟩

/-- The id keeps its place in front, though a field is before it in the order of names. -/
theorem toSchema_describes_posts :
    let author : List (String × FieldDefinition) := [
      ("born", .mk .date { default := some (.string "now") } .anything []),
      ("name", .mk .string { required := true } .anything [])]
    let posts : ModelDefinition := { fields := [
      ("Author", .mk .object {} .anything author),
      ("_id", .mk .id { strategy := some .ulid } .anything []),
      ("labels", .mk .array {} (.named .enumeration) []),
      ("tags", .mk .array {} (.defined (.mk .id { reference := some "Tag" } .anything [])) [])] }
    posts.IsProper ∧ ¬ posts.HasFault ∧ ∃ schema, posts.toSchema = .ok schema ∧
      posts.Describes schema ∧ schema.entries.map (·.1.text) =
        ["_id", "Author", "Author.born", "Author.name", "labels", "tags"] := by
  intro author posts
  have proper : posts.IsProper := by
    have none : ProperFields [] := .intro (by simp) .nil (by simp)
    have inner : ProperFields author :=
      .intro (by decide) (by decide) (by simp [author, FieldDefinition.fields, none])
    exact .intro (by decide) (by decide) (by simp [posts, FieldDefinition.fields, none, inner])
  obtain ⟨fails, gives⟩ := toSchema_describes proper
  have paths : posts.toSchema.map (fun schema => schema.entries.map (·.1.text)) =
      .ok ["_id", "Author", "Author.born", "Author.name", "labels", "tags"] := by rfl
  have sound : ¬ posts.HasFault := by
    rw [← fails]
    rintro ⟨e, failed⟩
    rw [failed] at paths
    cases paths
  obtain ⟨schema, made, describes⟩ := gives sound
  rw [made] at paths
  exact ⟨proper, sound, schema, made, describes, Except.ok.inj paths⟩

/-- Items that are not those of an array are not looked at. -/
theorem toSchema_items_unread :
    let titles : ModelDefinition := { fields := [
      ("title", .mk .string {} (.defined (.mk .enumeration {} .anything [])) [])] }
    titles.IsProper ∧
      (∃ path field inner, titles.Declares path field ∧ field.LeadsTo (fun _ => True) inner ∧
        inner.IsFaulty) ∧
      ∃ schema, titles.toSchema = .ok schema := by
  intro titles
  refine ⟨.intro (by decide) (by decide) ?_, ⟨⟨"title", []⟩, _, _,
    .here (List.mem_singleton.mpr rfl), .items trivial .self, .noValues rfl⟩, _, rfl⟩
  simp only [titles, List.mem_singleton, forall_eq]
  exact .intro (by simp [FieldDefinition.fields]) .nil (by simp [FieldDefinition.fields])

end ModelDefinition

end DocStore
