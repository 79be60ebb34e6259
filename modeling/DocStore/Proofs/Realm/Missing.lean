import DocStore.Proofs.Realm.Names
import DocStore.Proofs.Realm.Population
import DocStore.Proofs.Realm.Report
import DocStore.Proofs.Schema.Place

/-!
# References that lead nowhere

A report goes by the shape of what a field holds: a text, or an array of texts. Populating goes by
the type of the field: an array type asks for an array. So each id is either warned of or shown,
unless a text stands where the type is an array. Casting leaves no text there but a default that is
one.
-/

namespace DocStore

/-- The path of the field that a warning is about. -/
def Warning.path? : Warning → Option Path
  | .undeclared _ => none
  | .unknownModel path _ => some path
  | .missing path _ _ => some path

def Warning.isMissing : Warning → Bool
  | .missing .. => true
  | _ => false

/-- What is said of the field of a path. -/
def Findings.about (found : Findings) (path : Path) : List Warning :=
  found.warnings.filter fun w => w.path? = some path

/-- The ids in a field: a text, or the texts of an array. -/
def idsAt (fields : Fields) (path : Path) : List String := (Realm.heldIds? fields path).getD []

/-- Nothing of what the field leads to is left out. -/
structure PopulationSpec.IsWhole (spec : PopulationSpec) : Prop where
  unfiltered : spec.selector = none
  uncut : spec.skip = 0
  unlimited : spec.limit = none

-- ---------------------------------------------------------------------------
-- Warnings of one field
-- ---------------------------------------------------------------------------

namespace Realm

variable {r : Realm} {m t : Model} {n : Nat} {fields : Fields} {path : Path} {type : FieldType}
  {target : String} {source : Source} {doc start : Document} {spec : PopulationSpec}

theorem brokenAt_of_absent (named : type.referenceTarget = some target)
    (absent : r.lookUp? n target = none) : r.brokenAt n fields path type =
      if (heldIds? fields path).isSome then [.unknownModel path target] else [] := by
  cases held : heldIds? fields path <;> simp [brokenAt, named, held, absent]

theorem brokenAt_of_registered (named : type.referenceTarget = some target)
    (registered : r.lookUp? n target = some t) : r.brokenAt n fields path type =
      ((idsAt fields path).filter fun id => !t.collection.contains id).map
        (.missing path target) := by
  cases held : heldIds? fields path <;> simp [brokenAt, named, idsAt, held, registered]

theorem path?_of_mem_brokenAt {w : Warning} (mem : w ∈ r.brokenAt n fields path type) :
    w.path? = some path := by
  cases named : type.referenceTarget with
  | none => simp [brokenAt, named] at mem
  | some target =>
    cases registered : r.lookUp? n target with
    | none =>
      rw [brokenAt_of_absent named registered] at mem
      split at mem
      · rw [List.mem_singleton.mp mem]
        rfl
      · cases mem
    | some t =>
      rw [brokenAt_of_registered named registered] at mem
      obtain ⟨id, -, rfl⟩ := List.mem_map.mp mem
      rfl

theorem broken_eq (attached : r.databaseOf? m = some n) (fields : Fields) :
    r.broken m fields =
      m.schema.entries.flatMap fun entry => r.brokenAt n fields entry.1 entry.2 := by
  simp only [broken, attached]

/-- What is said of a field comes from the look at its own references. -/
theorem findings_about (attached : r.databaseOf? m = some n)
    (distinct : (m.schema.entries.map Prod.fst).Nodup)
    (declared : m.schema.find? path = some type) :
    (r.findings m source doc).about path = r.brokenAt n doc.fields path type := by
  obtain ⟨before, after, split, -⟩ := List.lookup_eq_some_iff.mp declared
  obtain ⟨early, late⟩ := Schema.others_of_declared split distinct
  have others {entries : List (Path × FieldType)} (other : ∀ entry ∈ entries, entry.1 ≠ path) :
      (entries.flatMap fun entry => r.brokenAt n doc.fields entry.1 entry.2).filter
        (fun w => w.path? = some path) = [] := by
    refine List.filter_eq_nil_iff.mpr fun w mem => ?_
    obtain ⟨entry, held, mem⟩ := List.mem_flatMap.mp mem
    simpa [path?_of_mem_brokenAt mem] using other entry held
  have keys : (undeclared m.schema doc.fields).filter (fun w => w.path? = some path) = [] := by
    refine List.filter_eq_nil_iff.mpr fun w mem => ?_
    simp only [undeclared] at mem
    split at mem
    · cases mem
    · obtain ⟨key, -, rfl⟩ := List.mem_map.mp mem
      simp [Warning.path?]
  have own : (r.brokenAt n doc.fields path type).filter (fun w => w.path? = some path) =
      r.brokenAt n doc.fields path type :=
    List.filter_eq_self.mpr fun w mem => by simpa using path?_of_mem_brokenAt mem
  simp only [Findings.about, findings, broken_eq attached, split, List.filter_append, keys,
    List.flatMap_append, List.flatMap_cons, others early, others late, own, List.nil_append,
    List.append_nil]

theorem countP_isMissing (registered : r.lookUp? n target = some t)
    (named : type.referenceTarget = some target) :
    (r.brokenAt n fields path type).countP Warning.isMissing =
      (idsAt fields path).countP fun id => !t.collection.contains id := by
  rw [brokenAt_of_registered named registered, List.countP_map, List.countP_eq_length_filter,
    List.countP_eq_length_filter]
  have all (l : List String) : l.filter (Warning.isMissing ∘ Warning.missing path target) = l :=
    List.filter_eq_self.mpr fun _ _ => rfl
  rw [all]

end Realm

-- ---------------------------------------------------------------------------
-- Documents that are shown
-- ---------------------------------------------------------------------------

/-- Of all ids in the field those with a document are shown. -/
theorem Reference.Shows.length_docs {ref : Reference} {m : Model} {fields : Fields}
    {shown : Populated} (shows : ref.Shows m fields shown) (unfiltered : ref.filter = none)
    (whole : ref.spec.IsWhole) :
    shown.docs.length = (ref.ids fields).countP m.collection.contains := by
  rw [List.countP_eq_length_filter]
  cases shows with
  | one single finds => exact finds.length_eq.symm
  | @many docs sorted several finds sorts =>
    have all : docs.filter ref.wants = docs := by simp [wants, unfiltered]
    have kept : sorted.length = docs.length := by
      rw [← sorts.sort, all]
      simp [Query.sort, Query.withItems]
    simp [Populated.docs, cut, whole.uncut, whole.unlimited, kept, finds.length_eq.symm]

variable {ref : Reference} {fields : Fields} {id : String}

/-- A reference to many does not see a text. -/
theorem Reference.ids_of_text (several : ref.isMany = true)
    (held : fields.at? ref.spec.path = some (.string id)) : ref.ids fields = [] := by
  simp [ids, several, held, Value.array?]

theorem idsAt_of_text {path : Path} (held : fields.at? path = some (.string id)) :
    idsAt fields path = [id] := by
  simp [idsAt, Realm.heldIds?, held]

/-- Else it follows the ids that a report sees. -/
theorem Reference.ids_eq_idsAt
    (shape : ref.isMany = true ∨ ∃ id, fields.at? ref.spec.path = some (.string id))
    (other : ¬ (ref.isMany = true ∧ ∃ id, fields.at? ref.spec.path = some (.string id))) :
    ref.ids fields = idsAt fields ref.spec.path := by
  rcases shape with several | ⟨id, held⟩
  · have untexted : ∀ id, fields.at? ref.spec.path ≠ some (.string id) := fun id held =>
      other ⟨several, id, held⟩
    cases held : fields.at? ref.spec.path with
    | none => simp [ids, idsAt, Realm.heldIds?, several, held]
    | some v =>
      cases v with
      | string id => exact absurd held (untexted id)
      | _ => simp [ids, idsAt, Realm.heldIds?, several, held, Value.array?]
  · have single : ref.isMany = false :=
      Bool.eq_false_iff.mpr fun several => other ⟨several, id, held⟩
    simp [ids, idsAt_of_text held, single, held, Value.string?]

/-- Each id is missing or shown, unless it is a text that is not seen and has a document. -/
theorem Reference.Shows.countP_add_length {m : Model} {shown : Populated}
    (shows : ref.Shows m fields shown) (unfiltered : ref.filter = none) (whole : ref.spec.IsWhole)
    (shape : ref.isMany = true ∨ ∃ id, fields.at? ref.spec.path = some (.string id)) :
    ((idsAt fields ref.spec.path).countP fun id => !m.collection.contains id) + shown.docs.length =
        (idsAt fields ref.spec.path).length ↔
      ¬ (ref.isMany = true ∧ ∃ id, fields.at? ref.spec.path = some (.string id) ∧
        m.collection.contains id = true) := by
  rw [shows.length_docs unfiltered whole]
  by_cases unseen : ref.isMany = true ∧ ∃ id, fields.at? ref.spec.path = some (.string id)
  · obtain ⟨several, id, held⟩ := unseen
    rw [ids_of_text several held, idsAt_of_text held]
    cases there : m.collection.contains id <;> simp [several, held, there]
  · rw [ids_eq_idsAt shape unseen]
    refine iff_of_true ?_ fun ⟨several, id, held, _⟩ => unseen ⟨several, id, held⟩
    rw [List.length_eq_countP_add_countP m.collection.contains, Nat.add_comm]
    simp

-- ---------------------------------------------------------------------------
-- Fields that show no text
-- ---------------------------------------------------------------------------

namespace Schema

variable {schema : Schema} {entry : Path × FieldType} {entries : List (Path × FieldType)}
  {doc : Fields} {path : Path} {type : FieldType} {source : Source}

/-- A text at a path is not set by a field elsewhere that does not lead to it. -/
theorem at?_fillEntry_ne_string (beside : entry.1 ≠ path) (after : ¬ path.IsBelow entry.1)
    (other : ∀ id, doc.at? path ≠ some (.string id)) (id : String) :
    (fillEntry source entry doc).at? path ≠ some (.string id) := by
  cases stored : entry.2.isVirtual with
  | true => rw [fillEntry_of_isVirtual stored]; exact other id
  | false =>
    rcases fillEntry_eq stored source doc with ⟨-, same⟩ | ⟨-, set⟩
    · rw [same]
      exact other id
    · rw [set]
      generalize entry.2.cast source (doc.atD entry.1) = v
      rcases Path.cases_lie entry.1 path with same | below | below | parts
      · exact absurd same beside
      · obtain ⟨c, object⟩ : ∃ c, (doc.set entry.1 v).at? path = some (.object c) :=
          Fields.at?_set_of_isBelow below
        simp [object]
      · exact absurd below after
      · rw [Fields.at?_set_of_parts parts]
        exact other id

theorem at?_fillFrom_ne_string {k : Nat} (beside : ∀ entry ∈ entries, entry.1 ≠ path)
    (after : ∀ entry ∈ entries, ¬ path.IsBelow entry.1)
    (other : ∀ id, doc.at? path ≠ some (.string id)) (id : String) :
    (fillFrom source k entries doc).at? path ≠ some (.string id) := by
  induction entries generalizing k doc with
  | nil => exact other id
  | cons entry rest ih =>
    obtain ⟨beside, besides⟩ := List.forall_mem_cons.mp beside
    obtain ⟨after, afters⟩ := List.forall_mem_cons.mp after
    exact ih besides afters (at?_fillEntry_ne_string beside after other)

/-- An array type casts to an array or to its default. -/
theorem cast_ne_string (several : type.isArray = true)
    (untexted : ∀ id, type.options.default ≠ some (.fixed (.string id))) (v : Value) (id : String) :
    type.cast source v ≠ .string id := by
  cases type with
  | leaf kind options => cases several
  | array child options =>
    rw [FieldType.cast]
    split
    · unfold FieldType.default
      split
      · rename_i v fixed
        rintro rfl
        exact untexted id fixed
      · simp
      · simp
    · cases v <;> simp_all [FieldType.coerce, Value.isNull]

/-- Where the type is an array, a document shows no text unless that is the default. -/
theorem at?_fill_ne_string (inOrder : schema.InOrder)
    (distinct : (schema.entries.map Prod.fst).Nodup) (declared : schema.find? path = some type)
    (several : type.isArray = true)
    (untexted : ∀ id, type.options.default ≠ some (.fixed (.string id))) (id : String) :
    (schema.fill source doc).at? path ≠ some (.string id) := by
  obtain ⟨before, after, split, -⟩ := List.lookup_eq_some_iff.mp declared
  obtain ⟨-, beside⟩ := others_of_declared split distinct
  have order := inOrder.order
  rw [split, List.map_append, List.map_cons] at order
  have below := (List.pairwise_cons.mp (List.pairwise_append.mp order).2.1).1
  rw [fill, split, fillFrom_append, fillFrom]
  refine at?_fillFrom_ne_string beside
    (fun entry mem => below entry.1 (List.mem_map_of_mem mem)) (fun id => ?_) id
  have stored : type.isVirtual = false := by
    cases type with
    | leaf kind options => cases several
    | array child options => rfl
  generalize fillFrom source 0 before doc = doc
  generalize source.branch _ = source
  rcases @fillEntry_eq (path, type) stored source doc with ⟨null, same⟩ | ⟨-, set⟩
  · rw [same]
    intro held
    rw [Fields.atD_of_at? held] at null
    cases type with
    | leaf kind options => cases several
    | array child options => cases null
  · rw [set, Fields.at?_set_self]
    exact fun same => cast_ne_string several untexted _ id (Option.some.inj same)

end Schema

-- ---------------------------------------------------------------------------
-- Reports and populating
-- ---------------------------------------------------------------------------

namespace Realm

variable {r : Realm} {m t : Model} {n : Nat} {fields : Fields} {path : Path} {type : FieldType}
  {target : String} {found : Findings} {start : Document} {spec : PopulationSpec}

/-- Populating refuses the path of an unknown model. -/
theorem populate_of_absent (own : r.model? start.model.number = some m)
    (attached : r.databaseOf? m = some n) (declared : m.schema.find? spec.path = some type)
    (named : spec.target? type = some target) (absent : r.lookUp? n target = none) :
    r.populate start [spec] = .error (.population (.unknownModel target)) := by
  have refuses : r.Refuses m spec (.population (.unknownModel target)) :=
    .unregistered declared named attached absent
  have refused : r.references m [spec] = .error (.population (.unknownModel target)) := by
    rw [references, List.mapM_cons, refuses.eq]
    rfl
  simp only [populate, own, refused]
  rfl

/-- Populating a path alone attaches the reference of its spec. -/
theorem populate_of_refers {ref : Reference} (own : r.model? start.model.number = some m)
    (refers : r.Refers m spec ref) : r.populate start [spec] = .ok (start.attach ref) :=
  (populate_eq_ok_iff own).mpr ⟨[ref], .cons refers .nil, rfl⟩

/-- What is said of a field against what a spec shows of it. Each id in it is missing or shown,
unless it is a text that has a document and stands where the type is an array. -/
structure Tallies (r : Realm) (m : Model) (n : Nat) (path : Path) (type : FieldType)
    (target : String) (found : Findings) (fields : Fields) : Prop where
  absent : r.lookUp? n target = none → found.about path =
    if (heldIds? fields path).isSome then [.unknownModel path target] else []
  registered : ∀ t, r.lookUp? n target = some t →
    type.isArray = true ∨ (∃ id, fields.at? path = some (.string id)) →
    ∀ start, start.model = m.handle → start.fields.at? path = fields.at? path →
    ∀ spec, spec.path = path → spec.target? type = some target → spec.IsWhole →
      ∃ doc, r.populate start [spec] = .ok doc ∧
        ∀ source, ∃ shown, (r.populated? source doc path).1 = some shown ∧
          ((found.about path).countP Warning.isMissing + shown.docs.length =
              (idsAt fields path).length ↔
            ¬ (type.isArray = true ∧ ∃ id, fields.at? path = some (.string id) ∧
              t.collection.contains id = true))

theorem tallies (lived : Lived r) (own : r.model? m.handle.number = some m)
    (attached : r.databaseOf? m = some n) (distinct : (m.schema.entries.map Prod.fst).Nodup)
    (declared : m.schema.find? path = some type) (named : type.referenceTarget = some target)
    (source : Source) (doc : Document) :
    r.Tallies m n path type target (r.findings m source doc) doc.fields := by
  have about : (r.findings m source doc).about path = r.brokenAt n doc.fields path type :=
    findings_about attached distinct declared
  constructor
  · intro absent
    rw [about, brokenAt_of_absent named absent]
  · rintro t registered shape start model same spec rfl names whole
    have filters : spec.selector.map t.schema.compileQuery = (none : Option Predicate).map .ok := by
      rw [whole.unfiltered]
      rfl
    obtain ⟨ref, refers, leads, many, unfiltered, rfl⟩ : ∃ ref, r.Refers m spec ref ∧
        ref.target = t.handle ∧ ref.isMany = type.isArray ∧ ref.filter = none ∧ ref.spec = spec :=
      ⟨_, .intro declared names attached registered filters, rfl, rfl, rfl, rfl⟩
    refine ⟨_, populate_of_refers (model ▸ own) refers, fun source => ?_⟩
    refine ⟨_, (start.awaits_attach ref).populated?_fst r source, ?_⟩
    have there : r.model? ref.target.number = some t :=
      leads ▸ (lived.orderly.lookup_of_lookUp? registered).2
    have ids : idsAt start.fields ref.spec.path = idsAt doc.fields ref.spec.path := by
      simp only [idsAt, heldIds?, same]
    have counts := (resolve_shows there source start.fields).countP_add_length unfiltered whole
      (by rwa [many, same])
    rw [ids, many, same] at counts
    rw [about, countP_isMissing registered named]
    exact counts

/-- For each document and each reference of its schema: if the target has no model, populating fails
and the report says so wherever the field holds a text or an array. If it has one, the ids that the
report misses are as many as those that populating does not show, unless a text that names a
document stands where the type is an array. Only a default can have put it there. -/
theorem report_tallies (lived : Lived r) (own : r.model? m.handle.number = some m)
    (attached : r.databaseOf? m = some n) (distinct : (m.schema.entries.map Prod.fst).Nodup)
    (declared : m.schema.find? path = some type) (named : type.referenceTarget = some target)
    (source : Source) :
    (r.lookUp? n target = none → ∀ start, start.model = m.handle → ∀ spec, spec.path = path →
      spec.target? type = some target →
        r.populate start [spec] = .error (.population (.unknownModel target))) ∧
    (∃ all : List Findings,
      (r.report m source).documents =
        all.filter (fun found => !found.errors.isEmpty || !found.warnings.isEmpty) ∧
      List.Forall₂ (fun e found => ∃ lookup,
        r.Tallies m n path type target found (m.documentOf lookup e.2).fields)
        m.collection.entries all) ∧
    (m.schema.InOrder → type.isArray = true →
      (∀ id, type.options.default ≠ some (.fixed (.string id))) →
        ∀ lookup stored id, (m.documentOf lookup stored).fields.at? path ≠ some (.string id)) := by
  refine ⟨?_, ⟨_, rfl, ?_⟩, ?_⟩
  · rintro absent start model spec rfl names
    exact populate_of_absent (model ▸ own) attached declared names absent
  · rw [List.forall₂_map_right_iff]
    refine (forall₂_zipIdx (shows_query m (source.branch 0)) 0).imp ?_
    rintro e ⟨doc, i⟩ ⟨lookup, rfl⟩
    exact ⟨lookup, tallies lived own attached distinct declared named _ _⟩
  · exact fun inOrder several untexted lookup stored id =>
      Schema.at?_fill_ne_string inOrder distinct declared several untexted id

/-- A tag that was removed is named twice, and null and an array are no ids: two are missing and
two are shown. -/
theorem report_tallies_tags :
    let tags : Path := ⟨"tags", []⟩
    let type : FieldType := .array (.leaf .string { reference := some "Tag" }) {}
    let tag : Model :=
      { handle := ⟨0, "Tag", Schema.initial⟩, database := some 0
        collection := { slots := [("t1", some [("_id", .string "t1")]), ("t2", none)], size := 1 } }
    let ids : List Value := [.string "t1", .string "t2", .null, .array [.string "t1"],
      .string "t2", .string "t1"]
    let stored : Fields := [("_id", .string "p"), ("tags", .array ids)]
    let post : Model :=
      { handle := ⟨1, "Post", Schema.initial.declareAll [(tags, type)]⟩, database := some 0
        collection := { slots := [("p", some stored)], size := 1 } }
    let r : Realm :=
      { models := [tag, post]
        databases := [{ settings := {}, registry := [("Tag", 0), ("Post", 1)] }] }
    let source : Source := ⟨fun _ => 0, ⟨0, 0⟩, []⟩
    (Lived r ∧ r.model? post.handle.number = some post ∧ r.databaseOf? post = some 0 ∧
      (post.schema.entries.map Prod.fst).Nodup ∧ post.schema.find? tags = some type ∧
      type.referenceTarget = some "Tag") ∧
    ∃ found lookup, (r.report post source).documents = [found] ∧
      found.warnings.map Warning.text =
        ["Field 'tags' references missing Tag 't2'", "Field 'tags' references missing Tag 't2'"] ∧
      idsAt (post.documentOf lookup stored).fields tags = ["t1", "t2", "t2", "t1"] ∧
      r.Tallies post 0 tags type "Tag" found (post.documentOf lookup stored).fields := by
  intro tags type tag ids stored post r source
  have lived : Lived r :=
    ((((Lived.empty.opened {}).registered 0 "Tag" Schema.initial {}).registered 0 "Post"
      post.handle.schema {}).stored (m := tag) rfl rfl).stored (m := post) rfl rfl
  have own : r.model? post.handle.number = some post := rfl
  have attached : r.databaseOf? post = some 0 := rfl
  have distinct : (post.schema.entries.map Prod.fst).Nodup := Schema.distinct_declareAll _
  have declared : post.schema.find? tags = some type := rfl
  have named : type.referenceTarget = some "Tag" := rfl
  obtain ⟨-, ⟨all, shown, each⟩, -⟩ :=
    report_tallies lived own attached distinct declared named source
  obtain ⟨found, rest, ⟨lookup, counts⟩, others, rfl⟩ := List.forall₂_cons_left_iff.mp each
  obtain rfl := List.forall₂_nil_left_iff.mp others
  have texts : (r.report post source).documents.map (fun found => found.warnings.map Warning.text) =
      [["Field 'tags' references missing Tag 't2'",
        "Field 'tags' references missing Tag 't2'"]] := by cbv
  have kept : (r.report post source).documents = [found] := by
    rw [shown] at texts ⊢
    cases keep : !found.errors.isEmpty || !found.warnings.isEmpty <;> simp [keep] at texts ⊢
  have ids : idsAt (post.documentOf lookup stored).fields tags = ["t1", "t2", "t2", "t1"] := by cbv
  rw [kept] at texts
  exact ⟨⟨lived, own, attached, distinct, declared, named⟩, found, lookup, kept,
    (List.cons.inj texts).1, ids, counts⟩

/-- A text that is the default of an array of ids: the tag is there, so that nothing is warned of,
and yet no tag is shown. -/
theorem not_report_tallies :
    let tags : Path := ⟨"tags", []⟩
    let type : FieldType := .array (.leaf (.id .nanoid) { reference := some "Tag" })
      { default := some (.fixed (.string "t1")) }
    let tag : Model :=
      { handle := ⟨0, "Tag", Schema.initial⟩, database := some 0
        collection := { slots := [("t1", some [("_id", .string "t1")])], size := 1 } }
    let stored : Fields := [("_id", .string "p")]
    let post : Model :=
      { handle := ⟨1, "Post", Schema.initial.declareAll [(tags, type)]⟩, database := some 0
        collection := { slots := [("p", some stored)], size := 1 } }
    let r : Realm :=
      { models := [tag, post]
        databases := [{ settings := {}, registry := [("Tag", 0), ("Post", 1)] }] }
    let source : Source := ⟨fun _ => 0, ⟨0, 0⟩, []⟩
    Lived r ∧ r.databaseOf? post = some 0 ∧ r.lookUp? 0 "Tag" = some tag ∧
      (r.report post source).documents.flatMap Findings.warnings = [] ∧
      ∃ start doc, post.findById source "p" = some start ∧ idsAt start.fields tags = ["t1"] ∧
        r.populate start [{ path := tags }] = .ok doc ∧
        (r.populated? source doc tags).1 = some (.many []) := by
  intro tags type tag stored post r source
  have lived : Lived r :=
    ((((Lived.empty.opened {}).registered 0 "Tag" Schema.initial {}).registered 0 "Post"
      post.handle.schema {}).stored (m := tag) rfl rfl).stored (m := post) rfl rfl
  have silent : (r.report post source).documents.flatMap Findings.warnings = [] := by cbv
  have ids : idsAt (post.documentOf source stored).fields tags = ["t1"] := by cbv
  refine ⟨lived, rfl, rfl, silent, _, _, rfl, ids, rfl, ?_⟩
  cbv

end Realm

end DocStore
