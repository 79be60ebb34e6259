import DocStore.Proofs.FieldType.Validate
import DocStore.Proofs.Query.Sort
import DocStore.Realm.Population
import Mathlib.Data.List.Forall2
import Mathlib.Data.Option.Basic

/-!
# References

A population spec becomes a reference or is refused, for one of five causes, by the schema and the
names of models alone. What a reference leads to are the documents of the ids in a field, as they are
when it is followed.
-/

namespace DocStore

-- ---------------------------------------------------------------------------
-- The model that a spec leads to
-- ---------------------------------------------------------------------------

/-- A type, the type of its items if it is an array, and so on inwards. -/
def FieldType.layers : FieldType → List FieldType
  | .leaf kind options => [.leaf kind options]
  | .array child options => .array child options :: child.layers

theorem FieldType.referenceTarget_eq (type : FieldType) :
    type.referenceTarget = type.layers.findSome? (·.options.reference) := by
  induction type with
  | leaf kind opts => cases named : opts.reference <;> simp [referenceTarget, layers, options, named]
  | array child opts ih =>
    cases named : opts.reference <;> simp [referenceTarget, layers, options, named, ih]

/-- The spec names the model itself, or else the outermost layer of the type that names one does. -/
def PopulationSpec.target? (spec : PopulationSpec) (type : FieldType) : Option String :=
  spec.model <|> type.layers.findSome? (·.options.reference)

theorem PopulationSpec.target?_eq (spec : PopulationSpec) (type : FieldType) :
    spec.target? type = (spec.model <|> type.referenceTarget) := by
  rw [target?, type.referenceTarget_eq]

theorem PopulationSpec.target?_eq_none_iff {spec : PopulationSpec} {type : FieldType} :
    spec.target? type = none ↔
      spec.model = none ∧ ∀ layer ∈ type.layers, layer.options.reference = none := by
  cases named : spec.model <;> simp [target?, named]

-- ---------------------------------------------------------------------------
-- Specs taken and refused
-- ---------------------------------------------------------------------------

namespace Realm

variable {r : Realm} {start : Model} {spec : PopulationSpec} {ref : Reference} {e : Error}

/-- The reference that a spec becomes for documents of a model. -/
inductive Refers (r : Realm) (start : Model) (spec : PopulationSpec) : Reference → Prop
  | intro {type : FieldType} {name : String} {n : Nat} {target : Model} {filter : Option Predicate}
      (declared : start.schema.find? spec.path = some type) (named : spec.target? type = some name)
      (attached : r.databaseOf? start = some n) (registered : r.lookUp? n name = some target)
      (compiles : spec.selector.map target.schema.compileQuery = filter.map .ok) :
      Refers r start spec { spec, target := target.handle, isMany := type.isArray, filter }

/-- The causes for which a spec is refused. -/
inductive Refuses (r : Realm) (start : Model) (spec : PopulationSpec) : Error → Prop
  | undeclared (absent : start.schema.find? spec.path = none) :
      Refuses r start spec (.population (.unknownPath spec.path start.handle.name))
  | unreferenced {type : FieldType} (declared : start.schema.find? spec.path = some type)
      (unnamed : spec.model = none) (plain : ∀ layer ∈ type.layers, layer.options.reference = none) :
      Refuses r start spec (.population (.noReference spec.path))
  | detached {type : FieldType} {name : String} (declared : start.schema.find? spec.path = some type)
      (named : spec.target? type = some name) (detached : r.databaseOf? start = none) :
      Refuses r start spec (.population (.detached start.handle.name))
  | unregistered {type : FieldType} {name : String} {n : Nat}
      (declared : start.schema.find? spec.path = some type) (named : spec.target? type = some name)
      (attached : r.databaseOf? start = some n) (absent : r.lookUp? n name = none) :
      Refuses r start spec (.population (.unknownModel name))
  | uncompiled {type : FieldType} {name : String} {n : Nat} {target : Model} {selector : Selector}
      {e : Error} (declared : start.schema.find? spec.path = some type)
      (named : spec.target? type = some name) (attached : r.databaseOf? start = some n)
      (registered : r.lookUp? n name = some target) (given : spec.selector = some selector)
      (fails : target.schema.compileQuery selector = .error e) :
      Refuses r start spec e

theorem Refers.eq (refers : r.Refers start spec ref) : r.reference start spec = .ok ref := by
  cases refers with
  | @intro type name n target filter declared named attached registered compiles =>
    rw [PopulationSpec.target?_eq] at named
    simp only [reference, declared, named, attached, registered]
    cases given : spec.selector with
    | none =>
      obtain rfl : filter = none := by simpa [given, eq_comm] using compiles
      rfl
    | some selector =>
      rw [given, Option.map_some, eq_comm, Option.map_eq_some_iff] at compiles
      obtain ⟨p, rfl, compiled⟩ := compiles
      simp [← compiled, Except.map, bind, Except.bind]

theorem Refuses.eq (refuses : r.Refuses start spec e) : r.reference start spec = .error e := by
  cases refuses with
  | undeclared absent => simp only [reference, absent]
  | unreferenced declared unnamed plain =>
    have unnamed := PopulationSpec.target?_eq_none_iff.mpr ⟨unnamed, plain⟩
    rw [PopulationSpec.target?_eq] at unnamed
    simp only [reference, declared, unnamed]
  | detached declared named detached =>
    rw [PopulationSpec.target?_eq] at named
    simp only [reference, declared, named, detached]
  | unregistered declared named attached absent =>
    rw [PopulationSpec.target?_eq] at named
    simp only [reference, declared, named, attached, absent]
  | uncompiled declared named attached registered given fails =>
    rw [PopulationSpec.target?_eq] at named
    simp [reference, declared, named, attached, registered, given, fails, Except.map, bind,
      Except.bind]

theorem refers_or_refuses (r : Realm) (start : Model) (spec : PopulationSpec) :
    (∃ ref, r.Refers start spec ref) ∨ ∃ e, r.Refuses start spec e := by
  cases declared : start.schema.find? spec.path with
  | none => exact .inr ⟨_, .undeclared declared⟩
  | some type =>
    cases named : spec.target? type with
    | none =>
      obtain ⟨unnamed, plain⟩ := PopulationSpec.target?_eq_none_iff.mp named
      exact .inr ⟨_, .unreferenced declared unnamed plain⟩
    | some name =>
      cases attached : r.databaseOf? start with
      | none => exact .inr ⟨_, .detached declared named attached⟩
      | some n =>
        cases registered : r.lookUp? n name with
        | none => exact .inr ⟨_, .unregistered declared named attached registered⟩
        | some target =>
          cases given : spec.selector with
          | none =>
            have filters : spec.selector.map target.schema.compileQuery =
                (none : Option Predicate).map .ok := by rw [given]; rfl
            exact .inl ⟨_, .intro declared named attached registered filters⟩
          | some selector =>
            cases compiled : target.schema.compileQuery selector with
            | ok p =>
              have filters : spec.selector.map target.schema.compileQuery =
                  (some p).map .ok := by rw [given, Option.map_some, compiled]; rfl
              exact .inl ⟨_, .intro declared named attached registered filters⟩
            | error e =>
              exact .inr ⟨_, .uncompiled declared named attached registered given compiled⟩

theorem reference_eq_ok_iff : r.reference start spec = .ok ref ↔ r.Refers start spec ref := by
  refine ⟨fun taken => ?_, Refers.eq⟩
  rcases r.refers_or_refuses start spec with ⟨other, refers⟩ | ⟨e, refuses⟩
  · obtain rfl := Except.ok.inj (refers.eq.symm.trans taken)
    exact refers
  · cases refuses.eq.symm.trans taken

theorem reference_eq_error_iff : r.reference start spec = .error e ↔ r.Refuses start spec e := by
  refine ⟨fun refused => ?_, Refuses.eq⟩
  rcases r.refers_or_refuses start spec with ⟨ref, refers⟩ | ⟨other, refuses⟩
  · cases refers.eq.symm.trans refused
  · obtain rfl := Except.error.inj (refuses.eq.symm.trans refused)
    exact refuses

theorem Refers.spec_eq (refers : r.Refers start spec ref) : ref.spec = spec := by
  cases refers
  rfl

theorem references_eq_ok_iff {population : Population} {refs : List Reference} :
    r.references start population = .ok refs ↔ List.Forall₂ (r.Refers start) population refs := by
  simp only [references, mapM_eq_ok_iff, reference_eq_ok_iff]

theorem exists_references_eq_error_iff {population : Population} :
    (∃ e, r.references start population = .error e) ↔
      ∃ spec ∈ population, ∃ e, r.Refuses start spec e := by
  simp only [references, exists_mapM_eq_error_iff, reference_eq_error_iff]

end Realm

-- ---------------------------------------------------------------------------
-- Specs and what is stored
-- ---------------------------------------------------------------------------

/-- The model with nothing stored. -/
def Model.emptied (m : Model) : Model := { m with collection := {} }

namespace Realm

variable {r : Realm} {start : Model} {spec : PopulationSpec} {ref : Reference} {e : Error}

/-- The realm with nothing stored in any model. -/
def emptied (r : Realm) : Realm := { r with models := r.models.map Model.emptied }

theorem model?_emptied (r : Realm) (number : Nat) :
    r.emptied.model? number = (r.model? number).map Model.emptied := List.getElem?_map

theorem lookUp?_emptied (r : Realm) (n : Nat) (name : String) :
    r.emptied.lookUp? n name = (r.lookUp? n name).map Model.emptied := by
  have same : r.emptied.registry n = r.registry n := rfl
  rw [lookUp?, lookUp?, same]
  cases (r.registry n).lookup name with
  | none => rfl
  | some number => exact r.model?_emptied number

theorem Refers.emptied (refers : r.Refers start spec ref) :
    r.emptied.Refers start.emptied spec ref := by
  cases refers with
  | @intro type name n target filter declared named attached registered compiles =>
    have registered : r.emptied.lookUp? n name = some target.emptied := by
      rw [lookUp?_emptied, registered, Option.map_some]
    exact @Refers.intro r.emptied start.emptied spec type name n target.emptied filter declared named
      attached registered compiles

theorem Refuses.emptied (refuses : r.Refuses start spec e) :
    r.emptied.Refuses start.emptied spec e := by
  cases refuses with
  | undeclared absent => exact .undeclared absent
  | unreferenced declared unnamed plain => exact .unreferenced declared unnamed plain
  | detached declared named detached => exact .detached declared named detached
  | @unregistered type name n declared named attached absent =>
    have absent : r.emptied.lookUp? n name = none := by rw [lookUp?_emptied, absent, Option.map_none]
    exact .unregistered declared named attached absent
  | @uncompiled type name n target selector _ declared named attached registered given fails =>
    have registered : r.emptied.lookUp? n name = some target.emptied := by
      rw [lookUp?_emptied, registered, Option.map_some]
    exact .uncompiled declared named attached registered given fails

/-- Specs are checked without a look at any document. -/
theorem reference_emptied (r : Realm) (start : Model) (spec : PopulationSpec) :
    r.emptied.reference start.emptied spec = r.reference start spec := by
  rcases r.refers_or_refuses start spec with ⟨ref, refers⟩ | ⟨e, refuses⟩
  · rw [refers.eq, refers.emptied.eq]
  · rw [refuses.eq, refuses.emptied.eq]

theorem populate_emptied (r : Realm) (doc : Document) (population : Population) :
    r.emptied.populate doc population = r.populate doc population := by
  rw [populate, populate, model?_emptied]
  cases r.model? doc.model.number with
  | none => rfl
  | some m =>
    have same : r.emptied.references m.emptied population = r.references m population :=
      congrArg (List.mapM · population) (funext (r.reference_emptied m))
    simp only [Option.map_some, same]

end Realm

-- ---------------------------------------------------------------------------
-- What a reference shows
-- ---------------------------------------------------------------------------

namespace Model

variable {m : Model}

/-- A reading of the document of an id: what is stored under it, cast. -/
def Reads (m : Model) (id : String) (doc : Fields) : Prop :=
  ∃ source stored, m.collection.find? id = some stored ∧ m.schema.fill source stored = doc

/-- The documents of ids in order, as often as their ids come up. An id without a document is passed
over. -/
def Finds (m : Model) (ids : List String) (docs : List Fields) : Prop :=
  List.Forall₂ m.Reads (ids.filter m.collection.contains) docs

/-- No document is read under two ids. -/
def Distinguishes (m : Model) : Prop := ∀ id id' doc, m.Reads id doc → m.Reads id' doc → id = id'

theorem Finds.ids_eq {ids ids' : List String} {docs : List Fields} (distinguishes : m.Distinguishes)
    (finds : m.Finds ids docs) (finds' : m.Finds ids' docs) :
    ids.filter m.collection.contains = ids'.filter m.collection.contains := by
  simp only [Finds] at finds finds'
  generalize ids.filter m.collection.contains = live at finds
  generalize ids'.filter m.collection.contains = live' at finds'
  induction finds generalizing live' with
  | nil => exact (List.forall₂_nil_right_iff.mp finds').symm
  | cons first _ ih =>
    obtain ⟨id, rest, first', others, rfl⟩ := List.forall₂_cons_right_iff.mp finds'
    rw [distinguishes _ _ _ first first', ih _ others]

theorem finds_nil (m : Model) : m.Finds [] [] := .nil

theorem Finds.cons {ids : List String} {docs : List Fields} (finds : m.Finds ids docs)
    (source : Source) (id : String) :
    m.Finds (id :: ids) (((m.findById source id).map Document.fields).toList ++ docs) := by
  rw [Finds, List.filter_cons, Collection.contains, findById]
  cases held : m.collection.find? id with
  | none => exact finds
  | some stored => exact .cons ⟨source, stored, held, rfl⟩ finds

theorem finds_zipIdx {find : Nat → String → Option Fields} {source : Source}
    (reads : ∀ i id, find i id = (m.findById (source.branch i) id).map Document.fields)
    (ids : List String) (n : Nat) :
    m.Finds ids ((ids.zipIdx n).filterMap fun (id, i) => find i id) := by
  induction ids generalizing n with
  | nil => exact m.finds_nil
  | cons id rest ih =>
    have finds := (ih (n + 1)).cons (source.branch n) id
    rw [← reads n id] at finds
    rw [List.zipIdx_cons, List.filterMap_cons]
    cases found : find n id <;> simpa [found] using finds

end Model

theorem Query.sort_nil {α : Type} [Record α] (q : Query α) : q.sort [] = q := by
  have real : q.OrdinaryAt [] := fun _ _ _ mem => absurd mem List.not_mem_nil
  exact (Query.foldr_sort real).symm

def Populated.docs : Populated → List Fields
  | .one doc => doc.toList
  | .many docs => docs

namespace Reference

variable {ref : Reference} {m : Model} {fields fields' : Fields} {shown : Populated}

/-- The ids that the field of a reference holds. -/
def ids (ref : Reference) (fields : Fields) : List String :=
  let held := fields.at? ref.spec.path
  if ref.isMany then ((held.bind Value.array?).getD []).filterMap Value.string?
  else (held.bind Value.string?).toList

def wants (ref : Reference) (doc : Fields) : Bool := ref.filter.all fun p => p.holds doc

def keys (ref : Reference) : SortSpec := ref.spec.sort.getD []

/-- What skip and limit leave of a list. -/
def cut {α : Type} (ref : Reference) (l : List α) : List α :=
  let rest := l.drop ref.spec.skip
  (ref.spec.limit.map rest.take).getD rest

/-- The documents in the order of the sort keys. As long as no key is NaN they are in line, and level
ones stand as they stood. -/
structure Sorts (ref : Reference) (docs sorted : List Fields) : Prop where
  sort : (Query.sort ⟨ref.target, docs⟩ ref.keys).items = sorted
  arranges : Query.OrdinaryAt ⟨ref.target, docs⟩ ref.keys →
    Arranges (ref.keys.compare ref.target.schema) docs sorted

/-- What a reference shows of the documents in a model: the one of an id, or those of a list of ids,
filtered, sorted and cut down. -/
inductive Shows (ref : Reference) (m : Model) (fields : Fields) : Populated → Prop
  | one {doc : Option Fields} (single : ref.isMany = false)
      (finds : m.Finds (ref.ids fields) doc.toList) : Shows ref m fields (.one doc)
  | many {docs sorted : List Fields} (several : ref.isMany = true)
      (finds : m.Finds (ref.ids fields) docs) (sorts : ref.Sorts (docs.filter ref.wants) sorted) :
      Shows ref m fields (.many (ref.cut sorted))

theorem sorts (ref : Reference) (docs : List Fields) :
    ref.Sorts docs (Query.sort ⟨ref.target, docs⟩ ref.keys).items :=
  ⟨rfl, Query.arranges_sort⟩

theorem resolve_shows {find : Nat → String → Option Fields} (source : Source)
    (reads : ∀ i id, find i id = (m.findById (source.branch i) id).map Document.fields)
    (ref : Reference) (fields : Fields) : ref.Shows m fields (ref.resolve find fields) := by
  have finds := Model.finds_zipIdx reads (ref.ids fields) 0
  cases several : ref.isMany with
  | false =>
    simp only [ids, several, Bool.false_eq_true, if_false] at finds
    simp only [resolve, several, Bool.false_eq_true, if_false]
    refine .one several ?_
    simp only [ids, several, Bool.false_eq_true, if_false]
    cases held : (fields.at? ref.spec.path).bind Value.string? with
    | none => simpa [held] using finds
    | some id => cases found : find 0 id <;> simpa [held, found] using finds
  | true =>
    have shown := Shows.many several finds (ref.sorts _)
    simp only [ids, several, if_true, cut] at shown
    simp only [resolve, several, if_true]
    cases sorted : ref.spec.sort with
    | none =>
      rw [keys, sorted, Option.getD_none, Query.sort_nil] at shown
      cases limit : ref.spec.limit <;> (rw [limit] at shown; exact shown)
    | some spec =>
      rw [keys, sorted, Option.getD_some] at shown
      cases limit : ref.spec.limit <;> (rw [limit] at shown; exact shown)

/-- The ids in the field of a reference that have a document. -/
def live (ref : Reference) (m : Model) (fields : Fields) : List String :=
  (ref.ids fields).filter m.collection.contains

/-- What is shown depends on the ids that have a document. -/
theorem Shows.of_live (shows : ref.Shows m fields shown)
    (same : ref.live m fields = ref.live m fields') : ref.Shows m fields' shown := by
  have found (docs : List Fields) (finds : m.Finds (ref.ids fields) docs) :
      m.Finds (ref.ids fields') docs := (congrArg (List.Forall₂ m.Reads · docs) same).mp finds
  cases shows with
  | one single finds => exact .one single (found _ finds)
  | many several finds sorts => exact .many several (found _ finds) sorts

/-- The reference is to one document, or to a list that is shown as it is found. -/
def IsPlain (ref : Reference) : Prop :=
  ref.isMany = true →
    ref.filter = none ∧ ref.spec.sort = none ∧ ref.spec.skip = 0 ∧ ref.spec.limit = none

theorem IsPlain.finds (plain : ref.IsPlain) (shows : ref.Shows m fields shown) :
    m.Finds (ref.ids fields) shown.docs := by
  cases shows with
  | one single finds => exact finds
  | @many docs sorted several finds sorts =>
    obtain ⟨unfiltered, unsorted, uncut, unlimited⟩ := plain several
    have all : docs.filter ref.wants = docs := by simp [wants, unfiltered]
    have kept : sorted = docs := by
      rw [← sorts.sort, all, keys, unsorted, Option.getD_none, Query.sort_nil]
    simpa [Populated.docs, cut, uncut, unlimited, kept] using finds

theorem Shows.iff_live (plain : ref.IsPlain) (distinguishes : m.Distinguishes)
    (shows : ref.Shows m fields shown) :
    ref.Shows m fields' shown ↔ ref.live m fields = ref.live m fields' :=
  ⟨fun shows' => (plain.finds shows).ids_eq distinguishes (plain.finds shows'), shows.of_live⟩

end Reference

/-- What a reference is resolved to is what it shows by then. -/
theorem Realm.resolve_shows {r : Realm} {ref : Reference} {m : Model}
    (held : r.model? ref.target.number = some m) (source : Source) (fields : Fields) :
    ref.Shows m fields (r.resolve source fields ref) := by
  refine Reference.resolve_shows source (fun i id => ?_) ref fields
  rw [held, Option.bind_eq_bind, Option.bind_some]
  cases m.findById (source.branch i) id <;> rfl

end DocStore
