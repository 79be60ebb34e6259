import DocStore.Realm

/-!
# Populating documents

Specs are checked against the schema and the registry before anything is looked up. The documents
themselves are looked up when they are first asked for.
-/

namespace DocStore.Realm

/-- Checks a spec for the documents of a model. -/
def reference (r : Realm) (m : Model) (spec : PopulationSpec) : Except Error Reference := do
  let some type := m.schema.find? spec.path
    | .error (.population (.unknownPath spec.path m.handle.name))
  let some name := spec.model <|> type.referenceTarget
    | .error (.population (.noReference spec.path))
  let some n := r.databaseOf? m | .error (.population (.detached m.handle.name))
  let some target := r.lookUp? n name | .error (.population (.unknownModel name))
  let filter ← match spec.selector with
    | some selector => (target.schema.compileQuery selector).map some
    | none => .ok none
  .ok { spec, target := target.handle, isMany := type.isArray, filter }

def references (r : Realm) (m : Model) (population : Population) : Except Error (List Reference) :=
  population.mapM (r.reference m)

def populate (r : Realm) (doc : Document) (population : Population) : Except Error Document :=
  match r.model? doc.model.number with
  | none => .ok doc
  | some m => (r.references m population).map fun l => l.foldl (fun doc ref => doc.attach ref) doc

def populateAll {α : Type} [Record α] (r : Realm) (q : Query α) (population : Population) :
    Except Error (Query α) :=
  match r.model? q.model.number with
  | none => .ok q
  | some m => (r.references m population).map q.attach

def resolve (r : Realm) (source : Source) (fields : Fields) (ref : Reference) : Populated :=
  ref.resolve
    (fun i id => do
      let m ← r.model? ref.target.number
      let doc ← m.findById (source.branch i) id
      some doc.fields)
    fields

def populated? (r : Realm) (source : Source) (doc : Document) (path : Path) :
    Option Populated × Document :=
  doc.populated? (r.resolve source) path

end DocStore.Realm
