import DocStore.Model
import DocStore.Schema.Mutation

/-!
# Writes

A write is prepared without looking at the collection, planned under the lock, and then committed
between its hooks. Whatever fails before the commit leaves the collection as it was; a failure
after it does not undo it.
-/

namespace DocStore

inductive Request where
  | insert (doc : Value)
  /-- Inserts, or replaces the stored document with the same id. -/
  | save (doc : Value)
  | update (id : String) (update : Value)
  | replace (id : String) (doc : Value)
  | remove (id : String)
  /-- Replaces the collection by persisted documents. -/
  | load (docs : List Json)

inductive Job where
  | insert (fields : Fields)
  | save (fields : Fields)
  | update (id : String) (mutations : List Mutation)
  | replace (id : String) (fields : Fields)
  | remove (id : String)
  | load (collection : Collection)

structure Commit where
  change : Change
  id : String
  /-- What is to be stored, unless the document is removed. -/
  fields : Fields
  document : Document

inductive Plan where
  | commit (c : Commit)
  | load (collection : Collection)

/-- What hooks and listeners leave behind: their label, the document that they were shown and the
number of documents at that moment. -/
structure Notice where
  label : String
  document : Document
  count : Nat

def Notice.id (notice : Notice) : Option String := notice.document.id?

/-- The answer to a request: a document, or nothing after a load. -/
abbrev Reply := Except Error (Option Document)

structure Outcome (α : Type) where
  model : Model
  notices : List Notice := []
  result : Except Error α

def Change.action : Change → Action
  | .insert | .update => .save
  | .remove => .remove

def membersOf : Value → Except Error Fields
  | .object fields => .ok fields
  | v => .error (.usage (.documentNotAnObject v.typeName))

namespace Collection

def ofPersisted (schema : Schema) : List Json → Collection → Except Error Collection
  | [], done => .ok done
  | j :: rest, done => do
    let fields := schema.restore (← membersOf (Value.ofJson j))
    match idOf fields with
    | some id => ofPersisted schema rest (done.put id fields)
    | none => .error .idUndefined

def apply (c : Collection) : Plan → Collection
  | .commit { change := .remove, id, .. } => c.erase id
  | .commit { id, fields, .. } => c.put id fields
  | .load collection => collection

end Collection

namespace Model

/-! ### Before the lock -/

/-- Checks what can be checked without the collection. -/
def prepare (m : Model) : Request → Except Error Job
  | .insert doc => (membersOf doc).map .insert
  | .save doc => (membersOf doc).map .save
  | .update id update => (m.schema.compileUpdate update).map (.update id)
  | .replace id doc => (membersOf doc).map (.replace id)
  | .remove id => .ok (.remove id)
  | .load docs => (Collection.ofPersisted m.schema docs {}).map .load

/-! ### Under the lock -/

/-- Casts and checks fields that are to be stored. -/
def checked (m : Model) (fields : Fields) : Except Error Fields :=
  match m.schema.check fields with
  | (.ok (), fields) => .ok fields
  | (.error e, _) => .error e

def storing (m : Model) (source : Source) (change : Change) (id : String)
    (fields : Fields) : Plan :=
  .commit { change, id, fields, document := m.documentOf (source.branch 1) fields }

def planInsert (m : Model) (source : Source) (fields : Fields) : Except Error Plan := do
  let filled := m.schema.fill (source.branch 0) fields
  match idOf filled with
  | none => .error .idUndefined
  | some id =>
    if m.collection.contains id then .error (.idExists id)
    else .ok (m.storing source .insert id (← m.checked filled))

def planReplace (m : Model) (source : Source) (id : String) (fields : Fields) :
    Except Error Plan := do
  let named := fields.insert idPath.head (.string id)
  .ok (m.storing source .update id (← m.checked (m.schema.fill (source.branch 0) named)))

/-- What a job comes to, given the collection as it is. -/
def plan (m : Model) (source : Source) : Job → Except Error Plan
  | .insert fields => m.planInsert source fields
  | .save fields =>
    match (idOf fields).filter m.collection.contains with
    | some id => m.planReplace source id fields
    | none => m.planInsert source fields
  | .update id mutations =>
    match m.collection.find? id with
    | none => .error (.idMissing id)
    | some stored =>
      match Mutation.applyAll mutations stored with
      | (.ok (), fields) => m.planReplace source id fields
      | (.error e, _) => .error e
  | .replace id fields =>
    if m.collection.contains id then m.planReplace source id fields else .error (.idMissing id)
  | .remove id =>
    match m.collection.find? id with
    | none => .error (.idMissing id)
    | some stored =>
      let document := m.documentOf (source.branch 1) stored
      .ok (.commit { change := .remove, id, fields := stored, document })
  | .load collection => .ok (.load collection)

def notice (m : Model) (label : String) (doc : Document) : Notice := ⟨label, doc, m.count⟩

/-- Carries a plan out, and tells the listeners. -/
def commit (m : Model) (plan : Plan) : Model × List Notice :=
  let m := { m with collection := m.collection.apply plan }
  match plan with
  | .commit c =>
    let told := m.listeners.filter fun l => l.change == c.change
    (m, told.map fun l => m.notice l.label c.document)
  | .load _ => (m, [])

def runHooks (m : Model) (doc : Document) : List Hook → Except Error Unit × List Notice
  | [] => (.ok (), [])
  | h :: rest =>
    match h.check doc with
    | .error e => (.error e, [m.notice h.label doc])
    | .ok () =>
      let (result, notices) := m.runHooks doc rest
      (result, m.notice h.label doc :: notices)

/-! ### A whole write -/

def execute (m : Model) (plan : Plan) : Outcome (Option Document) :=
  match plan with
  | .load _ => { model := (m.commit plan).1, result := .ok none }
  | .commit c =>
    match m.runHooks c.document (m.hooks .before c.change.action) with
    | (.error e, notices) => { model := m, notices, result := .error e }
    | (.ok (), before) =>
      let (m, told) := m.commit plan
      let (result, after) := m.runHooks c.document (m.hooks .after c.change.action)
      { model := m, notices := before ++ told ++ after, result := result.map fun _ => c.document }

/-- Performs a write on its own, with nothing in between. -/
def perform (m : Model) (source : Source) (request : Request) : Outcome (Option Document) :=
  match m.prepare request >>= m.plan source with
  | .ok plan => m.execute plan
  | .error e => { model := m, result := .error e }

/-- Performs writes one after the other up to the first failure. What was written stays. -/
def performAll (m : Model) (source : Source) : List Request → Outcome (List Document)
  | [] => { model := m, result := .ok [] }
  | request :: rest =>
    let first := m.perform (source.branch 0) request
    match first.result with
    | .error e => { model := first.model, notices := first.notices, result := .error e }
    | .ok doc =>
      let others := first.model.performAll (source.branch 1) rest
      { model := others.model, notices := first.notices ++ others.notices,
        result := others.result.map (doc.toList ++ ·) }

/-! ### Writes on many documents -/

def insertAll (m : Model) (source : Source) (docs : List Value) : Outcome (List Document) :=
  m.performAll source (docs.map .insert)

/-- Makes one write for each document that a selector wants. -/
def performOn (m : Model) (source : Source) (selector : Selector) (request : String → Request) :
    Outcome (List Document) :=
  match m.find (source.branch 0) selector {} with
  | .error e => { model := m, result := .error e }
  | .ok found => m.performAll (source.branch 1) (found.ids.map request)

def updateAll (m : Model) (source : Source) (selector : Selector) (update : Value) :
    Outcome (List Document) :=
  m.performOn source selector (.update · update)

def replaceAll (m : Model) (source : Source) (selector : Selector) (doc : Value) :
    Outcome (List Document) :=
  m.performOn source selector (.replace · doc)

def removeAll (m : Model) (source : Source) (selector : Selector) : Outcome (List Document) :=
  m.performOn source selector .remove

end Model

end DocStore
