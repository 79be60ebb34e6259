import DocStore.Collection
import DocStore.Lifecycle
import DocStore.Lock
import DocStore.Query

/-!
# Models

A model is a collection of documents with one schema. Writes to it wait for its lock; reads look at
the collection as it is and cast what they find.
-/

namespace DocStore

inductive Phase where
  | before
  | after
deriving DecidableEq, Repr

/-- A document that is shown to a hook in the course of a write, which its ticket tells from all
others. -/
structure Visit where
  ticket : Nat
  document : Document

/-- A check that runs before or after an action on a document, on a copy of its own. It may be
looked at in vain a number of times before it runs, and not as often on every visit. -/
structure Hook where
  phase : Phase
  action : Action
  label : String
  pauses : Visit → Nat := fun _ => 0
  check : Document → Except Error Unit

/-- A function on a document with arguments. Reading a document may compute something, so the
document comes back. -/
abbrev Method := Document → List Value → Except Error Value × Document

/-- A function on all documents of a model with arguments. -/
abbrev Static := List Document → List Value → Except Error Value × List Document

/-- What a model does besides storing. -/
structure Behavior where
  hooks : List Hook := []
  methods : List (String × Method) := []
  statics : List (String × Static) := []

structure Listener where
  change : Change
  label : String

structure Model where
  handle : ModelHandle
  behavior : Behavior := {}
  collection : Collection := {}
  lock : Lock := {}
  listeners : List Listener := []
  database : Option Nat := none

structure FindOptions where
  skip : Nat := 0
  limit : Option Nat := none

namespace Model

def schema (m : Model) : Schema := m.handle.schema

def count (m : Model) : Nat := m.collection.size

def hooks (m : Model) (phase : Phase) (action : Action) : List Hook :=
  m.behavior.hooks.filter fun h => h.phase == phase && h.action == action

def listen (m : Model) (listener : Listener) : Model :=
  { m with listeners := m.listeners ++ [listener] }

/-! ### Reading -/

/-- A document of fields that are cast first. -/
def documentOf (m : Model) (source : Source) (fields : Fields) : Document :=
  Document.ofFields m.handle (m.schema.fill source fields)

def newDocument (m : Model) (source : Source) : Value → Except Error Document
  | .object fields => .ok (m.documentOf source fields)
  | v => .error (.usage (.documentNotAnObject v.typeName))

def findById (m : Model) (source : Source) (id : String) : Option Document :=
  (m.collection.find? id).map (m.documentOf source)

/-- Documents of several fields, each with a source of its own. -/
def documentsOf (m : Model) (source : Source) (found : List Fields) : List Document :=
  found.zipIdx.map fun (fields, i) => m.documentOf (source.branch i) fields

def query (m : Model) (source : Source) : Query Document :=
  ⟨m.handle, m.documentsOf source m.collection.live⟩

/-- The stored fields that a selector wants, as they are kept. -/
def scan (m : Model) (selector : Selector) (options : FindOptions) : Except Error (List Fields) := do
  let p ← m.schema.compileQuery selector
  let found := (m.collection.live.filter fun fields => p.holds fields).drop options.skip
  .ok (match options.limit with
    | some n => found.take n
    | none => found)

def find (m : Model) (source : Source) (selector : Selector) (options : FindOptions) :
    Except Error (Query Document) :=
  (m.scan selector options).map fun found => ⟨m.handle, m.documentsOf source found⟩

/-- Like `find`, with plain fields in place of documents. -/
def findLean (m : Model) (source : Source) (selector : Selector) (options : FindOptions) :
    Except Error (Query Fields) :=
  (m.scan selector options).map fun found =>
    ⟨m.handle, found.zipIdx.map fun (fields, i) => m.schema.fill (source.branch i) fields⟩

def findOne (m : Model) (source : Source) (selector : Selector) :
    Except Error (Option Document) :=
  (m.scan selector { limit := some 1 }).map fun found => found.head?.map (m.documentOf source)

/-! ### Functions -/

/-- Calls a function of the model; it is given the documents as they are now. -/
def callStatic (m : Model) (source : Source) (name : String) (args : List Value) :
    Except Error Value × List Document :=
  match m.behavior.statics.lookup name with
  | some f => f (m.query source).items args
  | none => (.error (.usage (.noStatic m.handle.name name)), [])

def callMethod (m : Model) (name : String) (doc : Document) (args : List Value) :
    Except Error Value × Document :=
  match m.behavior.methods.lookup name with
  | some f => f doc args
  | none => (.error (.usage (.noMethod m.handle.name name)), doc)

/-! ### Persistence -/

def exported (m : Model) : List Json :=
  m.collection.live.map fun fields => (Value.object (m.schema.persist fields)).toJson

end Model

end DocStore
