import DocStore.Document.Memo
import DocStore.Population
import DocStore.Value.Json

/-!
# Documents

A document is a private copy of a record: its fields, the virtual fields computed from them so far,
and the references that were attached to it. Reading may compute something, so it also gives the
document that has kept it.
-/

namespace DocStore

/-- What never changes about a model: the number that tells it from all others, its name and its
schema. -/
structure ModelHandle where
  number : Nat
  name : String
  schema : Schema

/-- The id under which fields are stored. An empty text is none; a number is written out. -/
def idOf (fields : Fields) : Option String :=
  match fields.get? idPath.head with
  | some (.string s) => if s.isEmpty then none else some s
  | some (.number x) => some (Value.number x).text
  | _ => none

def textId (fields : Fields) : Option String := (fields.get? idPath.head).bind Value.string?

inductive Populated where
  | one (doc : Option Fields)
  | many (docs : List Fields)

/-- A population spec that has been checked: the model to look in and the compiled selector. -/
structure Reference where
  spec : PopulationSpec
  target : ModelHandle
  isMany : Bool
  filter : Option Predicate

structure Virtual where
  path : Path
  getter : Fields → Value
  memo : Memo Value := {}

namespace Virtual

/-- The value for some fields, and the virtual field as reading has left it. -/
def read (fields : Fields) (v : Virtual) : Value × Virtual :=
  let (value, memo) := v.memo.get fun _ => v.getter fields
  (value, { v with memo })

def reset (v : Virtual) : Virtual := { v with memo := v.memo.reset }

end Virtual

structure Attachment where
  reference : Reference
  memo : Memo Populated := {}

namespace Attachment

def path (a : Attachment) : Path := a.reference.spec.path

/-- What the reference leads to, and the attachment as reading has left it. -/
def read (resolve : Reference → Populated) (a : Attachment) : Populated × Attachment :=
  let (found, memo) := a.memo.get fun _ => resolve a.reference
  (found, { a with memo })

end Attachment

structure Document where
  model : ModelHandle
  fields : Fields
  virtuals : List Virtual
  attachments : List Attachment := []

namespace Document

def ofFields (model : ModelHandle) (fields : Fields) : Document :=
  { model, fields, virtuals := model.schema.getters.map fun (path, getter) => { path, getter } }

def id? (doc : Document) : Option String := textId doc.fields

/-- Two documents are the same if their models have one name and their fields are equal. -/
def same (a b : Document) : Bool := a.model.name == b.model.name && a.fields.equal b.fields

/-- Reads the first member of a path, which stays in its place as reading has left it. -/
def readAt {α β : Type} (pathOf : α → Path) (read : α → β × α) (path : Path) :
    List α → Option β × List α
  | [] => (none, [])
  | a :: rest =>
    if pathOf a == path then
      let (b, a) := read a
      (some b, a :: rest)
    else
      let (b, rest) := readAt pathOf read path rest
      (b, a :: rest)

section

variable {α β : Type} {pathOf : α → Path} {read : α → β × α} {l : List α}

theorem readAt_fst (path : Path) :
    (readAt pathOf read path l).1 = (l.find? (pathOf · == path)).map fun a => (read a).1 := by
  induction l with
  | nil => rfl
  | cons a rest ih => by_cases here : pathOf a = path <;> simp [readAt, here, ih]

/-- Reading at one path changes what is first at that path, and nothing that is first at another. -/
theorem find?_readAt (keeps : ∀ a, pathOf (read a).2 = pathOf a) (path other : Path) :
    (readAt pathOf read path l).2.find? (pathOf · == other) =
      (l.find? (pathOf · == other)).map fun a => if other = path then (read a).2 else a := by
  induction l with
  | nil => rfl
  | cons a rest ih =>
    by_cases here : pathOf a = path
    · subst here
      by_cases same : other = pathOf a
      · subst same
        simp [readAt, keeps]
      · simp [readAt, keeps, same, Ne.symm same]
    · by_cases same : pathOf a = other
      · subst same
        simp [readAt, here]
      · simp [readAt, here, same, ih]

end

/-! ### Virtual fields -/

/-- The value of a field or virtual field. Null counts as absent. -/
def get (doc : Document) (path : Path) : Option Value × Document :=
  match readAt Virtual.path (Virtual.read doc.fields) path doc.virtuals with
  | (some value, virtuals) => (if value.isNull then none else some value, { doc with virtuals })
  | (none, _) => ((doc.fields.at? path).filter fun v => !v.isNull, doc)

/-- Assigns a field. A virtual one is spread over others by its setter. All virtual fields are
computed anew after that. -/
def set (doc : Document) (path : Path) (value : Value) : Document :=
  let fields := match (doc.model.schema.find? path).bind FieldType.virtual? with
    | some field => field.assign value doc.fields
    | none => doc.fields.set path value
  { doc with fields, virtuals := doc.virtuals.map Virtual.reset }

def toJson (doc : Document) : Json × Document :=
  let read := doc.virtuals.map (Virtual.read doc.fields)
  let out := read.foldl
    (fun out (value, v) => if value.isNull then out else out.set v.path value) doc.fields
  ((Value.object out).toJson, { doc with virtuals := read.map Prod.snd })

def getterRuns (doc : Document) : Nat := doc.virtuals.foldl (fun n v => n + v.memo.runs) 0

/-! ### References -/

/-- Attaches a reference. One that was attached at the path before is replaced. -/
def attach (reference : Reference) (doc : Document) : Document :=
  let others := doc.attachments.filter (·.path != reference.spec.path)
  { doc with attachments := others ++ [{ reference }] }

/-- The documents that are attached at a path, resolved by `resolve` when they are first asked
for. -/
def populated? (resolve : Fields → Reference → Populated) (doc : Document) (path : Path) :
    Option Populated × Document :=
  let (found, attachments) :=
    readAt Attachment.path (Attachment.read (resolve doc.fields)) path doc.attachments
  (found, { doc with attachments })

end Document

/-- Looks up what a reference of some fields points at. `find` gives the document of an id; it is
told which look-up it is. -/
def Reference.resolve (find : Nat → String → Option Fields) (fields : Fields) (r : Reference) :
    Populated :=
  if r.isMany then
    let ids := (((fields.at? r.spec.path).bind Value.array?).getD []).filterMap Value.string?
    let docs := ids.zipIdx.filterMap fun (id, i) => find i id
    let docs := docs.filter fun doc => r.filter.all fun p => p.holds doc
    let docs := match r.spec.sort with
      | some sort => docs.mergeSort (sort.inOrder r.target.schema)
      | none => docs
    let docs := docs.drop r.spec.skip
    .many (match r.spec.limit with
      | some n => docs.take n
      | none => docs)
  else .one (((fields.at? r.spec.path).bind Value.string?).bind (find 0))

end DocStore
