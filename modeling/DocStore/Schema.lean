import DocStore.FieldType.Persist
import DocStore.FieldType.Validate
import DocStore.Value.Path

/-!
# Schemas

A schema gives types to paths. It keeps the order in which paths were declared; every pass over a
document walks them in that order.
-/

namespace DocStore

def idPath : Path := ⟨"_id", []⟩

structure Schema where
  entries : List (Path × FieldType)

namespace Schema

def find? (schema : Schema) (path : Path) : Option FieldType := schema.entries.lookup path

/-- The type of a path. A path without a declaration may hold anything. -/
def typeFor (schema : Schema) (path : Path) : FieldType := (schema.find? path).getD .mixed

def insertEntry (path : Path) (type : FieldType) :
    List (Path × FieldType) → List (Path × FieldType)
  | [] => [(path, type)]
  | (p, t) :: rest =>
    if p == path then (p, type) :: rest else (p, t) :: insertEntry path type rest

/-- Gives a path its type. A path that had one keeps its place. -/
def insert (schema : Schema) (path : Path) (type : FieldType) : Schema :=
  ⟨insertEntry path type schema.entries⟩

/-- A parent path extended by a key. Empty keys at the front do not count. -/
def extend (parent : Path) (key : String) : Path :=
  if parent == ⟨"", []⟩ then ⟨key, []⟩ else ⟨parent.head, parent.rest ++ [key]⟩

/-- The paths above a path, outermost first. -/
def parents (path : Path) : List Path :=
  (path.keys.dropLast.foldl
    (fun (found, parent) key => (found ++ [extend parent key], extend parent key))
    (([] : List Path), Path.mk "" [])).1

/-- Declares a path. Paths above it that have no type become objects first. -/
def declare (schema : Schema) (path : Path) (type : FieldType) : Schema :=
  let withParents := (parents path).foldl
    (fun s p => if (s.find? p).isSome then s else s.insert p (.ofKind .object)) schema
  withParents.insert path type

/-- The schema with nothing but the required id. -/
def initial : Schema :=
  declare ⟨[]⟩ idPath (.leaf (.id .nanoid) { required := true })

def declareAll (schema : Schema) (fields : List (Path × FieldType)) : Schema :=
  fields.foldl (fun s (path, type) => s.declare path type) schema

def getters (schema : Schema) : List (Path × (Fields → Value)) :=
  schema.entries.filterMap fun (path, type) => type.getter?.map (path, ·)

/-! ### Passes over a document -/

/-- Casts the field of one path; an absent one gets its default. -/
def fillEntry (source : Source) (entry : Path × FieldType) (doc : Fields) : Fields :=
  let (path, type) := entry
  if type.isVirtual then doc
  else
    match type.cast source (doc.atD path) with
    | .null => doc
    | v => doc.set path v

def fillFrom (source : Source) (n : Nat) :
    List (Path × FieldType) → Fields → Fields
  | [], doc => doc
  | entry :: rest, doc => fillFrom source (n + 1) rest (fillEntry (source.branch n) entry doc)

def fill (schema : Schema) (source : Source) (doc : Fields) : Fields :=
  fillFrom source 0 schema.entries doc

/-- Removes the field of a path when there is nothing to store, else stores it. -/
def store (path : Path) (v : Value) (doc : Fields) : Fields :=
  if v.isNull then doc.remove path else doc.set path v

/-- Checks the field of one path and stores what the check gives. -/
def checkEntry (entry : Path × FieldType) (doc : Fields) : Except Error Unit × Fields :=
  let (path, type) := entry
  match type.validate path (doc.atD path) doc with
  | (.error e, doc) => (.error e, doc)
  | (.ok v, doc) => (.ok (), store path v doc)

def checkEntries :
    List (Path × FieldType) → Fields → Except Error Unit × Fields
  | [], doc => (.ok (), doc)
  | entry :: rest, doc =>
    match checkEntry entry doc with
    | (.error e, doc) => (.error e, doc)
    | (.ok (), doc) => checkEntries rest doc

/-- Checks every path up to the first failure. Null fields are removed; virtual fields are spread
over others. The document comes as far as the pass got. -/
def check (schema : Schema) (doc : Fields) : Except Error Unit × Fields :=
  checkEntries schema.entries doc

def persist (schema : Schema) (doc : Fields) : Fields :=
  schema.entries.foldl
    (fun doc (path, type) => store path (type.persist (doc.atD path)) doc) doc

def restore (schema : Schema) (doc : Fields) : Fields :=
  schema.entries.foldl
    (fun doc (path, type) =>
      match doc.at? path with
      | some v => doc.set path (type.restore v)
      | none => doc) doc

end Schema

end DocStore
