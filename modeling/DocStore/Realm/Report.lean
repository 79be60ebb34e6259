import DocStore.Realm

/-!
# Reports

A report looks through the documents that a model holds. What a write would refuse is an error;
fields without a declaration and references to documents that are missing are warnings.
-/

namespace DocStore

inductive Warning where
  | undeclared (key : String)
  | unknownModel (path : Path) (target : String)
  | missing (path : Path) (target id : String)

def Warning.text : Warning → String
  | .undeclared key => "Field '" ++ key ++ "' is not declared in the schema"
  | .unknownModel path target =>
    "Field '" ++ path.text ++ "' references unknown model '" ++ target ++ "'"
  | .missing path target id =>
    "Field '" ++ path.text ++ "' references missing " ++ target ++ " '" ++ id ++ "'"

structure Findings where
  id : String
  errors : List Error
  warnings : List Warning

structure Report where
  model : String
  checked : Nat
  documents : List Findings

namespace Report

def isOk (report : Report) : Bool := report.documents.all (·.errors.isEmpty)
def hasWarnings (report : Report) : Bool := report.documents.any (!·.warnings.isEmpty)
def errorCount (report : Report) : Nat :=
  report.documents.foldl (fun n f => n + f.errors.length) 0
def warningCount (report : Report) : Nat :=
  report.documents.foldl (fun n f => n + f.warnings.length) 0

end Report

namespace Realm

/-- The keys of a document without a declaration. A schema that declares nothing but the id allows
any. -/
def undeclared (schema : Schema) (fields : Fields) : List Warning :=
  let declared := schema.entries.map fun (path, _) => path.head
  if declared.all (· == idPath.head) then []
  else (fields.keys.filter fun key => !declared.contains key).map .undeclared

/-- The ids that are held at a path; nothing if it holds neither a text nor an array. -/
def heldIds? (fields : Fields) (path : Path) : Option (List String) :=
  match fields.at? path with
  | some (.string id) => some [id]
  | some (.array items) => some (items.filterMap Value.string?)
  | _ => none

def brokenAt (r : Realm) (n : Nat) (fields : Fields) (path : Path) (type : FieldType) :
    List Warning :=
  match type.referenceTarget, heldIds? fields path with
  | some target, some ids =>
    match r.lookUp? n target with
    | none => [.unknownModel path target]
    | some m => (ids.filter fun id => !m.collection.contains id).map (.missing path target)
  | _, _ => []

def broken (r : Realm) (m : Model) (fields : Fields) : List Warning :=
  match r.databaseOf? m with
  | none => []
  | some n => m.schema.entries.flatMap fun (path, type) => r.brokenAt n fields path type

def findings (r : Realm) (m : Model) (source : Source) (doc : Document) : Findings :=
  let errors := match (m.schema.check (m.schema.fill source doc.fields)).1 with
    | .ok () => []
    | .error e => [e]
  { id := doc.id?.getD "", errors,
    warnings := undeclared m.schema doc.fields ++ r.broken m doc.fields }

/-- Looks through the documents of a model. Nothing is changed. -/
def report (r : Realm) (m : Model) (source : Source) : Report :=
  let docs := (m.query (source.branch 0)).items
  let all := docs.zipIdx.map fun (doc, i) => r.findings m ((source.branch 1).branch i) doc
  { model := m.handle.name, checked := docs.length,
    documents := all.filter fun f => !f.errors.isEmpty || !f.warnings.isEmpty }

end Realm

end DocStore
