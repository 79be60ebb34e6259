import DocStore.Definition.Reader
import DocStore.Realm

/-!
# Sessions on a realm

A realm in use: the database that is open, the text of its file, and the models and documents that
are known by a name of their own.
-/

namespace DocStore.Realm

structure Blueprint where
  name : String
  schema : Schema
  behavior : Behavior := {}

structure Session where
  realm : Realm := {}
  database : Option Nat := none
  file : Option String := none
  /-- The numbers of the models that were made for no database. -/
  loose : List (String × Nat) := []
  documents : List (String × Document) := []

namespace Session

def modelNames (s : Session) : List String := (s.database.map s.realm.modelNames).getD []

/-- The model of a name. One that was made for no database hides one that is registered. -/
def model (s : Session) (name : String) : Except Error Model :=
  match (s.loose.lookup name).bind s.realm.model?, s.database with
  | some m, _ => .ok m
  | none, some n => s.realm.get n name
  | none, none => .error (.usage (.notRegistered name))

def putModel (s : Session) (m : Model) : Session := { s with realm := s.realm.putModel m }

def keep (s : Session) (name : String) (doc : Document) : Session :=
  { s with documents := (name, doc) :: s.documents.filter (·.1 != name) }

/-! ### Databases -/

/-- Closes the database. Its models live on. -/
def close (s : Session) : Session :=
  { s with realm := s.database.elim s.realm s.realm.closeDatabase, database := none }

/-- Opens a new database with some models in place of the one before. -/
def openDatabase (s : Session) (settings : Settings) (models : List Blueprint) : Session :=
  let (realm, n) := s.close.realm.openDatabase settings
  let realm := models.foldl (fun r b => (r.register n b.name b.schema b.behavior).1) realm
  { s with realm, database := some n }

/-- Opens the database of a definition. If it is refused, the one before stays open. -/
def define (s : Session) (settings : Settings) (text : String) : Except Error Session := do
  let definition ← DatabaseDefinition.ofConfiguration text
  let (realm, n) ← s.close.realm.ofDefinition settings definition
  .ok { s with realm, database := some n }

/-- Registers a model with the database, and gives the model that has the name then. -/
def addModel (s : Session) (b : Blueprint) : Session × Option Model :=
  match s.database with
  | none => (s, none)
  | some n =>
    let (realm, m) := s.realm.register n b.name b.schema b.behavior
    ({ s with realm }, some m)

def addLoose (s : Session) (b : Blueprint) : Session × Model :=
  let (realm, m) := s.realm.newModel none b.name b.schema b.behavior
  ({ s with realm, loose := (b.name, m.handle.number) :: s.loose }, m)

/-! ### The file -/

def load (s : Session) (source : Source) :
    Except Error Unit × Session × Option VersionNotice :=
  match s.database with
  | none => (.ok (), s, none)
  | some n =>
    let (result, realm, notice) := s.realm.load n source s.file
    (result, { s with realm }, notice)

/-- Writes the file of the database, and gives its text. Without a database there is no file. -/
def save (s : Session) : Except Error (Session × String) := do
  let some n := s.database | .error (.usage .noFile)
  let _ ← s.realm.file n
  let text := s.realm.saved n
  .ok ({ s with file := some text }, text)

end Session

end DocStore.Realm
