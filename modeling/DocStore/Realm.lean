import DocStore.Database.File
import DocStore.Definition
import DocStore.Write

/-!
# Realms

All databases and models there are. A database gives names to models; a model is told from others
by its number, and lives on when its name is taken away or its database is closed.
-/

namespace DocStore

structure VersionCallback where
  label : String
  /-- Takes the stored version and the version of the database. -/
  run : Nat → Nat → Except Error Unit

structure VersionNotice where
  label : String
  stored : Nat
  current : Nat
deriving DecidableEq, Repr

structure Settings where
  file : Option String := none
  version : Nat := 0
  onUpgrade : Option VersionCallback := none
  onDowngrade : Option VersionCallback := none

structure Database where
  settings : Settings
  isOpen : Bool := true
  registry : List (String × Nat) := []

structure Realm where
  models : List Model := []
  databases : List Database := []

namespace Realm

/-! ### Models -/

def model? (r : Realm) (number : Nat) : Option Model := r.models[number]?

def putModel (r : Realm) (m : Model) : Realm := { r with models := r.models.set m.handle.number m }

/-- A new model, of a database or of none. -/
def newModel (r : Realm) (database : Option Nat) (name : String) (schema : Schema)
    (behavior : Behavior) : Realm × Model :=
  let m : Model := { handle := ⟨r.models.length, name, schema⟩, behavior, database }
  ({ r with models := r.models ++ [m] }, m)

/-! ### Databases -/

def openDatabase (r : Realm) (settings : Settings) : Realm × Nat :=
  ({ r with databases := r.databases ++ [{ settings }] }, r.databases.length)

def changeDatabase (r : Realm) (n : Nat) (f : Database → Database) : Realm :=
  match r.databases[n]? with
  | some d => { r with databases := r.databases.set n (f d) }
  | none => r

def closeDatabase (r : Realm) (n : Nat) : Realm :=
  r.changeDatabase n fun d => { d with isOpen := false }

def registry (r : Realm) (n : Nat) : List (String × Nat) :=
  ((r.databases[n]?).map Database.registry).getD []

def modelNames (r : Realm) (n : Nat) : List String :=
  ((r.registry n).map Prod.fst).mergeSort fun a b => decide (a ≤ b)

def lookUp? (r : Realm) (n : Nat) (name : String) : Option Model :=
  ((r.registry n).lookup name).bind r.model?

def get (r : Realm) (n : Nat) (name : String) : Except Error Model :=
  match r.lookUp? n name with
  | some m => .ok m
  | none => .error (.usage (.notRegistered name))

def hasModel (r : Realm) (n : Nat) (name : String) : Bool := ((r.registry n).lookup name).isSome

/-- Registers a model. A name that is taken keeps its model. -/
def register (r : Realm) (n : Nat) (name : String) (schema : Schema) (behavior : Behavior) :
    Realm × Model :=
  match r.lookUp? n name with
  | some m => (r, m)
  | none =>
    let (r, m) := r.newModel (some n) name schema behavior
    (r.changeDatabase n fun d => { d with registry := d.registry ++ [(name, m.handle.number)] }, m)

/-- The database that a model belongs to, as long as it is open. -/
def databaseOf? (r : Realm) (m : Model) : Option Nat :=
  m.database.filter fun n => (r.databases[n]?).any Database.isOpen

/-- Takes the model's name out of its database. -/
def destroy (r : Realm) (m : Model) : Realm :=
  match r.databaseOf? m with
  | some n =>
    r.changeDatabase n fun d =>
      { d with registry := d.registry.filter fun (name, _) => name != m.handle.name }
  | none => r

private def registerAll (r : Realm) (n : Nat) :
    List (String × ModelDefinition) → Except Error Realm
  | [] => .ok r
  | (name, model) :: rest => do
    let schema ← model.toSchema
    registerAll (r.register n name schema {}).1 n rest

def ofDefinition (r : Realm) (settings : Settings) (definition : DatabaseDefinition) :
    Except Error (Realm × Nat) := do
  let (r, n) := r.openDatabase settings
  .ok (← r.registerAll n definition.models, n)

/-! ### Files -/

def settingsOf (r : Realm) (n : Nat) : Settings :=
  ((r.databases[n]?).map Database.settings).getD {}

def file (r : Realm) (n : Nat) : Except Error String :=
  match (r.settingsOf n).file with
  | some path => .ok path
  | none => .error (.usage .noFile)

def saved (r : Realm) (n : Nat) : String :=
  let models := (r.modelNames n).filterMap fun name =>
    (r.lookUp? n name).map fun m => (name, m.exported)
  ({ version := (r.settingsOf n).version, engine := engineVersion, models } : DatabaseFile).text

def loadModels (r : Realm) (n : Nat) (source : Source) :
    List (String × List Json) → Except Error Unit × Realm
  | [] => (.ok (), r)
  | (name, docs) :: rest =>
    let (r, m) := r.register n name Schema.initial {}
    let outcome := m.perform source (.load docs)
    let r := r.putModel outcome.model
    match outcome.result with
    | .error e => (.error e, r)
    | .ok _ => loadModels r n source rest

def callback? (settings : Settings) (stored : Nat) : Option VersionCallback :=
  if stored < settings.version then settings.onUpgrade
  else if settings.version < stored then settings.onDowngrade
  else none

/-- Loads the text of a file. Models that have no name yet are registered without a declaration.
What was loaded before a failure stays. -/
def loadText (r : Realm) (n : Nat) (source : Source) (text : String) :
    Except Error Unit × Realm × Option VersionNotice :=
  match DatabaseFile.ofText? text with
  | none => (.error .interchange, r, none)
  | some file =>
    match r.loadModels n source file.models with
    | (.error e, r) => (.error e, r, none)
    | (.ok (), r) =>
      let settings := r.settingsOf n
      match callback? settings file.version with
      | some callback =>
        (callback.run file.version settings.version, r,
          some ⟨callback.label, file.version, settings.version⟩)
      | none => (.ok (), r, none)

/-- Loads the file of a database, given its text unless it does not exist. -/
def load (r : Realm) (n : Nat) (source : Source) (text : Option String) :
    Except Error Unit × Realm × Option VersionNotice :=
  match r.file n, text with
  | .error e, _ => (.error e, r, none)
  | .ok _, none => (.ok (), r, none)
  | .ok _, some text => r.loadText n source text

end Realm

end DocStore
