import DocStore.CommandLine.Directory
import DocStore.CommandLine.Grammar
import DocStore.Definition.Reader
import DocStore.Realm.Report
import DocStore.Yaml.Printer

/-!
# Runs of the program

A run takes the directory that it finds to the one that it leaves. A database is saved after a write
has succeeded, and only then.
-/

namespace DocStore.CommandLine

inductive Failure where
  | misuse
  | refused (e : Error)
  | invalid

structure Run where
  directory : Directory
  output : String := ""
  failure : Option Failure := none

namespace Failure

/-- A command line that is not understood has an exit code of its own. -/
def exitCode : Failure → Nat
  | .misuse => 2
  | .refused _ | .invalid => 1

def message : Failure → String
  | .misuse => "error: arguments cannot be understood; see --help\n"
  | .refused e => "ERROR:" ++ e.message ++ "\n"
  | .invalid => "ERROR:validation failed\n"

end Failure

def Run.exitCode (run : Run) : Nat := (run.failure.map Failure.exitCode).getD 0

/-! ### Commands -/

structure Answer where
  shown : Json
  /-- The model after a write. -/
  written : Option Model := none
  failure : Option Failure := none

def interchange (text : String) : Except Error Json :=
  match Json.ofText? text with
  | some j => .ok j
  | none => .error .interchange

namespace DocumentText

def tree : DocumentText → Except Error Json
  | .whole json => interchange json
  | .fields entries =>
    .ok (.object (entries.map fun (key, text) => (key, (Json.ofText? text).getD (.string text))))

end DocumentText

def treeOf (doc : Document) : Json := doc.toJson.1

private def count (n : Nat) : Json := .integer n

/-- A write, and what is shown of the document that it leaves. -/
def writeAnswer (m : Model) (source : Source) (request : Request)
    (shown : Document → Json) : Except Error Answer := do
  let outcome := m.perform source request
  let doc ← outcome.result
  .ok { shown := (doc.map shown).getD .null, written := some outcome.model }

private def findingsTree (f : Findings) : Json :=
  .object [
    ("id", .string f.id), ("errors", .array (f.errors.map fun e => .string e.message)),
    ("warnings", .array (f.warnings.map fun w => .string w.text))]

private def reportTree (r : Report) : Json :=
  .object [
    ("model", .string r.model), ("checked", count r.checked), ("errors", count r.errorCount),
    ("warnings", count r.warningCount), ("documents", .array (r.documents.map findingsTree))]

private def foundDocument (m : Model) (source : Source) (id : String) : Except Error Document :=
  match m.findById source id with
  | some doc => .ok doc
  | none => .error (.idMissing id)

def Command.answer (r : Realm) (n : Nat) (source : Source) (db : String) :
    Command → Except Error Answer
  | .status =>
    let counts := (r.modelNames n).filterMap fun name =>
      (r.lookUp? n name).map fun m => (name, count m.count)
    .ok { shown := .object [
      ("db", .string db), ("version", count (r.settingsOf n).version),
      ("models", .object counts)] }
  | .get model id => do
    let doc ← foundDocument (← r.get n model) source id
    .ok { shown := treeOf doc }
  | .find model query sort skip limit => do
    let selector ← match query with
      | some text => (interchange text).map fun j => Selector.spec (Value.ofJson j)
      | none => .ok .everything
    let q ← (← r.get n model).find source selector {}
    let q := sort.elim q fun text => q.sort (SortSpec.ofText text)
    let q := q.skip skip
    let q := limit.elim q q.limit
    .ok { shown := .array (q.items.map treeOf) }
  | .insert model doc => do
    let tree ← doc.tree
    writeAnswer (← r.get n model) source (.insert (Value.ofJson tree)) fun doc =>
      .object [("id", doc.id?.elim .null .string)]
  | .update model id text => do
    let tree ← interchange text
    writeAnswer (← r.get n model) source (.update id (Value.ofJson tree)) treeOf
  | .remove model id true => do
    let doc ← foundDocument (← r.get n model) source id
    .ok { shown := .object [
      ("dry_run", .bool true),
      ("would_remove", .object [("model", .string model), ("id", .string id)]),
      ("document", treeOf doc)] }
  | .remove model id false => do
    writeAnswer (← r.get n model) source (.remove id) fun _ =>
      .object [("ok", .bool true), ("removed", .string id)]
  | .export model => do .ok { shown := .array (← r.get n model).exported }
  | .validate =>
    let models := (r.modelNames n).filterMap (r.lookUp? n)
    let reports := models.zipIdx.map fun (m, i) => r.report m (source.branch i)
    let isOk := reports.all Report.isOk
    .ok { shown := .object [("ok", .bool isOk), ("models", .array (reports.map reportTree))]
          failure := if isOk then none else some .invalid }

/-! ### Invocations -/

namespace Invocation

def place (i : Invocation) : Place := Place.ofPath i.db

/-- The database with the models of the schema and the documents of its file. -/
def openDatabase (i : Invocation) (source : Source) (d : Directory) : Except Error (Realm × Nat) := do
  let settings : Settings := { file := some i.db }
  let (r, n) ← match i.schema with
    | none => .ok (({} : Realm).openDatabase settings)
    | some path => do
      let definition ← DatabaseDefinition.ofFile path (d.text? (Place.ofPath path))
      ({} : Realm).ofDefinition { settings with version := definition.version } definition
  let (result, r, _) := r.load n source (← d.read? i.place)
  result.map fun _ => (r, n)

def answer (i : Invocation) (source : Source) (d : Directory) : Except Error (Answer × Directory) := do
  let (r, n) ← i.openDatabase (source.branch 0) d
  let answer ← i.command.answer r n (source.branch 1) i.db
  match answer.written with
  | none => .ok (answer, d)
  | some m => .ok (answer, ← d.write i.place ((r.putModel m).saved n))

def print (i : Invocation) (j : Json) : String :=
  match i.format with
  | .yaml => Yaml.text j
  | .json => j.pretty ++ "\n"

def run (i : Invocation) (source : Source) (d : Directory) : Run :=
  match i.answer source d with
  | .error e => { directory := d, failure := some (.refused e) }
  | .ok (answer, directory) =>
    { directory, output := i.print answer.shown, failure := answer.failure }

end Invocation

def versionText : String := "warehouse " ++ engineVersion ++ "\n"

def helpText : String :=
  "Usage: warehouse [OPTIONS] <COMMAND>\n\nCommands:\n"
    ++ String.join (programLevel.commands.map fun name => "  " ++ name ++ "\n")
    ++ "\nOptions:\n"
    ++ String.join (programLevel.options.map fun rule => "  --" ++ rule.name ++ "\n")

def run (source : Source) (d : Directory) (words : List String) : Run :=
  match Invocation.ofWords words with
  | .ok i => i.run source d
  | .error .help => { directory := d, output := helpText }
  | .error .version => { directory := d, output := versionText }
  | .error .misuse => { directory := d, failure := some .misuse }

end DocStore.CommandLine
