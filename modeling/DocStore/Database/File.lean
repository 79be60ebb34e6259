import DocStore.Json.Printer
import DocStore.Json.Reader
import DocStore.Json.Record

/-!
# Database files

The text that a database is kept in: versions, and the persisted documents of each model.
-/

namespace DocStore

/-- The version of this engine, which is written into every file. -/
def engineVersion : String := "1.0.1"

structure DatabaseFile where
  version : Nat := 0
  engine : String := ""
  /-- Sorted by name. -/
  models : List (String × List Json) := []

namespace DatabaseFile

/-- A part of a record, or what stands for it when it is missing. -/
def part? {α : Type} (read : Json → Option α) (missing : α) : Option Json → Option α
  | some j => read j
  | none => some missing

def meta? (j : Json) : Option (Nat × String) := do
  let members ← j.record? ["version", "engineVersion"]
  let version ← part? Json.word? 0 (members.lookup "version")
  let engine ← part? Json.string? "" (members.lookup "engineVersion")
  some (version, engine)

/-- Entries sorted by name. Of repeated ones the last counts. -/
def sorted (entries : List (String × List Json)) : List (String × List Json) :=
  let distinct := entries.foldr
    (fun e kept => if kept.any (·.1 == e.1) then kept else e :: kept) []
  distinct.mergeSort fun a b => decide (a.1 ≤ b.1)

def models? : Json → Option (List (String × List Json))
  | .object members => do
    let entries ← members.mapM fun (name, j) => j.array?.map (name, ·)
    some (sorted entries)
  | _ => none

def ofText? (text : String) : Option DatabaseFile := do
  let members ← (← Json.ofText? text).record? ["meta", "models"]
  let (version, engine) ← part? meta? (0, "") (members.lookup "meta")
  let models ← part? models? [] (members.lookup "models")
  some { version, engine, models }

def text (file : DatabaseFile) : String :=
  (Json.object [
    ("meta", .object [("version", .integer file.version), ("engineVersion", .string file.engine)]),
    ("models", .object (file.models.map fun (name, docs) => (name, .array docs)))]).text

end DatabaseFile

end DocStore
