import DocStore.Definition.View
import DocStore.Json.Reader
import DocStore.Yaml.Node.Reader

/-!
# Reading definitions

A definition is read from configuration text or from interchange text. Both readers find the same
parts; only the view of the tree differs.
-/

namespace DocStore

open Yaml

namespace FieldDefinition

def memberNames : List String :=
  ["type", "required", "default", "ref", "items", "fields", "values", "id"]

def typeNames : List String :=
  ["mixed", "string", "number", "integer", "boolean", "date", "array", "object", "buffer", "cuid",
    "enum"]

def strategyNames : List String := ["ulid", "uuid", "nanoid"]

end FieldDefinition

namespace DefinitionView

variable {α : Type} (view : DefinitionView α)

/-- A part that has a value of its own when it is missing. -/
def part? {β : Type} (read : α → Option β) (missing : β) (part : Option α) : Option β :=
  match part with
  | some a => read a
  | none => some missing

def optional? {β : Type} (read : α → Option β) (part : Option α) : Option (Option β) :=
  match part with
  | none => some none
  | some a => do if ← view.isOpen? a then some none else some (some (← read a))

def value? (a : α) : Option Datum := (view.datum? a).filter Datum.isUnambiguous

def typeName? (a : α) : Option TypeName :=
  (view.choice? FieldDefinition.typeNames a).bind TypeName.ofName?

def strategy? (a : α) : Option IdStrategy :=
  (view.choice? FieldDefinition.strategyNames a).bind IdStrategy.ofName?

/-- The parts of a table, sorted by name. Of repeated ones the last counts. -/
def sorted {β : Type} (entries : List (String × β)) : List (String × β) :=
  let distinct := entries.foldr
    (fun (name, b) kept => if kept.any (·.1 == name) then kept else (name, b) :: kept) []
  distinct.mergeSort fun a b => decide (a.1 ≤ b.1)

def table {β : Type} (read : α → Option β) (a : α) : Option (List (String × β)) := do
  let entries ← (← view.table? a).mapM fun (name, a) => (read a).map (name, ·)
  some (sorted entries)

/-- A field's definition, with its items read by `item?`. The fuel bounds how deep fields nest. -/
def field? (item? : α → Option ItemDefinition) : Nat → α → Option FieldDefinition
  | 0, _ => none
  | fuel + 1, a => do
    let members ← view.record? FieldDefinition.memberNames a
    let type ← view.typeName? (← members.lookup "type")
    let required ← part? view.bool? false (members.lookup "required")
    let default ← view.optional? view.value? (members.lookup "default")
    let reference ← view.optional? view.text? (members.lookup "ref")
    let items ← view.optional? item? (members.lookup "items")
    let fields ← part? (view.table (field? item? fuel)) [] (members.lookup "fields")
    let values ← part? (fun a => (view.list? a).bind (·.mapM view.value?)) []
      (members.lookup "values")
    let strategy ← view.optional? view.strategy? (members.lookup "id")
    some (.mk type { required, default, reference, values, strategy } (items.getD .anything) fields)

end DefinitionView

namespace DatabaseDefinition

def item? : Nat → Datum → Option ItemDefinition
  | 0, _ => none
  | fuel + 1, d =>
    match Datum.view.typeName? d with
    | some type => some (.named type)
    | none => (Datum.view.field? (item? fuel) fuel d).map .defined

variable {α : Type} (view : DefinitionView α)

private def model? (item? : α → Option ItemDefinition) (a : α) : Option ModelDefinition := do
  let members ← view.record? ["fields"] a
  let fields ← DefinitionView.part? (view.table (view.field? item? nestingLimit)) []
    (members.lookup "fields")
  some { fields }

private def version? (a : α) : Option Nat := (view.natural? a).filter (· < pow2 32)

private def read? (item? : α → Option ItemDefinition) (a : α) : Option DatabaseDefinition := do
  let members ← view.record? ["version", "models"] a
  let version ← DefinitionView.part? (version? view) 0 (members.lookup "version")
  let models ← DefinitionView.part? (view.table (model? view item?)) [] (members.lookup "models")
  some { version, models }

/-- Reads configuration text. No tag may stand inside the items of an array. -/
def ofConfiguration (text : String) : Except Error DatabaseDefinition :=
  let items (node : Node) := ((Datum.ofNode? node).filter Datum.isUntagged).bind (item? nestingLimit)
  match (Node.ofText? text).bind (read? Node.view items) with
  | some definition => .ok definition
  | none => .error .configuration

def ofInterchange (text : String) : Except Error DatabaseDefinition :=
  match ((Json.ofText? text).map Datum.ofJson).bind (read? Datum.view (item? nestingLimit)) with
  | some definition => .ok definition
  | none => .error .interchange

private def lowerAscii (s : String) : String := String.ofList (s.toList.map Char.toLower)

/-- The part of a file's name after its last dot. A dot in front starts a name, no extension. -/
def extension? (file : String) : Option String :=
  let name := file.toList.reverse.takeWhile (· != '/')
  let rest := name.dropWhile (· != '.')
  if rest.length ≤ 1 then none else some (String.ofList (name.takeWhile (· != '.')).reverse)

/-- Reads the text of a file, which has to be there. Its extension tells the format. -/
def ofFile (file : String) : Option String → Except Error DatabaseDefinition
  | none => .error .file
  | some text =>
    if (extension? file).map lowerAscii == some "json" then ofInterchange text
    else ofConfiguration text

end DatabaseDefinition

end DocStore
