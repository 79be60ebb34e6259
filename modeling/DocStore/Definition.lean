import DocStore.Error
import DocStore.Schema
import DocStore.Yaml.Datum

/-!
# Definitions

The models of a database as a configuration file declares them, and the schemas they stand for.
-/

namespace DocStore

inductive TypeName where
  | mixed
  | string
  | number
  | integer
  | boolean
  | date
  | array
  | object
  | buffer
  | id
  | enumeration
deriving DecidableEq, Repr

def TypeName.ofName? : String → Option TypeName
  | "mixed" => some .mixed
  | "string" => some .string
  | "number" => some .number
  | "integer" => some .integer
  | "boolean" => some .boolean
  | "date" => some .date
  | "array" => some .array
  | "object" => some .object
  | "buffer" => some .buffer
  | "cuid" => some .id
  | "enum" => some .enumeration
  | _ => none

/-- The members of a field's definition that do not nest. -/
structure FieldTraits where
  required : Bool := false
  default : Option Yaml.Datum := none
  reference : Option String := none
  values : List Yaml.Datum := []
  strategy : Option IdStrategy := none

mutual
inductive FieldDefinition where
  | mk (type : TypeName) (traits : FieldTraits) (items : ItemDefinition)
    (fields : List (String × FieldDefinition))
inductive ItemDefinition where
  | anything
  | named (type : TypeName)
  | defined (field : FieldDefinition)
end

structure ModelDefinition where
  /-- Sorted by name. -/
  fields : List (String × FieldDefinition) := []

structure DatabaseDefinition where
  version : Nat := 0
  /-- Sorted by name. -/
  models : List (String × ModelDefinition) := []

/-! ### The schema of a definition -/

/-- The type of a name on its own. An enumeration needs its values, so by its name it is mixed. -/
def TypeName.bare : TypeName → FieldType
  | .mixed => .mixed
  | .enumeration => .mixed
  | .string => .ofKind .string
  | .number => .ofKind .number
  | .integer => .ofKind .integer
  | .boolean => .ofKind .boolean
  | .date => .ofKind .date
  | .array => .array .mixed {}
  | .object => .ofKind .object
  | .buffer => .ofKind .buffer
  | .id => .ofKind (.id .nanoid)

def valueOf (d : Yaml.Datum) : Except Error Value :=
  match d.toValue? with
  | some v => .ok v
  | none => .error .interchange

namespace FieldTraits

def defaultOf (type : TypeName) : Yaml.Datum → Except Error Default
  | .string "now" => .ok (if type == .date then .now else .fixed (.string "now"))
  | d => (valueOf d).map .fixed

def options (traits : FieldTraits) (type : TypeName) : Except Error Options := do
  let default ← match traits.default with
    | some d => (defaultOf type d).map some
    | none => .ok none
  .ok { required := traits.required, default, reference := traits.reference }

end FieldTraits

mutual
def FieldDefinition.toType (path : Path) : FieldDefinition → Except Error FieldType
  | .mk .array traits items _ => do
    let child ← items.toType path
    .ok (.array child (← traits.options .array))
  | .mk .enumeration traits _ _ =>
    if traits.values.isEmpty then .error (.usage (.noElements path))
    else do
      let elements ← traits.values.mapM valueOf
      .ok (.leaf (.enumeration elements) (← traits.options .enumeration))
  | .mk .id traits _ _ => do
    .ok (.leaf (.id (traits.strategy.getD .nanoid)) (← traits.options .id))
  | .mk type traits _ _ => do .ok (type.bare.withOptions (← traits.options type))
def ItemDefinition.toType (path : Path) : ItemDefinition → Except Error FieldType
  | .anything => .ok .mixed
  | .named type => .ok type.bare
  | .defined field => field.toType path
end

mutual
def FieldDefinition.declareIn (path : Path) (schema : Schema) :
    FieldDefinition → Except Error Schema
  | .mk type traits items fields => do
    let whole ← FieldDefinition.toType path (.mk type traits items fields)
    declareFieldsIn (some path) (schema.declare path whole) fields
def declareFieldsIn (parent : Option Path) (schema : Schema) :
    List (String × FieldDefinition) → Except Error Schema
  | [] => .ok schema
  | (name, field) :: rest => do
    let path := match parent with
      | some parent => parent ++ Path.ofText name
      | none => Path.ofText name
    declareFieldsIn parent (← field.declareIn path schema) rest
end

def ModelDefinition.toSchema (model : ModelDefinition) : Except Error Schema :=
  declareFieldsIn none Schema.initial model.fields

end DocStore
