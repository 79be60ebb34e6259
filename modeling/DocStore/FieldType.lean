import DocStore.IdStrategy
import DocStore.Value

/-!
# Field types

The type of a field says how its values are coerced, checked, compared, queried, updated and
persisted. A type is a kind or an array of a type, with options.
-/

namespace DocStore

/-- A field that is computed from the others and never stored. Assigning to it changes others. -/
structure VirtualField where
  getter : Option (Fields → Value) := none
  setter : Option (Fields → Value → Fields) := none

inductive Kind where
  | mixed
  | string
  | number
  | integer
  | boolean
  | date
  | object
  | buffer
  | id (strategy : IdStrategy)
  | enumeration (elements : List Value)
  | virtual (field : VirtualField)

def Kind.name : Kind → String
  | .mixed => "mixed"
  | .string => "string"
  | .number => "number"
  | .integer => "integer"
  | .boolean => "boolean"
  | .date => "date"
  | .object => "object"
  | .buffer => "buffer"
  | .id _ => "cuid"
  | .enumeration _ => "enum"
  | .virtual _ => "virtual"

inductive Default where
  | fixed (v : Value)
  | now

structure Options where
  required : Bool := false
  default : Option Default := none
  /-- The model whose ids the field holds. -/
  reference : Option String := none

inductive FieldType where
  | leaf (kind : Kind) (options : Options)
  | array (child : FieldType) (options : Options)

namespace FieldType

def ofKind (kind : Kind) : FieldType := .leaf kind {}

def mixed : FieldType := ofKind .mixed

def options : FieldType → Options
  | .leaf _ options => options
  | .array _ options => options

def withOptions (options : Options) : FieldType → FieldType
  | .leaf kind _ => .leaf kind options
  | .array child _ => .array child options

def isRequired (type : FieldType) : Bool := type.options.required

def kindName : FieldType → String
  | .leaf kind _ => kind.name
  | .array .. => "array"

def isArray : FieldType → Bool
  | .array .. => true
  | .leaf .. => false

def virtual? : FieldType → Option VirtualField
  | .leaf (.virtual field) _ => some field
  | _ => none

def isVirtual (type : FieldType) : Bool := type.virtual?.isSome

def getter? (type : FieldType) : Option (Fields → Value) := type.virtual?.bind (·.getter)

/-- The model that a field's ids point at; an array without one asks its child type. -/
def referenceTarget : FieldType → Option String
  | .leaf _ options => options.reference
  | .array child options => options.reference <|> child.referenceTarget

end FieldType

end DocStore
